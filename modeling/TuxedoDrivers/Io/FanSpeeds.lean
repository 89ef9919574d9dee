import Mathlib.Tactic.IntervalCases
import TuxedoDrivers.Io.IoctlErrors
import TuxedoDrivers.Words.Bytes

/-!
# Fan speeds sent to the Clevo firmware

`W_CL_FANSPEED` gets one word with the speeds of three fans.  No speed between
off and the minimum reaches the firmware, and every fan gets what was meant
for it.
-/

namespace TuxedoDrivers.Io.Ioctl

open Interaction Uniwill Words

/-! ## One speed -/

/-- The fan is off, or runs at least at the minimum speed. -/
def AllowedFanspeed (fanspeed : U8) : Prop :=
  fanspeed = 0 ∨ 63 ≤ fanspeed.toNat ∧ fanspeed.toNat ≤ 255

theorem toNat_raiseFanspeed (fanspeed : U8) :
    (raiseFanspeed fanspeed).toNat =
      if fanspeed.toNat < 31 then 0
      else if fanspeed.toNat < 63 then 63
      else fanspeed.toNat := by
  have half : fanOnMinSpeedPercent * nb01FanSpeedMax / 2 / 100 = 31 := by
    decide
  have least : fanOnMinSpeedPercent * nb01FanSpeedMax / 100 = 63 := by
    decide
  unfold raiseFanspeed
  rw [half, least, apply_ite BitVec.toNat, apply_ite BitVec.toNat]
  rfl

theorem allowed_raiseFanspeed (fanspeed : U8) :
    AllowedFanspeed (raiseFanspeed fanspeed) := by
  have raised := toNat_raiseFanspeed fanspeed
  have bound : fanspeed.toNat < 256 := fanspeed.isLt
  unfold AllowedFanspeed
  by_cases off : fanspeed.toNat < 31
  · rw [if_pos off] at raised
    exact Or.inl (BitVec.eq_of_toNat_eq raised)
  · rw [if_neg off] at raised
    right
    split at raised <;> omega

theorem raiseFanspeed_of_allowed {fanspeed : U8}
    (allowed : AllowedFanspeed fanspeed) :
    raiseFanspeed fanspeed = fanspeed := by
  apply BitVec.eq_of_toNat_eq
  rw [toNat_raiseFanspeed]
  rcases allowed with rfl | ⟨least, -⟩
  · decide
  · have running : ¬ fanspeed.toNat < 31 := by
      omega
    rw [if_neg running, if_neg (not_lt.mpr least)]

theorem raiseFanspeed_mono {low high : U8} (ordered : low ≤ high) :
    raiseFanspeed low ≤ raiseFanspeed high := by
  have values : low.toNat ≤ high.toNat := ordered
  rw [BitVec.le_def, toNat_raiseFanspeed, toNat_raiseFanspeed]
  split_ifs <;> omega

/-! ## The word of the three fans -/

theorem fanspeedArgument_eq_packBytes (argument : U32) :
    fanspeedArgument argument =
      packBytes 32
        [raiseFanspeed (byteAt argument 0), raiseFanspeed (byteAt argument 1),
          raiseFanspeed (byteAt argument 2)] := by
  have shifted : ∀ first second third : U32,
      first ||| second <<< 8 ||| third <<< 16 =
        first |||
          (second ||| (third ||| (0 : U32) <<< 8) <<< 8) <<< 8 := by
    intro first second third
    have nothing : third ||| (0 : U32) <<< 8 = third := by
      simp
    rw [nothing, BitVec.shiftLeft_or_distrib,
      ← BitVec.shiftLeft_add, BitVec.or_assoc]
  exact shifted _ _ _

/-- Every fan has its own byte. -/
theorem byteAt_fanspeedArgument (argument : U32) {fan : Nat}
    (isFan : fan < 3) :
    byteAt (fanspeedArgument argument) fan =
      raiseFanspeed (byteAt argument fan) := by
  rw [fanspeedArgument_eq_packBytes, byteAt_packBytes _ _ (by omega)]
  interval_cases fan <;> rfl

theorem topByte_fanspeedArgument (argument : U32) :
    byteAt (fanspeedArgument argument) 3 = 0 := by
  rw [fanspeedArgument_eq_packBytes, byteAt_packBytes _ _ (by omega)]
  rfl

/-- A word that may be sent. -/
structure AllowedFanspeeds (word : U32) : Prop where
  topByte : byteAt word 3 = 0
  fanspeeds : ∀ fan < 3, AllowedFanspeed (byteAt word fan)

theorem allowed_fanspeedArgument (argument : U32) :
    AllowedFanspeeds (fanspeedArgument argument) := by
  constructor
  · exact topByte_fanspeedArgument argument
  · intro fan isFan
    rw [byteAt_fanspeedArgument argument isFan]
    exact allowed_raiseFanspeed _

theorem fanspeedArgument_of_allowed {argument : U32}
    (allowed : AllowedFanspeeds argument) :
    fanspeedArgument argument = argument := by
  apply eq_of_byteAt_eq
  intro index inside
  by_cases isFan : index < 3
  · rw [byteAt_fanspeedArgument argument isFan]
    exact raiseFanspeed_of_allowed (allowed.fanspeeds index isFan)
  · have top : index = 3 := by
      omega
    rw [top, topByte_fanspeedArgument, allowed.topByte]

/-! ## The firmware call -/

/-- The word that a call sends as the fan speeds. -/
def fanspeedWord : Event ioSignature → Option U32
  | ⟨.kernel (.clevoEvaluateMethod cmd word), _⟩ =>
      if cmd = clevoCmdSetFanspeedValue then some word else none
  | _ => none

/-- The words that a command sends as the fan speeds. -/
def sentFanspeeds {σ : Type} (world : IoWorld σ) (dmi : Dmi)
    (command : IoctlCommand) (arg : U64) (state : IoStatics × σ) :
    List U32 :=
  (ioctlTrace world dmi command arg state).filterMap fanspeedWord

theorem sentFanspeeds_wClFanspeed {σ : Type} (world : IoWorld σ)
    (dmi : Dmi) (arg : U64) (state : IoStatics × σ) :
    sentFanspeeds world dmi .wClFanspeed arg state =
      [fanspeedArgument (argumentCopied world arg state).argument] := by
  rfl

/-- One word is sent, with what each fan may get of the argument. -/
theorem fanspeed_normalised (argument : U32) :
    (∀ {σ : Type} (world : IoWorld σ) (dmi : Dmi) (arg : U64)
        (state : IoStatics × σ),
      argumentCopied world arg state = ⟨0, argument⟩ →
      sentFanspeeds world dmi .wClFanspeed arg state =
        [fanspeedArgument argument]) ∧
      AllowedFanspeeds (fanspeedArgument argument) ∧
      (∀ other, ∀ fan < 3, byteAt argument fan = byteAt other fan →
        byteAt (fanspeedArgument argument) fan =
          byteAt (fanspeedArgument other) fan) ∧
      (∀ other, ∀ fan < 3, byteAt argument fan ≤ byteAt other fan →
        byteAt (fanspeedArgument argument) fan ≤
          byteAt (fanspeedArgument other) fan) ∧
      (∀ fan < 3, AllowedFanspeed (byteAt argument fan) →
        byteAt (fanspeedArgument argument) fan = byteAt argument fan) ∧
      (AllowedFanspeeds argument → fanspeedArgument argument = argument) ∧
      fanspeedArgument (fanspeedArgument argument) =
        fanspeedArgument argument := by
  refine ⟨?_, allowed_fanspeedArgument argument, ?_, ?_, ?_, ?_, ?_⟩
  · intro σ world dmi arg state copied
    rw [sentFanspeeds_wClFanspeed, copied]
  · intro other fan isFan same
    rw [byteAt_fanspeedArgument argument isFan,
      byteAt_fanspeedArgument other isFan, same]
  · intro other fan isFan ordered
    rw [byteAt_fanspeedArgument argument isFan,
      byteAt_fanspeedArgument other isFan]
    exact raiseFanspeed_mono ordered
  · intro fan isFan allowed
    rw [byteAt_fanspeedArgument argument isFan]
    exact raiseFanspeed_of_allowed allowed
  · exact fanspeedArgument_of_allowed
  · exact fanspeedArgument_of_allowed (allowed_fanspeedArgument argument)

end TuxedoDrivers.Io.Ioctl
