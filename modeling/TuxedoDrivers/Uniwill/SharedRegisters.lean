import TuxedoDrivers.Interaction.Interleaving
import TuxedoDrivers.Io.Tdp
import TuxedoDrivers.Uniwill.Backlight
import TuxedoDrivers.Uniwill.FanControl

/-!
# Registers that operations share

Some EC registers hold the bits of several settings.  The operations behind
them run in different contexts, and the lock of the back end covers one
access only, so another operation can come between the read and the write of
an update.

An operation that owns some bits of a register, whatever else happens to the
register, is characterised by a predicate on its program.  The main result
uses it for the pairs of operations that share a register: unless an update
is written over a register that changed since it was read, the register ends
as if the operations had run one after the other.
-/

namespace TuxedoDrivers.Uniwill

open Interaction

/-! ## Bits of a register -/

section Bits

variable {w : Nat} {byte other mask field value : BitVec w}

private theorem compl_and_of_apart (apart : field &&& mask = 0#w) :
    ~~~mask &&& field = field := by
  ext index below
  have bit := congrArg (fun bits : BitVec w => bits[index]) apart
  simp only [BitVec.getElem_and, BitVec.getElem_not,
    BitVec.getElem_zero] at bit ⊢
  cases shape : field[index] <;> simp_all

/-- What is the same outside some bits is the same in every field apart from
them. -/
theorem and_eq_of_outside
    (outside : byte &&& ~~~mask = other &&& ~~~mask)
    (apart : field &&& mask = 0#w) :
    byte &&& field = other &&& field := by
  rw [← compl_and_of_apart apart, ← BitVec.and_assoc, ← BitVec.and_assoc,
    outside]

theorem replaced_outside (within : value &&& ~~~mask = 0#w) :
    ((byte &&& ~~~mask) ||| value) &&& ~~~mask = byte &&& ~~~mask := by
  rw [BitVec.and_or_distrib_right, within, BitVec.or_zero,
    BitVec.and_assoc, BitVec.and_self]

theorem replaced_inside (within : value &&& ~~~mask = 0#w) :
    ((byte &&& ~~~mask) ||| value) &&& mask = value := by
  ext index below
  have bit := congrArg (fun bits : BitVec w => bits[index]) within
  simp only [BitVec.getElem_and, BitVec.getElem_or, BitVec.getElem_not,
    BitVec.getElem_zero] at bit ⊢
  cases shape : mask[index] <;> simp_all

theorem compl_or_and_left :
    ~~~(mask ||| field) &&& mask = 0#w := by
  ext index below
  simp only [BitVec.getElem_and, BitVec.getElem_or, BitVec.getElem_not,
    BitVec.getElem_zero]
  cases mask[index] <;> simp

/-- A byte is known by two fields and what is outside both. -/
theorem eq_of_fields
    (inMask : byte &&& mask = other &&& mask)
    (inField : byte &&& field = other &&& field)
    (outside :
      byte &&& ~~~(mask ||| field) = other &&& ~~~(mask ||| field)) :
    byte = other := by
  ext index below
  have bit := congrArg (fun bits : BitVec w => bits[index]) inMask
  have bit' := congrArg (fun bits : BitVec w => bits[index]) inField
  have bit'' := congrArg (fun bits : BitVec w => bits[index]) outside
  simp only [BitVec.getElem_and, BitVec.getElem_or,
    BitVec.getElem_not] at bit bit' bit''
  cases shape : mask[index] <;> cases shape' : field[index] <;> simp_all

end Bits

/-! ## Owning bits of a register -/

section OwnsBits

variable (address : U16) (mask : U8) (known : DriverState → Prop)

/-- The program changes only the bits `mask` of the register, and what it
makes of them does not depend on the others, whatever these become while it
runs.  `held` is what it read last, `bits` what its own bits are; in the end
`post` holds of the result and these two. -/
def OwnsBits {α : Type} (post : α → Option U8 → U8 → Prop) :
    Option U8 → U8 → Driver α → Prop
  | held, bits, .done value => post value held bits
  | held, bits, .ask (.readEcRam read) next =>
      ∀ byte, (read = address → byte &&& mask = bits) →
        OwnsBits post (if read = address then some byte else held) bits
          (next (.ok byte))
  | held, bits, .ask (.writeEcRam written data) next =>
      if written = address then
        (∃ byte ∈ held, data &&& ~~~mask = byte &&& ~~~mask) ∧
          OwnsBits post held (data &&& mask) (next .ok)
      else OwnsBits post held bits (next .ok)
  | held, bits, .ask (.statics update) next =>
      ∀ statics, known statics →
        known (update statics) ∧ OwnsBits post held bits (next statics)

variable {address mask known} {α β : Type}

@[simp]
theorem ownsBits_pure
    {post : α → Option U8 → U8 → Prop} {held : Option U8} {bits : U8}
    {value : α} :
    OwnsBits address mask known post held bits (pure value) ↔
      post value held bits :=
  Iff.rfl

@[simp]
theorem ownsBits_read
    {post : EcRead → Option U8 → U8 → Prop} {held : Option U8} {bits : U8}
    {read : U16} :
    OwnsBits address mask known post held bits (uniwillReadEcRam read) ↔
      ∀ byte, (read = address → byte &&& mask = bits) →
        post (.ok byte) (if read = address then some byte else held) bits :=
  Iff.rfl

@[simp]
theorem ownsBits_write
    {post : EcWrite → Option U8 → U8 → Prop} {held : Option U8} {bits : U8}
    {written : U16} {data : U8} :
    OwnsBits address mask known post held bits
        (uniwillWriteEcRam written data) ↔
      if written = address then
        (∃ byte ∈ held, data &&& ~~~mask = byte &&& ~~~mask) ∧
          post .ok held (data &&& mask)
      else post .ok held bits :=
  Iff.rfl

@[simp]
theorem ownsBits_getStatics
    {post : DriverState → Option U8 → U8 → Prop} {held : Option U8}
    {bits : U8} :
    OwnsBits address mask known post held bits getStatics ↔
      ∀ statics, known statics →
        known statics ∧ post statics held bits :=
  Iff.rfl

@[simp]
theorem ownsBits_setStatics
    {post : Unit → Option U8 → U8 → Prop} {held : Option U8} {bits : U8}
    {update : DriverState → DriverState} :
    OwnsBits address mask known post held bits (setStatics update) ↔
      ∀ statics, known statics →
        known (update statics) ∧ post () held bits :=
  Iff.rfl

/-- What a program leaves is what the rest of it starts from. -/
theorem OwnsBits.andThen
    {post : α → Option U8 → U8 → Prop} {last : β → Option U8 → U8 → Prop}
    {rest : α → Driver β}
    (continues : ∀ value held bits, post value held bits →
      OwnsBits address mask known last held bits (rest value))
    {held : Option U8} {bits : U8} {program : Driver α}
    (owns : OwnsBits address mask known post held bits program) :
    OwnsBits address mask known last held bits (program >>= rest) := by
  change OwnsBits address mask known last held bits (program.bind rest)
  induction program generalizing held bits with
  | done value =>
      exact continues value held bits owns
  | ask request next inductionHypothesis =>
      cases request with
      | readEcRam read =>
          exact fun byte ownBits =>
            inductionHypothesis _ (owns byte ownBits)
      | writeEcRam written data =>
          change OwnsBits address mask known last held bits
            (.ask (.writeEcRam written data) _)
          unfold OwnsBits at owns ⊢
          by_cases here : written = address
          · rw [if_pos here] at owns ⊢
            exact ⟨owns.1, inductionHypothesis _ owns.2⟩
          · rw [if_neg here] at owns ⊢
            exact inductionHypothesis _ owns
      | statics update =>
          exact fun statics isKnown =>
            ⟨(owns statics isKnown).1,
              inductionHypothesis _ (owns statics isKnown).2⟩

theorem OwnsBits.mono
    {post wider : α → Option U8 → U8 → Prop}
    (implies : ∀ value held bits, post value held bits →
      wider value held bits)
    {held : Option U8} {bits : U8} {program : Driver α}
    (owns : OwnsBits address mask known post held bits program) :
    OwnsBits address mask known wider held bits program := by
  have continued :
      OwnsBits address mask known wider held bits (program >>= pure) :=
    owns.andThen implies
  rwa [bind_pure] at continued

theorem OwnsBits.bind
    {post : β → Option U8 → U8 → Prop} {held : Option U8} {bits : U8}
    {program : Driver α} {rest : α → Driver β}
    (owns :
      OwnsBits address mask known
        (fun value held bits =>
          OwnsBits address mask known post held bits (rest value))
        held bits program) :
    OwnsBits address mask known post held bits (program >>= rest) :=
  owns.andThen fun _ _ _ continued => continued

/-- A request that is not about the register and keeps what is known of the
static variables. -/
def Elsewhere (address : U16) (known : DriverState → Prop) :
    UniwillRequest → Prop
  | .readEcRam read => read ≠ address
  | .writeEcRam written _ => written ≠ address
  | .statics update => ∀ statics, known statics → known (update statics)

/-- Frame rule: a program that leaves the register alone owns any bits of
it. -/
theorem OwnsBits.of_elsewhere
    {post : α → Option U8 → U8 → Prop} {held : Option U8} {bits : U8}
    {program : Driver α}
    (asks : program.Asks (Elsewhere address known))
    (holds : ∀ value, post value held bits) :
    OwnsBits address mask known post held bits program := by
  induction program with
  | done value =>
      exact holds value
  | ask request next inductionHypothesis =>
      cases request with
      | readEcRam read =>
          intro byte _
          rw [if_neg asks.1]
          exact inductionHypothesis _ (asks.2 _)
      | writeEcRam written data =>
          unfold OwnsBits
          rw [if_neg asks.1]
          exact inductionHypothesis _ (asks.2 _)
      | statics update =>
          exact fun statics isKnown =>
            ⟨asks.1 statics isKnown, inductionHypothesis _ (asks.2 _)⟩

/-! ## One operation alone -/

variable (address mask known) in
/-- An operation under way, at the content of the register.  While it is
fresh, what it read last is still there outside its own bits. -/
def Underway (post : α → Option U8 → U8 → Prop) (fresh : Bool)
    (content : U8) (program : Driver α) : Prop :=
  ∃ held,
    OwnsBits address mask known post held (content &&& mask) program ∧
      (fresh = true → ∀ byte ∈ held,
        content &&& ~~~mask = byte &&& ~~~mask)

section Underway

variable {post : α → Option U8 → U8 → Prop} {fresh : Bool} {content : U8}

theorem Underway.read
    {read : U16} {next : EcRead → Driver α}
    (underway :
      Underway address mask known post fresh content
        (.ask (.readEcRam read) next))
    (byte : U8) (reads : read = address → byte = content) :
    Underway address mask known post
      (if read = address then true else fresh) content
      (next (.ok byte)) := by
  obtain ⟨held, owns, upToDate⟩ := underway
  refine ⟨_, owns byte fun here => by rw [reads here], ?_⟩
  by_cases here : read = address
  · rintro - last holds
    rw [if_pos here, Option.mem_some] at holds
    rw [← holds, reads here]
  · rw [if_neg here, if_neg here]
    exact upToDate

/-- A fresh operation writes back what is outside its own bits. -/
theorem Underway.write
    {data : U8} {next : EcWrite → Driver α}
    (underway :
      Underway address mask known post true content
        (.ask (.writeEcRam address data) next)) :
    Underway address mask known post true data (next .ok) ∧
      data &&& ~~~mask = content &&& ~~~mask := by
  obtain ⟨held, owns, upToDate⟩ := underway
  unfold OwnsBits at owns
  rw [if_pos rfl] at owns
  obtain ⟨⟨byte, holds, replaced⟩, later⟩ := owns
  refine
    ⟨⟨held, later, ?_⟩, replaced.trans (upToDate rfl byte holds).symm⟩
  rintro - last holdsLast
  rw [replaced, Option.mem_unique holds holdsLast]

theorem Underway.writeElsewhere
    {written : U16} (elsewhere : written ≠ address)
    {data : U8} {next : EcWrite → Driver α}
    (underway :
      Underway address mask known post fresh content
        (.ask (.writeEcRam written data) next)) :
    Underway address mask known post fresh content (next .ok) := by
  obtain ⟨held, owns, upToDate⟩ := underway
  unfold OwnsBits at owns
  rw [if_neg elsewhere] at owns
  exact ⟨held, owns, upToDate⟩

theorem Underway.statics
    {update : DriverState → DriverState} {next : DriverState → Driver α}
    {statics : DriverState} (isKnown : known statics)
    (underway :
      Underway address mask known post fresh content
        (.ask (.statics update) next)) :
    Underway address mask known post fresh content (next statics) ∧
      known (update statics) := by
  obtain ⟨held, owns, upToDate⟩ := underway
  exact
    ⟨⟨held, (owns statics isKnown).2, upToDate⟩, (owns statics isKnown).1⟩

/-- A write of another operation that spares the bits. -/
theorem Underway.interrupted
    {program : Driver α} {after : U8}
    (underway : Underway address mask known post fresh content program)
    (spared : after &&& mask = content &&& mask) :
    Underway address mask known post false after program := by
  obtain ⟨held, owns, -⟩ := underway
  rw [← spared] at owns
  exact ⟨held, owns, fun isFresh => absurd isFresh (by decide)⟩

/-- Run by itself, an operation leaves its bits as its predicate says and the
others as they were. -/
theorem Underway.run
    {program : Driver α} (machine : Machine Ram)
    (underway :
      Underway address mask known post true (machine.2 address) program)
    (isKnown : known machine.1) :
    let after := reliableEc.run program machine
    (∃ last, post after.1 last (after.2.2 address &&& mask)) ∧
      after.2.2 address &&& ~~~mask = machine.2 address &&& ~~~mask ∧
      known after.2.1 := by
  induction program generalizing machine with
  | done value =>
      obtain ⟨held, ends, -⟩ := underway
      exact ⟨⟨held, ends⟩, rfl, isKnown⟩
  | ask request next inductionHypothesis =>
      cases request with
      | readEcRam read =>
          have later :=
            underway.read (machine.2 read) fun here => by rw [here]
          rw [ite_self] at later
          exact inductionHypothesis _ machine later isKnown
      | writeEcRam written data =>
          let after : Machine Ram :=
            (machine.1, Function.update machine.2 written data)
          by_cases here : written = address
          · subst here
            have content : after.2 written = data :=
              Function.update_self written data machine.2
            obtain ⟨later, kept⟩ := underway.write
            rw [← content] at later
            obtain ⟨ends, stillKept, stillKnown⟩ :=
              inductionHypothesis .ok after later isKnown
            rw [content, kept] at stillKept
            exact ⟨ends, stillKept, stillKnown⟩
          · have content : after.2 address = machine.2 address :=
              Function.update_of_ne (Ne.symm here) data machine.2
            have later := underway.writeElsewhere here
            rw [← content] at later
            obtain ⟨ends, stillKept, stillKnown⟩ :=
              inductionHypothesis .ok after later isKnown
            rw [content] at stillKept
            exact ⟨ends, stillKept, stillKnown⟩
      | statics update =>
          obtain ⟨later, stillKnown⟩ := underway.statics isKnown
          exact
            inductionHypothesis machine.1 (update machine.1, machine.2)
              later stillKnown

end Underway

end OwnsBits

/-! ## Several operations together -/

section Together

variable {ι : Type} [DecidableEq ι]

/-- Follow which threads have read the register since another last wrote it.
A write by a thread that has not is not let pass. -/
def observeRegister (address : U16) (fresh : ι → Bool) :
    ι × Event uniwillSignature → Option (ι → Bool)
  | (thread, ⟨.readEcRam read, _⟩) =>
      some
        (if read = address then Function.update fresh thread true
        else fresh)
  | (thread, ⟨.writeEcRam written _, _⟩) =>
      if written = address then
        if fresh thread = true then some fun other => decide (other = thread)
        else none
      else some fresh
  | (_, ⟨.statics _, _⟩) => some fresh

/-- Every write of the register comes from a read since which no other
thread has written it. -/
def Undisturbed (address : U16)
    (trace : List (ι × Event uniwillSignature)) : Prop :=
  (trace.foldlM (observeRegister address) fun _ => false).isSome = true

instance (address : U16) (trace : List (ι × Event uniwillSignature)) :
    Decidable (Undisturbed address trace) :=
  inferInstanceAs (Decidable (_ = true))

variable {α : Type} (address : U16) (mask : ι → U8)
  (known : DriverState → Prop)
  (post : ι → α → Option U8 → U8 → Prop) (initial : U8)

/-- Every thread is under way, and the bits no thread owns are as in the
beginning. -/
structure SharesRegister (fresh : ι → Bool)
    (programs : ι → Driver α) (machine : Machine Ram) : Prop where
  isKnown : known machine.1
  others :
    ∀ field, (∀ thread, field &&& mask thread = 0#8) →
      machine.2 address &&& field = initial &&& field
  underway :
    ∀ thread,
      Underway address (mask thread) known (post thread) (fresh thread)
        (machine.2 address) (programs thread)

variable {address mask known post initial} {fresh : ι → Bool}
  {programs : ι → Driver α} {machine : Machine Ram} {thread : ι}

private theorem SharesRegister.advance
    (shares :
      SharesRegister address mask known post initial fresh programs machine)
    {next : Driver α} {fresh' : ι → Bool} {after : Machine Ram}
    (content : after.2 address = machine.2 address)
    (stillKnown : known after.1)
    (same : ∀ other, other ≠ thread → fresh' other = fresh other)
    (stepped :
      Underway address (mask thread) known (post thread) (fresh' thread)
        (machine.2 address) next) :
    SharesRegister address mask known post initial fresh'
      (Function.update programs thread next) after where
  isKnown := stillKnown
  others field apart := by
    rw [content]
    exact shares.others field apart
  underway other := by
    rw [content]
    by_cases itself : other = thread
    · subst itself
      rwa [Function.update_self]
    · rw [Function.update_of_ne itself, same other itself]
      exact shares.underway other

private theorem SharesRegister.write
    (apart : ∀ thread other, thread ≠ other →
      mask thread &&& mask other = 0#8)
    (shares :
      SharesRegister address mask known post initial fresh programs machine)
    {data : U8} {next : Driver α} {after : Machine Ram}
    (content : after.2 address = data)
    (stillKnown : known after.1)
    (spared :
      data &&& ~~~mask thread = machine.2 address &&& ~~~mask thread)
    (stepped :
      Underway address (mask thread) known (post thread) true data next) :
    SharesRegister address mask known post initial
      (fun other => decide (other = thread))
      (Function.update programs thread next) after where
  isKnown := stillKnown
  others field outside := by
    rw [content, and_eq_of_outside spared (outside thread)]
    exact shares.others field outside
  underway other := by
    rw [content]
    by_cases itself : other = thread
    · subst itself
      rwa [Function.update_self, decide_eq_true rfl]
    · rw [Function.update_of_ne itself, decide_eq_false itself]
      exact
        (shares.underway other).interrupted
          (and_eq_of_outside spared (apart other thread itself))

private theorem SharesRegister.afterRead
    (shares :
      SharesRegister address mask known post initial fresh programs machine)
    {read : U16} {next : EcRead → Driver α}
    (shape : programs thread = .ask (.readEcRam read) next) :
    SharesRegister address mask known post initial
      (if read = address then Function.update fresh thread true else fresh)
      (Function.update programs thread (next (.ok (machine.2 read))))
      machine := by
  have underway := shares.underway thread
  rw [shape] at underway
  have later := underway.read (machine.2 read) fun here => by rw [here]
  refine shares.advance rfl shares.isKnown ?_ ?_
  · intro other distinct
    split
    · exact Function.update_of_ne distinct true fresh
    · rfl
  · by_cases here : read = address
    · rw [if_pos here] at later
      rwa [if_pos here, Function.update_self]
    · rw [if_neg here] at later
      rwa [if_neg here]

private theorem SharesRegister.afterWrite
    (apart : ∀ thread other, thread ≠ other →
      mask thread &&& mask other = 0#8)
    (shares :
      SharesRegister address mask known post initial fresh programs machine)
    {written : U16} {data : U8} {next : EcWrite → Driver α}
    (shape : programs thread = .ask (.writeEcRam written data) next)
    {outcome : EcWrite} {fresh' : ι → Bool}
    (passed :
      observeRegister address fresh
          (thread, ⟨.writeEcRam written data, outcome⟩) =
        some fresh') :
    SharesRegister address mask known post initial fresh'
      (Function.update programs thread (next .ok))
      (machine.1, Function.update machine.2 written data) := by
  have underway := shares.underway thread
  rw [shape] at underway
  by_cases here : written = address
  · subst here
    have isFresh : fresh thread = true := by
      by_contra stale
      simp only [observeRegister, if_true, stale] at passed
      cases passed
    simp only [observeRegister, if_true, isFresh] at passed
    cases passed
    rw [isFresh] at underway
    obtain ⟨later, spared⟩ := underway.write
    have content : Function.update machine.2 written data written = data :=
      Function.update_self written data machine.2
    exact shares.write apart content shares.isKnown spared later
  · simp only [observeRegister, if_neg here] at passed
    cases passed
    have content :
        Function.update machine.2 written data address =
          machine.2 address :=
      Function.update_of_ne (Ne.symm here) data machine.2
    exact
      shares.advance content shares.isKnown (fun _ _ => rfl)
        (underway.writeElsewhere here)

/-- A step that is let pass keeps the threads under way. -/
private theorem sharesRegister_step
    (apart : ∀ thread other, thread ≠ other →
      mask thread &&& mask other = 0#8)
    {threads after : Threads uniwillSignature ι α (Machine Ram)}
    {event : Event uniwillSignature} {fresh' : ι → Bool}
    (stepped :
      threads.step reliableEc.environment thread = some (event, after))
    (passed : observeRegister address fresh (thread, event) = some fresh')
    (shares :
      SharesRegister address mask known post initial fresh threads.programs
        threads.state) :
    SharesRegister address mask known post initial fresh' after.programs
      after.state := by
  cases shape : threads.programs thread with
  | done value =>
      rw [Threads.step_of_done shape] at stepped
      cases stepped
  | ask request next =>
      rw [Threads.step_of_ask shape] at stepped
      cases stepped
      cases request with
      | readEcRam read =>
          cases passed
          exact shares.afterRead shape
      | writeEcRam written data =>
          exact shares.afterWrite apart shape passed
      | statics update =>
          cases passed
          have underway := shares.underway thread
          rw [shape] at underway
          obtain ⟨later, stillKnown⟩ := underway.statics shares.isKnown
          exact
            shares.advance rfl stillKnown (fun _ _ => rfl) later

variable (mask known post) in
/-- Operations that own different bits of a register all get their way, if
no update is disturbed. -/
theorem sharedRegister_bits
    (apart : ∀ thread other, thread ≠ other →
      mask thread &&& mask other = 0#8)
    (isKnown : known machine.1)
    (owns : ∀ thread,
      OwnsBits address (mask thread) known (post thread) none
        (machine.2 address &&& mask thread) (programs thread))
    (schedule : List ι)
    (undisturbed :
      Undisturbed address
        (Threads.trace reliableEc.environment schedule
          ⟨programs, machine⟩))
    {after : Threads uniwillSignature ι α (Machine Ram)}
    (ran :
      Threads.run reliableEc.environment schedule ⟨programs, machine⟩ =
        after)
    (finished : after.Finished) :
    (∀ thread, ∃ value held,
        post thread value held (after.state.2 address &&& mask thread)) ∧
      ∀ field, (∀ thread, field &&& mask thread = 0#8) →
        after.state.2 address &&& field = machine.2 address &&& field := by
  obtain ⟨fresh', observed⟩ := Option.isSome_iff_exists.mp undisturbed
  have initially :
      SharesRegister address mask known post (machine.2 address)
        (fun _ => false) programs machine :=
    ⟨isKnown, fun _ _ => rfl, fun thread =>
      ⟨none, owns thread, fun isFresh => absurd isFresh (by decide)⟩⟩
  have shares :
      SharesRegister address mask known post (machine.2 address) fresh'
        after.programs after.state := by
    rw [← ran]
    exact
      Threads.run_preserves
        (fun fresh threads =>
          SharesRegister address mask known post (machine.2 address) fresh
            threads.programs threads.state)
        (fun stepped passed shares =>
          sharesRegister_step apart stepped passed shares)
        schedule observed initially
  refine ⟨fun thread => ?_, shares.others⟩
  obtain ⟨value, done⟩ := finished thread
  obtain ⟨held, ends, -⟩ := shares.underway thread
  rw [done] at ends
  exact ⟨value, held, ends⟩

end Together

/-! ## The operations -/

section Operations

/-- On a device with these features, the operation makes `expected` of its
bits. -/
def OwnsAs {α : Type} (address : U16) (mask : U8)
    (features : DeviceFeatures) (operation : Driver α)
    (expected : U8 → U8) : Prop :=
  ∀ content : U8,
    OwnsBits address mask
      (fun statics => statics.uniwillDeviceFeatures = features)
      (fun _ _ bits => bits = expected (content &&& mask))
      none (content &&& mask) operation

/-- What the operation makes of its bits is a function of these bits. -/
def OwnsField (address : U16) (mask : U8) (features : DeviceFeatures)
    (operation : Driver Unit) : Prop :=
  ∃ expected : U8 → U8, OwnsAs address mask features operation expected

variable {address : U16} {mask : U8} {features : DeviceFeatures}

private theorem OwnsField.of_pattern {α : Type} {operation : Driver α}
    (expected : U8 → U8)
    (owns : OwnsAs address mask features operation expected) :
    OwnsField address mask features ((fun _ => ()) <$> operation) := by
  refine ⟨expected, fun content => ?_⟩
  rw [map_eq_pure_bind]
  exact (owns content).bind

/-- An update that replaces the bits by `value`. -/
private theorem ownsBits_updateChecked
    {value : U8} (within : value &&& ~~~mask = 0#8) {update : U8 → U8}
    (replaces : ∀ byte, update byte = (byte &&& ~~~mask) ||| value)
    {written : DriverState → DriverState}
    (keeps : ∀ statics : DriverState,
      (written statics).uniwillDeviceFeatures =
        statics.uniwillDeviceFeatures)
    (held : Option U8) (bits : U8) :
    OwnsBits address mask
      (fun statics => statics.uniwillDeviceFeatures = features)
      (fun _ _ bits => bits = value) held bits
      (updateChecked address update written) := by
  refine OwnsBits.bind ?_
  rw [ownsBits_read]
  intro byte _
  rw [if_pos rfl, EcRead.status_ok, if_neg (not_not.mpr rfl)]
  refine OwnsBits.bind ?_
  rw [ownsBits_write, if_pos rfl, EcRead.data_ok, replaces]
  refine ⟨⟨byte, rfl, replaced_outside within⟩, ?_⟩
  rw [replaced_inside within, EcWrite.status_ok, if_pos rfl]
  refine OwnsBits.bind ?_
  rw [ownsBits_setStatics]
  exact fun statics isKnown => ⟨(keeps statics).trans isKnown, rfl⟩

private theorem ownsBits_updateUnchecked
    {known : DriverState → Prop}
    {value : U8} (within : value &&& ~~~mask = 0#8) {update : U8 → U8}
    (replaces : ∀ byte, update byte = (byte &&& ~~~mask) ||| value)
    (held : Option U8) (bits : U8) :
    OwnsBits address mask known (fun _ _ bits => bits = value) held bits
      (updateUnchecked address update) := by
  refine OwnsBits.bind ?_
  rw [ownsBits_read]
  intro byte _
  rw [if_pos rfl, ownsBits_write, if_pos rfl, EcRead.data_ok, replaces]
  exact
    ⟨⟨byte, rfl, replaced_outside within⟩, replaced_inside within⟩

/-- The bits of a performance profile, if there is one. -/
def profileBits (profile : U32) : Option U8 :=
  if profile = 0x01 then some 0xa0
  else if profile = 0x02 then some 0x00
  else if profile = 0x03 then some 0x10
  else none

private theorem performanceProfileValue_eq
    (profile : U32) (nextValue : U8) (result : U32) :
    Io.performanceProfileValue profile nextValue result =
      match profileBits profile with
      | some bits => (nextValue ||| bits, result)
      | none => (nextValue, BitVec.ofInt 32 (-einval)) := by
  unfold Io.performanceProfileValue profileBits
  split
  · rfl
  · split
    · rfl
    · split <;> rfl

private theorem profileBits_within {profile : U32} {bits : U8}
    (valid : profileBits profile = some bits) :
    bits &&& ~~~0xb0 = 0#8 := by
  unfold profileBits at valid
  split at valid
  · cases valid
    decide
  · split at valid
    · cases valid
      decide
    · split at valid
      · cases valid
        decide
      · cases valid

theorem ownsField_uwSetPerformanceProfileV1 (profile : U32) :
    OwnsField 0x0751 0xb0 features
      ((fun _ => ()) <$> Io.uwSetPerformanceProfileV1 profile) := by
  refine
    OwnsField.of_pattern (fun bits => (profileBits profile).getD bits)
      fun content => ?_
  refine OwnsBits.bind ?_
  rw [ownsBits_read]
  intro byte own
  have ownBits : byte &&& 0xb0 = content &&& 0xb0 := own rfl
  have unsigned : (0 : U32) ≤ BitVec.ofInt 32 (EcRead.ok byte).status :=
    Nat.zero_le _
  simp only [if_pos unsigned, performanceProfileValue_eq]
  cases valid : profileBits profile with
  | some bits =>
      have within := profileBits_within valid
      rw [if_pos (by decide)]
      refine OwnsBits.bind ?_
      rw [ownsBits_write, if_pos rfl]
      exact
        ⟨⟨byte, rfl, replaced_outside within⟩, replaced_inside within⟩
  | none =>
      rw [if_neg (not_not.mpr rfl)]
      exact rfl

/-- Full fan mode is left when it is asked for while it is on. -/
private theorem ownsBits_setFullFanMode
    {known : DriverState → Prop} (enable : Bool) (held : Option U8)
    (bits : U8) :
    OwnsBits 0x0751 0x40 known
      (fun _ _ after =>
        after = if enable = true ∧ bits = 0 then 0x40 else 0)
      held bits (setFullFanMode enable) := by
  refine OwnsBits.bind ?_
  rw [ownsBits_read]
  intro byte own
  have ownBits : byte &&& 0x40 = bits := own rfl
  have setBit :
      ∀ byte : U8, byte ||| 0x40 = (byte &&& ~~~0x40) ||| 0x40 := by
    decide +kernel
  rw [if_pos rfl, EcRead.data_ok, ownBits]
  by_cases turnedOn : enable = true ∧ bits = 0
  · rw [if_pos turnedOn, if_pos turnedOn]
    refine OwnsBits.bind ?_
    rw [ownsBits_write, if_pos rfl, setBit]
    exact
      ⟨⟨byte, rfl, replaced_outside (by decide)⟩,
        replaced_inside (by decide)⟩
  · rw [if_neg turnedOn, if_neg turnedOn]
    by_cases isOff : bits = 0
    · rw [if_neg (not_not.mpr isOff)]
      exact isOff
    · rw [if_pos isOff]
      refine OwnsBits.bind ?_
      rw [ownsBits_write, if_pos rfl, BitVec.and_assoc, BitVec.and_assoc]
      exact ⟨⟨byte, rfl, rfl⟩, by simp⟩

theorem ownsField_setFullFanMode (enable : Bool) :
    OwnsField 0x0751 0x40 features
      ((fun _ => ()) <$> setFullFanMode enable) :=
  OwnsField.of_pattern
    (fun bits => if enable = true ∧ bits = 0 then 0x40 else 0)
    fun _ => ownsBits_setFullFanMode enable _ _

private theorem asks_getStatics_elsewhere {known : DriverState → Prop} :
    getStatics.Asks (Elsewhere address known) :=
  ⟨fun _ isKnown => isKnown, fun _ => trivial⟩

private theorem asks_setStatics_elsewhere
    {known : DriverState → Prop} {update : DriverState → DriverState}
    (keeps : ∀ statics, known statics → known (update statics)) :
    (setStatics update).Asks (Elsewhere address known) :=
  ⟨keeps, fun _ => trivial⟩

private theorem asks_write_elsewhere
    {known : DriverState → Prop} {written : U16} {data : U8}
    (elsewhere : written ≠ address) :
    (uniwillWriteEcRam written data).Asks (Elsewhere address known) :=
  ⟨elsewhere, fun _ => trivial⟩

private theorem preventRampupRound_elsewhere
    {known : DriverState → Prop} :
    preventRampupRound.Asks (Elsewhere 0x0751 known) := by
  refine asks_getStatics_elsewhere.bind fun _ => ?_
  refine (asks_write_elsewhere (by decide)).bind fun _ => ?_
  refine asks_getStatics_elsewhere.bind fun _ => ?_
  exact (asks_write_elsewhere (by decide)).bind fun _ => trivial

/-- The restart work switches full fan mode off and on again, whatever it
was. -/
theorem ownsField_runRestartWork :
    OwnsField 0x0751 0x40 features runRestartWork := by
  refine ⟨fun _ => 0x40, fun content => ?_⟩
  refine OwnsBits.bind ?_
  rw [ownsBits_setStatics]
  refine fun statics isKnown => ⟨isKnown, ?_⟩
  refine OwnsBits.bind ?_
  refine (ownsBits_setFullFanMode false _ _).mono ?_
  rintro _ held _ rfl
  refine OwnsBits.bind ?_
  refine (ownsBits_setFullFanMode true _ _).mono ?_
  rintro _ held _ rfl
  refine OwnsBits.of_elsewhere ?_ fun _ => rfl
  refine (Program.Asks.forM fun _ _ => ?_).bind fun _ => ?_
  · exact preventRampupRound_elsewhere
  · exact asks_setStatics_elsewhere fun _ isKnown => isKnown

private theorem uwDisableCustomFanTable_elsewhere
    {known : DriverState → Prop} {table : U16} (offset : Nat)
    (elsewhere : table ≠ address) :
    (uwDisableCustomFanTable table offset).Asks
      (Elsewhere address known) := by
  refine (uwDisableCustomFanTable_avoids table offset elsewhere).mono ?_
  intro request within
  cases request with
  | readEcRam read =>
      exact within
  | writeEcRam written byte =>
      exact within
  | statics update =>
      exact within.elim

private theorem uwSetFanAutoTables_elsewhere :
    uwSetFanAutoTables.Asks
      (Elsewhere 0x0751
        fun statics => statics.uniwillDeviceFeatures = features) := by
  refine
    (uwDisableCustomFanTable_elsewhere 2 (by decide)).bind fun _ => ?_
  refine
    (uwDisableCustomFanTable_elsewhere 7 (by decide)).bind fun _ => ?_
  exact asks_setStatics_elsewhere fun _ isKnown => isKnown

private theorem ownsBits_uwSetFanAutoDirect (held : Option U8) (bits : U8) :
    OwnsBits 0x0751 0x40
      (fun statics => statics.uniwillDeviceFeatures = features)
      (fun _ _ after => after = 0) held bits uwSetFanAutoDirect := by
  refine OwnsBits.bind ?_
  rw [ownsBits_setStatics]
  refine fun statics isKnown => ⟨isKnown, ?_⟩
  refine OwnsBits.bind ?_
  rw [ownsBits_read]
  intro byte _
  refine OwnsBits.bind ?_
  rw [ownsBits_write, if_pos rfl, if_pos rfl, EcRead.data_ok,
    BitVec.and_assoc, BitVec.and_assoc]
  exact ⟨⟨byte, rfl, rfl⟩, by simp⟩

theorem ownsField_uwSetFanAuto :
    OwnsField 0x0751 0x40 features ((fun _ => ()) <$> uwSetFanAuto) := by
  have ends :
      (setStatics fun statics =>
          { statics with
            fan.directFanControlCurrentValueFan0 := 0
            fan.directFanControlCurrentValueFan1 := 0 }).Asks
        (Elsewhere 0x0751
          fun statics => statics.uniwillDeviceFeatures = features) :=
    asks_setStatics_elsewhere fun _ isKnown => isKnown
  refine
    OwnsField.of_pattern
      (fun bits =>
        if features.uniwillHasUniversalEcFanControl = true then bits else 0)
      fun content => ?_
  refine OwnsBits.bind ?_
  rw [ownsBits_getStatics]
  rintro statics rfl
  refine ⟨rfl, ?_⟩
  by_cases universal :
      statics.uniwillDeviceFeatures.uniwillHasUniversalEcFanControl = true
  · simp only [if_pos universal]
    refine
      (OwnsBits.of_elsewhere uwSetFanAutoTables_elsewhere
        fun _ => ?_).bind
    exact
      (OwnsBits.of_elsewhere ends fun _ => rfl).bind
  · simp only [if_neg universal]
    refine ((ownsBits_uwSetFanAutoDirect _ _).mono ?_).bind
    rintro _ held _ rfl
    exact
      (OwnsBits.of_elsewhere ends fun _ => rfl).bind

private theorem ownsBits_write_elsewhere
    {known : DriverState → Prop}
    {post : EcWrite → Option U8 → U8 → Prop} {held : Option U8}
    {bits : U8} {written : U16} {data : U8}
    (elsewhere : written ≠ address) (holds : post .ok held bits) :
    OwnsBits address mask known post held bits
      (uniwillWriteEcRam written data) := by
  rw [ownsBits_write, if_neg elsewhere]
  exact holds

theorem ownsField_uniwillWriteKbdBlColor (red green blue : U8) :
    OwnsField 0x0767 0x20 features
      ((fun _ => ()) <$> uniwillWriteKbdBlColor red green blue) := by
  have setBit :
      ∀ byte : U8, byte ||| 0x20 = (byte &&& ~~~0x20) ||| 0x20 := by
    decide +kernel
  refine OwnsField.of_pattern (fun _ => 0x20) fun content => ?_
  refine (ownsBits_write_elsewhere (by decide) ?_).bind
  rw [EcWrite.status_ok, if_neg (not_not.mpr rfl)]
  refine (ownsBits_write_elsewhere (by decide) ?_).bind
  rw [EcWrite.status_ok, if_neg (not_not.mpr rfl)]
  refine (ownsBits_write_elsewhere (by decide) ?_).bind
  rw [EcWrite.status_ok, if_neg (not_not.mpr rfl)]
  exact ownsBits_updateChecked (by decide) setBit (fun _ => rfl) _ _

theorem ownsField_uwSetUsbPowershare (usbPowershare : U8) :
    OwnsField 0x0767 0x10 features
      ((fun _ => ()) <$> uwSetUsbPowershare usbPowershare) := by
  have within :
      ((usbPowershare &&& 0x01) <<< 4) &&& ~~~(0x10 : U8) = 0#8 := by
    revert usbPowershare
    decide +kernel
  refine
    OwnsField.of_pattern (fun _ => (usbPowershare &&& 0x01) <<< 4)
      fun content => ?_
  exact
    ownsBits_updateChecked within (fun _ => rfl) (fun _ => rfl) _ _

theorem ownsField_uniwillWriteKbdBlBrightness (brightness : U8) :
    OwnsField 0x078c 0xf0 features
      ((fun _ => ()) <$> uniwillWriteKbdBlBrightness brightness) := by
  have within :
      ((brightness <<< 5) ||| 0x10) &&& ~~~(0xf0 : U8) = 0#8 := by
    revert brightness
    decide +kernel
  refine
    OwnsField.of_pattern (fun _ => (brightness <<< 5) ||| 0x10)
      fun content => ?_
  exact
    ownsBits_updateChecked within (fun _ => BitVec.or_assoc _ _ _)
      (fun _ => rfl) _ _

theorem ownsField_uniwillWriteKbdBlEnable (enable : U8) :
    OwnsField 0x078c 0x02 features (uniwillWriteKbdBlEnable enable) := by
  have within :
      (if enable &&& 0x01 = 0 then (1 : U8) <<< 1 else 0) &&& ~~~0x02 =
        0#8 := by
    split <;> decide
  refine
    ⟨fun _ => if enable &&& 0x01 = 0 then (1 : U8) <<< 1 else 0,
      fun content => ?_⟩
  exact
    (ownsBits_updateUnchecked within (fun _ => rfl) none
      (content &&& 0x02)).bind

end Operations

/-! ## Two operations on one register -/

section Pairs

variable {address : U16} {mask field : U8} {features : DeviceFeatures}
  {first second : Driver Unit} {ofFirst ofSecond : U8 → U8}

private theorem run_of_ownsAs
    (owns : OwnsAs address mask features first ofFirst)
    {machine : Machine Ram}
    (isKnown : machine.1.uniwillDeviceFeatures = features) :
    let after := (reliableEc.run first machine).2
    after.2 address &&& mask = ofFirst (machine.2 address &&& mask) ∧
      after.2 address &&& ~~~mask = machine.2 address &&& ~~~mask ∧
      after.1.uniwillDeviceFeatures = features := by
  have underway :
      Underway address mask
        (fun statics => statics.uniwillDeviceFeatures = features)
        (fun _ _ bits => bits = ofFirst (machine.2 address &&& mask)) true
        (machine.2 address) first :=
    ⟨none, owns (machine.2 address), fun _ _ holds => absurd holds (by simp)⟩
  obtain ⟨⟨_, ends⟩, kept, stillKnown⟩ := underway.run machine isKnown
  exact ⟨ends, kept, stillKnown⟩

/-- One operation after the other: both have their bits. -/
private theorem run_serial
    (ownsFirst : OwnsAs address mask features first ofFirst)
    (ownsSecond : OwnsAs address field features second ofSecond)
    (apart : mask &&& field = 0#8) (machine : Machine Ram)
    (isKnown : machine.1.uniwillDeviceFeatures = features) :
    let after :=
      (reliableEc.run second (reliableEc.run first machine).2).2.2 address
    after &&& mask = ofFirst (machine.2 address &&& mask) ∧
      after &&& field = ofSecond (machine.2 address &&& field) ∧
      after &&& ~~~(mask ||| field) =
        machine.2 address &&& ~~~(mask ||| field) := by
  obtain ⟨bitsFirst, keptFirst, stillKnown⟩ :=
    run_of_ownsAs ownsFirst isKnown
  obtain ⟨bitsSecond, keptSecond, -⟩ :=
    run_of_ownsAs ownsSecond stillKnown
  have apart' : field &&& mask = 0#8 := (BitVec.and_comm _ _).trans apart
  rw [and_eq_of_outside keptFirst apart'] at bitsSecond
  refine ⟨?_, bitsSecond, ?_⟩
  · rw [and_eq_of_outside keptSecond apart]
    exact bitsFirst
  · have outsideField : ~~~(mask ||| field) &&& field = 0#8 := by
      rw [BitVec.or_comm]
      exact compl_or_and_left
    rw [and_eq_of_outside keptSecond outsideField,
      and_eq_of_outside keptFirst compl_or_and_left]

end Pairs

/-- The pairs of operations that share a register. -/
inductive SharedUpdate where
  | profileAndFullFanMode (profile : U32) (enable : Bool)
  | profileAndRestartWork (profile : U32)
  | profileAndFanAuto (profile : U32)
  | colorAndUsbPowershare (red green blue usbPowershare : U8)
  | brightnessAndEnable (brightness enable : U8)

namespace SharedUpdate

def address : SharedUpdate → U16
  | .profileAndFullFanMode _ _ => 0x0751
  | .profileAndRestartWork _ => 0x0751
  | .profileAndFanAuto _ => 0x0751
  | .colorAndUsbPowershare _ _ _ _ => uwEcRegUsbPowershareStatus
  | .brightnessAndEnable _ _ => uwEcRegKbdBlStatus

def first : SharedUpdate → Driver Unit
  | .profileAndFullFanMode profile _ =>
      (fun _ => ()) <$> Io.uwSetPerformanceProfileV1 profile
  | .profileAndRestartWork profile =>
      (fun _ => ()) <$> Io.uwSetPerformanceProfileV1 profile
  | .profileAndFanAuto profile =>
      (fun _ => ()) <$> Io.uwSetPerformanceProfileV1 profile
  | .colorAndUsbPowershare red green blue _ =>
      (fun _ => ()) <$> uniwillWriteKbdBlColor red green blue
  | .brightnessAndEnable brightness _ =>
      (fun _ => ()) <$> uniwillWriteKbdBlBrightness brightness

def second : SharedUpdate → Driver Unit
  | .profileAndFullFanMode _ enable => (fun _ => ()) <$> setFullFanMode enable
  | .profileAndRestartWork _ => runRestartWork
  | .profileAndFanAuto _ => (fun _ => ()) <$> uwSetFanAuto
  | .colorAndUsbPowershare _ _ _ usbPowershare =>
      (fun _ => ()) <$> uwSetUsbPowershare usbPowershare
  | .brightnessAndEnable _ enable => uniwillWriteKbdBlEnable enable

/-- The bits the operations own. -/
def firstMask : SharedUpdate → U8
  | .profileAndFullFanMode _ _ => 0xb0
  | .profileAndRestartWork _ => 0xb0
  | .profileAndFanAuto _ => 0xb0
  | .colorAndUsbPowershare _ _ _ _ => 0x20
  | .brightnessAndEnable _ _ => 0xf0

def secondMask : SharedUpdate → U8
  | .profileAndFullFanMode _ _ => 0x40
  | .profileAndRestartWork _ => 0x40
  | .profileAndFanAuto _ => 0x40
  | .colorAndUsbPowershare _ _ _ _ => 0x10
  | .brightnessAndEnable _ _ => 0x02

def mask (update : SharedUpdate) (thread : Bool) : U8 :=
  cond thread update.secondMask update.firstMask

theorem masks_apart (update : SharedUpdate) :
    update.firstMask &&& update.secondMask = 0#8 := by
  cases update <;> simp [firstMask, secondMask]

theorem mask_and_mask_of_ne
    (update : SharedUpdate) {thread other : Bool}
    (distinct : thread ≠ other) :
    update.mask thread &&& update.mask other = 0#8 := by
  cases thread <;> cases other
  · exact absurd rfl distinct
  · exact update.masks_apart
  · exact (BitVec.and_comm _ _).trans update.masks_apart
  · exact absurd rfl distinct

theorem ownsField_first (update : SharedUpdate)
    (features : DeviceFeatures) :
    OwnsField update.address update.firstMask features update.first := by
  cases update with
  | profileAndFullFanMode profile enable =>
      exact ownsField_uwSetPerformanceProfileV1 profile
  | profileAndRestartWork profile =>
      exact ownsField_uwSetPerformanceProfileV1 profile
  | profileAndFanAuto profile =>
      exact ownsField_uwSetPerformanceProfileV1 profile
  | colorAndUsbPowershare red green blue usbPowershare =>
      exact ownsField_uniwillWriteKbdBlColor red green blue
  | brightnessAndEnable brightness enable =>
      exact ownsField_uniwillWriteKbdBlBrightness brightness

theorem ownsField_second (update : SharedUpdate)
    (features : DeviceFeatures) :
    OwnsField update.address update.secondMask features update.second := by
  cases update with
  | profileAndFullFanMode profile enable =>
      exact ownsField_setFullFanMode enable
  | profileAndRestartWork profile =>
      exact ownsField_runRestartWork
  | profileAndFanAuto profile =>
      exact ownsField_uwSetFanAuto
  | colorAndUsbPowershare red green blue usbPowershare =>
      exact ownsField_uwSetUsbPowershare usbPowershare
  | brightnessAndEnable brightness enable =>
      exact ownsField_uniwillWriteKbdBlEnable enable

/-- The two operations as threads: `false` runs the first and `true` the
second. -/
def start (update : SharedUpdate) (machine : Machine Ram) :
    Threads uniwillSignature Bool Unit (Machine Ram) :=
  ⟨fun thread => cond thread update.second update.first, machine⟩

/-- The threads after a schedule of their accesses. -/
def interleaved (update : SharedUpdate) (machine : Machine Ram)
    (schedule : List Bool) :
    Threads uniwillSignature Bool Unit (Machine Ram) :=
  (update.start machine).run reliableEc.environment schedule

def firstThenSecond (update : SharedUpdate) (machine : Machine Ram) :
    Machine Ram :=
  (reliableEc.run update.second (reliableEc.run update.first machine).2).2

def secondThenFirst (update : SharedUpdate) (machine : Machine Ram) :
    Machine Ram :=
  (reliableEc.run update.first (reliableEc.run update.second machine).2).2

/-- What an interleaving makes of the register, field by field. -/
private theorem interleaved_bits
    (update : SharedUpdate) (machine : Machine Ram)
    {ofFirst ofSecond : U8 → U8}
    (ownsFirst :
      OwnsAs update.address update.firstMask
        machine.1.uniwillDeviceFeatures update.first ofFirst)
    (ownsSecond :
      OwnsAs update.address update.secondMask
        machine.1.uniwillDeviceFeatures update.second ofSecond)
    {schedule : List Bool}
    (finished : (update.interleaved machine schedule).Finished)
    (undisturbed :
      Undisturbed update.address
        ((update.start machine).trace reliableEc.environment schedule)) :
    let before := machine.2 update.address
    let after :=
      (update.interleaved machine schedule).state.2 update.address
    after &&& update.firstMask = ofFirst (before &&& update.firstMask) ∧
      after &&& update.secondMask =
        ofSecond (before &&& update.secondMask) ∧
      after &&& ~~~(update.firstMask ||| update.secondMask) =
        before &&& ~~~(update.firstMask ||| update.secondMask) := by
  obtain ⟨bits, others⟩ :=
    sharedRegister_bits update.mask
      (fun statics =>
        statics.uniwillDeviceFeatures = machine.1.uniwillDeviceFeatures)
      (fun thread _ _ bits =>
        bits =
          cond thread ofSecond ofFirst
            (machine.2 update.address &&& update.mask thread))
      (fun _ _ => update.mask_and_mask_of_ne) rfl
      (fun thread => by
        cases thread
        · exact ownsFirst (machine.2 update.address)
        · exact ownsSecond (machine.2 update.address))
      schedule undisturbed rfl finished
  obtain ⟨_, _, bitsFirst⟩ := bits false
  obtain ⟨_, _, bitsSecond⟩ := bits true
  refine ⟨bitsFirst, bitsSecond, others _ fun thread => ?_⟩
  cases thread
  · exact compl_or_and_left
  · rw [BitVec.or_comm]
    exact compl_or_and_left

/-- Whatever the order of the accesses, if every write of the register comes
from a read since which the other operation has not written it, the register
ends as if the operations had run one after the other, in either order, and
with the bits each would have set alone. -/
theorem interleaved_serial
    (update : SharedUpdate) (machine : Machine Ram) (schedule : List Bool)
    (finished : (update.interleaved machine schedule).Finished)
    (undisturbed :
      Undisturbed update.address
        ((update.start machine).trace reliableEc.environment schedule)) :
    let after :=
      (update.interleaved machine schedule).state.2 update.address
    after = (update.firstThenSecond machine).2 update.address ∧
      after = (update.secondThenFirst machine).2 update.address ∧
      after &&& update.firstMask =
        (reliableEc.run update.first machine).2.2 update.address &&&
          update.firstMask ∧
      after &&& update.secondMask =
        (reliableEc.run update.second machine).2.2 update.address &&&
          update.secondMask := by
  obtain ⟨ofFirst, ownsFirst⟩ :=
    update.ownsField_first machine.1.uniwillDeviceFeatures
  obtain ⟨ofSecond, ownsSecond⟩ :=
    update.ownsField_second machine.1.uniwillDeviceFeatures
  obtain ⟨bitsFirst, bitsSecond, others⟩ :=
    update.interleaved_bits machine ownsFirst ownsSecond finished undisturbed
  obtain ⟨serialFirst, serialSecond, serialOthers⟩ :=
    run_serial ownsFirst ownsSecond update.masks_apart machine rfl
  obtain ⟨swappedSecond, swappedFirst, swappedOthers⟩ :=
    run_serial ownsSecond ownsFirst
      ((BitVec.and_comm _ _).trans update.masks_apart) machine rfl
  rw [BitVec.or_comm] at swappedOthers
  refine ⟨?_, ?_, ?_, ?_⟩
  · exact
      eq_of_fields (bitsFirst.trans serialFirst.symm)
        (bitsSecond.trans serialSecond.symm)
        (others.trans serialOthers.symm)
  · exact
      eq_of_fields (bitsFirst.trans swappedFirst.symm)
        (bitsSecond.trans swappedSecond.symm)
        (others.trans swappedOthers.symm)
  · exact bitsFirst.trans (run_of_ownsAs ownsFirst rfl).1.symm
  · exact bitsSecond.trans (run_of_ownsAs ownsSecond rfl).1.symm

/-- USB powershare is updated while the components of a color are written,
and the color is applied afterwards. -/
theorem interleaved_serial_betweenComponents :
    ((colorAndUsbPowershare 1 2 3 1).interleaved ({}, fun _ => 0)
      [false, true, false, true, false, true, false, false,
        false]).state.2 uwEcRegUsbPowershareStatus = 0x30 :=
  (interleaved_serial (colorAndUsbPowershare 1 2 3 1) ({}, fun _ => 0)
    [false, true, false, true, false, true, false, false, false]
    (fun thread => by cases thread <;> exact ⟨(), rfl⟩)
    (by decide)).1.trans (by decide)

/-- Both operations read before either writes, and the full fan mode is
lost. -/
theorem interleaved_losesFullFanMode :
    ((profileAndFullFanMode 1 true).interleaved ({}, fun _ => 0)
        [false, true, true, false]).Finished ∧
      ((profileAndFullFanMode 1 true).interleaved ({}, fun _ => 0)
        [false, true, true, false]).state.2 0x0751 = 0xa0 ∧
      ((profileAndFullFanMode 1 true).firstThenSecond
        ({}, fun _ => 0)).2 0x0751 = 0xe0 ∧
      ((profileAndFullFanMode 1 true).secondThenFirst
        ({}, fun _ => 0)).2 0x0751 = 0xe0 :=
  ⟨fun thread => by cases thread <;> exact ⟨(), rfl⟩,
    by decide, by decide, by decide⟩

end SharedUpdate

end TuxedoDrivers.Uniwill
