import TuxedoDrivers.Uniwill.ChargingSettings

/-!
# Texts of the charging settings

A store parses a text, encodes it into a bit field and a show decodes the
field again.  On an EC whose accesses succeed, exactly the listed texts are
accepted, whatever white space surrounds them, and each is shown again.
-/

namespace TuxedoDrivers.Uniwill

open Interaction

/-! ## Shows -/

/-- A show of an option: a negative error or the text in the buffer. -/
def optionShow (options : List CharToU8) (get : Driver (Int × U8)) :
    Driver (Except Int String) := do
  let reply ← get
  if reply.1 ≠ 0 then
    return .error reply.1
  else
    match options.find? fun option => option.value == reply.2 with
    | some option => return .ok (option.descriptor ++ "\n")
    | none => return .error (-eio)

def uwChargingProfileShow : Driver (Except Int String) :=
  optionShow chargingProfileOptions uwGetChargingProfile

def uwChargingPrioShow : Driver (Except Int String) :=
  optionShow chargingPrioOptions uwGetChargingPriority

/-! ## White space -/

/-- What `strstrip` removes are white space characters at both ends. -/
theorem exists_strstrip (text : String) :
    ∃ before after : List Char,
      text.toList = before ++ (strstrip text).toList ++ after ∧
        (∀ character ∈ before, isspace character = true) ∧
        ∀ character ∈ after, isspace character = true := by
  refine ⟨(text.toList.rdropWhile isspace).takeWhile isspace,
    text.toList.rtakeWhile isspace, ?_, ?_, ?_⟩
  · rw [strstrip, String.toList_ofList, List.takeWhile_append_dropWhile,
      List.rdropWhile_append_rtakeWhile]
  · intro character member
    exact List.mem_takeWhile_imp member
  · intro character member
    exact List.mem_rtakeWhile_imp member

/-- Neither the first nor the last character is white space. -/
def VisibleEnds (letters : List Char) : Prop :=
  letters.head?.map isspace = some false ∧
    letters.getLast?.map isspace = some false

instance (letters : List Char) : Decidable (VisibleEnds letters) :=
  inferInstanceAs (Decidable (_ ∧ _))

theorem dropWhile_isspace_append {before letters : List Char}
    (blank : ∀ character ∈ before, isspace character = true)
    (begins : letters.head?.map isspace = some false) :
    (before ++ letters).dropWhile isspace = letters := by
  rw [List.dropWhile_append_of_pos blank]
  cases letters with
  | nil =>
      cases begins
  | cons first rest =>
      have visible : ¬ isspace first = true := by
        rw [Option.some.inj begins]
        exact Bool.false_ne_true
      exact List.dropWhile_cons_of_neg visible

theorem rdropWhile_isspace_append {letters after : List Char}
    (blank : ∀ character ∈ after, isspace character = true)
    (ends : letters.getLast?.map isspace = some false) :
    (letters ++ after).rdropWhile isspace = letters := by
  have blankReversed :
      ∀ character ∈ after.reverse, isspace character = true := by
    intro character member
    exact blank character (List.mem_reverse.mp member)
  rw [← List.head?_reverse] at ends
  rw [List.rdropWhile, List.reverse_append,
    dropWhile_isspace_append blankReversed ends, List.reverse_reverse]

/-- White space around a text that has none at its ends. -/
theorem strstrip_surrounded {text : String}
    {before letters after : List Char}
    (surrounded : text.toList = before ++ letters ++ after)
    (blankBefore : ∀ character ∈ before, isspace character = true)
    (blankAfter : ∀ character ∈ after, isspace character = true)
    (visible : VisibleEnds letters) :
    (strstrip text).toList = letters := by
  have nonempty : letters ≠ [] := by
    intro empty
    rw [empty] at visible
    cases visible.1
  have ends : (before ++ letters).getLast?.map isspace = some false := by
    rw [List.getLast?_append_of_ne_nil before nonempty]
    exact visible.2
  rw [strstrip, String.toList_ofList, surrounded,
    rdropWhile_isspace_append blankAfter ends,
    dropWhile_isspace_append blankBefore visible.1]

namespace ChargingSetting

/-! ## Accepted texts -/

def display : ChargingSetting → Driver (Except Int String)
  | .priority => uwChargingPrioShow
  | .profile => uwChargingProfileShow

def get : ChargingSetting → Driver (Int × U8)
  | .priority => uwGetChargingPriority
  | .profile => uwGetChargingProfile

theorem display_eq (setting : ChargingSetting) :
    setting.display = optionShow setting.options setting.get := by
  cases setting <;> rfl

/-- The texts that a setting lists. -/
def descriptors (setting : ChargingSetting) : List String :=
  setting.options.map CharToU8.descriptor

theorem optionOf_isSome_iff (setting : ChargingSetting) (buffer : String) :
    (optionOf setting.options buffer).isSome = true ↔
      strstrip buffer ∈ setting.descriptors := by
  rw [optionOf, List.find?_isSome, descriptors, List.mem_map]
  simp only [beq_iff_eq]

theorem visibleEnds_of_descriptor {setting : ChargingSetting}
    {descriptor : String} (listed : descriptor ∈ setting.descriptors) :
    VisibleEnds descriptor.toList := by
  have eachText : ∀ descriptor ∈ setting.descriptors,
      VisibleEnds descriptor.toList := by
    cases setting <;> decide
  exact eachText descriptor listed

/-- The accepted texts are the listed ones with white space around them. -/
theorem strstrip_mem_descriptors_iff (setting : ChargingSetting)
    (buffer : String) :
    strstrip buffer ∈ setting.descriptors ↔
      ∃ descriptor ∈ setting.descriptors, ∃ before after : List Char,
        buffer.toList = before ++ descriptor.toList ++ after ∧
          (∀ character ∈ before, isspace character = true) ∧
          ∀ character ∈ after, isspace character = true := by
  constructor
  · intro accepted
    exact ⟨strstrip buffer, accepted, exists_strstrip buffer⟩
  · intro named
    obtain ⟨descriptor, listed, before, after, split, blankBefore,
      blankAfter⟩ := named
    have same : strstrip buffer = descriptor := by
      apply String.toList_injective
      exact strstrip_surrounded split blankBefore blankAfter
        (visibleEnds_of_descriptor listed)
    rw [same]
    exact listed

/-- The option that is found has the text that was looked for. -/
theorem descriptor_of_optionOf {setting : ChargingSetting}
    {buffer : String} {option : CharToU8}
    (named : optionOf setting.options buffer = some option) :
    option.descriptor = strstrip buffer := by
  have found := List.find?_some named
  exact beq_iff_eq.mp found

/-- An option is found again by its value. -/
theorem find?_value {setting : ChargingSetting} {option : CharToU8}
    (member : option ∈ setting.options) :
    (setting.options.find? fun other => other.value == option.value) =
      some option := by
  have eachOption : ∀ option ∈ setting.options,
      (setting.options.find? fun other => other.value == option.value) =
        some option := by
    cases setting <;> decide
  exact eachOption option member

/-! ## One store and the show after it -/

section Reliable

variable (machine : Machine Ram)

theorem result_set_reliable (setting : ChargingSetting) (value : U8) :
    (reliableEc.run (setting.set value) machine).1 = 0 := by
  cases setting with
  | priority =>
      simp only [set, uwSetChargingPriority, updateChecked, run_bind,
        run_uniwillReadEcRam, reliableEc_read, EcRead.status_ok, ne_eq,
        not_true_eq_false, if_false, run_uniwillWriteEcRam,
        reliableEc_write, EcWrite.status_ok, if_true, run_setStatics,
        run_pure]
  | profile =>
      simp only [set, uwSetChargingProfile, updateChecked, run_bind,
        run_uniwillReadEcRam, reliableEc_read, EcRead.status_ok, ne_eq,
        not_true_eq_false, if_false, run_uniwillWriteEcRam,
        reliableEc_write, EcWrite.status_ok, if_true, run_setStatics,
        run_pure]

theorem run_get_reliable (setting : ChargingSetting) :
    reliableEc.run setting.get machine =
      ((0, setting.field (machine.2 setting.register)), machine) := by
  cases setting with
  | priority =>
      have shown : ∀ bits : U8,
          (bits >>> 7) &&& 0x01 = (bits &&& 0x80) >>> 7 := by
        decide
      simp only [get, uwGetChargingPriority, run_bind,
        run_uniwillReadEcRam, reliableEc_read, EcRead.status_ok, run_pure]
      exact congrArg (fun byte => ((0, byte), machine)) (shown _)
  | profile =>
      have shown : ∀ bits : U8,
          (bits >>> 4) &&& 0x03 = (bits &&& 0x30) >>> 4 := by
        decide
      simp only [get, run_uwGetChargingProfile, reliableEc_read,
        EcRead.status_ok, if_true]
      exact congrArg (fun byte => ((0, byte), machine)) (shown _)

/-- What a show prints of a register that holds an option. -/
theorem run_display_reliable {setting : ChargingSetting}
    {option : CharToU8} (member : option ∈ setting.options)
    (holds : setting.field (machine.2 setting.register) = option.value) :
    reliableEc.run setting.display machine =
      (.ok (option.descriptor ++ "\n"), machine) := by
  rw [display_eq, optionShow, run_bind, run_get_reliable, holds]
  simp only [find?_value member, ne_eq, not_true_eq_false, if_false,
    run_pure]

theorem run_store_named {setting : ChargingSetting} {buffer : String}
    {size : Nat} {option : CharToU8}
    (named : optionOf setting.options buffer = some option) :
    reliableEc.run (setting.store buffer size) machine =
      ((size : Int),
        (reliableEc.run (setting.set option.value) machine).2) := by
  rw [store_eq, optionStore, named]
  simp only [run_bind, result_set_reliable, if_true, run_pure]

theorem run_store_unnamed {setting : ChargingSetting} {buffer : String}
    {size : Nat} (unnamed : optionOf setting.options buffer = none) :
    reliableEc.run (setting.store buffer size) machine =
      (-einval, machine) := by
  rw [store_eq, optionStore, unnamed, run_pure]

end Reliable

/-- A listed text is stored, in the bits of its setting, and shown again. Any
other text is an error that changes nothing. -/
theorem text_roundTrip (setting : ChargingSetting)
    (buffer : String) (size : Nat) (machine : Machine Ram) :
    let stored := reliableEc.run (setting.store buffer size) machine
    (0 ≤ stored.1 ↔ strstrip buffer ∈ setting.descriptors) ∧
      (strstrip buffer ∈ setting.descriptors →
        stored.1 = size ∧
          (∀ address, address ≠ setting.register →
            stored.2.2 address = machine.2 address) ∧
          stored.2.2 setting.register &&& ~~~setting.mask =
            machine.2 setting.register &&& ~~~setting.mask ∧
          reliableEc.run setting.display stored.2 =
            (.ok (strstrip buffer ++ "\n"), stored.2)) ∧
      (strstrip buffer ∉ setting.descriptors →
        stored = (-einval, machine)) := by
  intro stored
  by_cases accepted : strstrip buffer ∈ setting.descriptors
  · have isNamed := (setting.optionOf_isSome_iff buffer).mpr accepted
    obtain ⟨option, named⟩ := Option.isSome_iff_exists.mp isNamed
    have member : option ∈ setting.options :=
      List.mem_of_find?_eq_some named
    have run : stored =
        ((size : Int),
          (reliableEc.run (setting.set option.value) machine).2) :=
      run_store_named machine named
    have ram := run_set_reliable machine setting option.value
    have success : stored.1 = size := congrArg Prod.fst run
    have reached : stored.2.2 =
        Function.update machine.2 setting.register
          (setting.merge (machine.2 setting.register)
            (option.value &&& setting.low)) := by
      rw [run]
      exact ram
    have holds :
        setting.field (stored.2.2 setting.register) = option.value := by
      rw [reached, Function.update_self, field_merge, optionOf_low named]
    refine ⟨?_, fun _ => ⟨success, ?_, ?_, ?_⟩, ?_⟩
    · rw [success]
      exact ⟨fun _ => accepted, fun _ => Int.natCast_nonneg size⟩
    · intro address elsewhere
      rw [reached, Function.update_of_ne elsewhere]
    · rw [reached, Function.update_self, merge_others]
    · rw [run_display_reliable stored.2 member holds,
        descriptor_of_optionOf named]
    · intro rejected
      exact absurd accepted rejected
  · have unnamed : optionOf setting.options buffer = none := by
      rw [← Option.not_isSome_iff_eq_none,
        setting.optionOf_isSome_iff buffer]
      exact accepted
    have run : stored = (-einval, machine) :=
      run_store_unnamed machine unnamed
    refine ⟨?_, fun listed => absurd listed accepted, fun _ => run⟩
    have failure : ¬ 0 ≤ stored.1 := by
      rw [run]
      show ¬ (0 : Int) ≤ -einval
      decide
    exact iff_of_false failure accepted

end ChargingSetting

end TuxedoDrivers.Uniwill
