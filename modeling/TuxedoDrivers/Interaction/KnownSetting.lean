import TuxedoDrivers.Interaction.KeptSetting

/-!
# What is known of a setting

A device may fail a value that it is sent and use it nevertheless.  Who sees
the results only knows the setting after a success.  A failure leaves that
knowledge if it was about the known value, and else nothing is known.
-/

namespace Interaction

section Known

variable {V : Type} [DecidableEq V]

/-- What the results of the attempts so far tell. -/
def knownAfter (known : Option V) : Attempt V → Option V
  | none => known
  | some (value, true) => some value
  | some (value, false) => if known = some value then known else none

/-- The setting is what is known of it, if anything is. -/
def Fits (known : Option V) (setting : V) : Prop :=
  ∀ value, known = some value → setting = value

/-- What an attempt may make of a setting. -/
def Tried (before after : V) : Attempt V → Prop
  | none => after = before
  | some (value, true) => after = value
  | some (value, false) => after = before ∨ after = value

variable {known : Option V} {before after : V}

omit [DecidableEq V] in
theorem fits_none (setting : V) : Fits none setting :=
  fun _ nothing => nomatch nothing

theorem Fits.knownAfter {attempt : Attempt V} (fits : Fits known before)
    (tried : Tried before after attempt) :
    Fits (knownAfter known attempt) after := by
  rcases attempt with _ | ⟨value, accepts⟩
  · have unchanged : after = before := tried
    rw [unchanged]
    exact fits
  · cases accepts with
    | true =>
        intro other isKnown
        exact tried.trans (Option.some.inj isKnown)
    | false =>
        intro other isKnown
        rw [Interaction.knownAfter] at isKnown
        by_cases same : known = some value
        · rw [if_pos same] at isKnown
          rcases tried with unchanged | taken
          · exact unchanged.trans (fits other isKnown)
          · exact taken.trans (Option.some.inj (same.symm.trans isKnown))
        · rw [if_neg same] at isKnown
          cases isKnown

omit [DecidableEq V] in
/-- A value that fits as well may take the place of the setting. -/
theorem Fits.replaced {kept : V} (fits : Fits known before)
    (fitsKept : Fits known kept) (replaced : after = before ∨ after = kept) :
    Fits known after := by
  rcases replaced with unchanged | taken
  · rw [unchanged]
    exact fits
  · rw [taken]
    exact fitsKept

end Known

end Interaction
