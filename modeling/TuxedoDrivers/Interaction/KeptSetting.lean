import TuxedoDrivers.Interaction.Runs

/-!
# Settings that a driver keeps

A device that cannot be asked for a setting accepts or refuses the values it
is sent, and the driver keeps the setting itself.  A driver that keeps a value
before the device is asked for it keeps what the device accepted last exactly
as long as the device refuses nothing but the kept value.
-/

namespace Interaction

/-- What a driver keeps, and what its device accepted last. -/
structure Setting (V : Type) where
  kept : V
  accepted : Option V

/-- A value that is sent to the device, if any, and whether it is accepted. -/
abbrev Attempt (V : Type) : Type :=
  Option (V × Bool)

namespace Setting

variable {V : Type}

/-- The kept value is the one that was accepted last. -/
def InForce (setting : Setting V) : Prop :=
  setting.accepted = some setting.kept

/-- The value is kept first, whatever the device answers. -/
def keepFirst (setting : Setting V) : Attempt V → Setting V
  | none => setting
  | some (value, true) => { kept := value, accepted := some value }
  | some (value, false) => { setting with kept := value }

/-- A value is refused only if it is the kept one. -/
def RefusesOnlyKept (attempt : Attempt V) (setting : Setting V) : Prop :=
  ∀ value, attempt = some (value, false) → value = setting.kept

theorem inForce_keepFirst_iff {setting : Setting V}
    (inForce : setting.InForce) (attempt : Attempt V) :
    (setting.keepFirst attempt).InForce ↔
      RefusesOnlyKept attempt setting := by
  rcases attempt with _ | ⟨value, accepts⟩
  · exact iff_of_true inForce fun _ none => nomatch none
  · cases accepts with
    | true =>
        exact iff_of_true rfl fun _ accepted => nomatch accepted
    | false =>
        have accepted : setting.accepted = some setting.kept := inForce
        constructor
        · intro stillInForce other refused
          have still : setting.accepted = some value := stillInForce
          cases refused
          exact Option.some.inj (still.symm.trans accepted)
        · intro refuses
          have same : value = setting.kept := refuses value rfl
          rw [keepFirst, InForce, accepted, same]

/-- What is not accepted then changes nothing. -/
theorem kept_keepFirst {setting : Setting V} {attempt : Attempt V}
    (refuses : RefusesOnlyKept attempt setting)
    (notAccepted : ∀ value, attempt ≠ some (value, true)) :
    (setting.keepFirst attempt).kept = setting.kept := by
  rcases attempt with _ | ⟨value, accepts⟩
  · rfl
  · cases accepts with
    | true => exact absurd rfl (notAccepted value)
    | false => exact refuses value rfl

/-! ## Runs -/

section Runs

variable {σ ι : Type} {step : ι → σ → σ} {view : σ → Setting V}
  {attempt : ι → σ → Attempt V}

/-- Over a run the kept value is in force as long as only the kept value is
refused. -/
theorem throughout_inForce_iff
    (follows : ∀ item state,
      view (step item state) = (view state).keepFirst (attempt item state))
    (steps : List ι) {state : σ} (inForce : (view state).InForce) :
    Throughout step (fun reached => (view reached).InForce) steps state ↔
      EachStep step
        (fun item reached =>
          RefusesOnlyKept (attempt item reached) (view reached))
        steps state := by
  have exactly : ∀ item reached, (view reached).InForce →
      ((view (step item reached)).InForce ↔
        RefusesOnlyKept (attempt item reached) (view reached)) := by
    intro item reached holds
    rw [follows]
    exact inForce_keepFirst_iff holds _
  exact throughout_iff_eachStep exactly steps inForce

/-- A step that is not accepted leaves the kept value alone. -/
theorem eachStep_kept
    (follows : ∀ item state,
      view (step item state) = (view state).keepFirst (attempt item state))
    {fails : ι → σ → Prop}
    (notAccepted : ∀ item state, fails item state →
      ∀ value, attempt item state ≠ some (value, true))
    {steps : List ι} {state : σ}
    (refuses : EachStep step
      (fun item reached =>
        RefusesOnlyKept (attempt item reached) (view reached))
      steps state) :
    EachStep step
      (fun item reached => fails item reached →
        (view (step item reached)).kept = (view reached).kept)
      steps state := by
  apply refuses.mono
  intro item reached onlyKept failed
  rw [follows]
  exact kept_keepFirst onlyKept (notAccepted item reached failed)

/-- With it goes that failed steps change nothing that depends on the kept
value alone. -/
theorem throughout_inForce_and_eachStep_iff
    (follows : ∀ item state,
      view (step item state) = (view state).keepFirst (attempt item state))
    {fails shownAlone : ι → σ → Prop}
    (notAccepted : ∀ item state, fails item state →
      ∀ value, attempt item state ≠ some (value, true))
    (shown : ∀ item state,
      (fails item state →
        (view (step item state)).kept = (view state).kept) →
        shownAlone item state)
    (steps : List ι) {state : σ} (inForce : (view state).InForce) :
    (Throughout step (fun reached => (view reached).InForce) steps state ∧
        EachStep step shownAlone steps state) ↔
      EachStep step
        (fun item reached =>
          RefusesOnlyKept (attempt item reached) (view reached))
        steps state := by
  rw [throughout_inForce_iff follows steps inForce]
  constructor
  · intro both
    exact both.1
  · intro refuses
    have keptAlone := eachStep_kept follows notAccepted refuses
    exact ⟨refuses, keptAlone.mono shown⟩

end Runs

end Setting

end Interaction
