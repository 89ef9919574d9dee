import Mathlib.Logic.Function.Basic
import Mathlib.Tactic.Common

/-!
# Registered resources

A holder registers resources and removes them again by a list of its own.
What is removed without being registered leaves a mark.  A removal is clean
exactly if its list names what is registered, and a registration that fails
midway can be undone without a trace.
-/

namespace Interaction

/-- What is registered, and whether anything was removed that was not. -/
structure Registry (R : Type) where
  registered : R → Bool
  stale : Bool

namespace Registry

variable {R : Type}

def empty : Registry R :=
  ⟨fun _ => false, false⟩

/-- Nothing is left, and nothing was removed in vain. -/
structure Clean (registry : Registry R) : Prop where
  nothingLeft : ∀ resource, registry.registered resource = false
  notStale : registry.stale = false

theorem clean_empty : Clean (empty : Registry R) :=
  ⟨fun _ => rfl, rfl⟩

@[ext]
theorem ext_registered {first second : Registry R}
    (registered : ∀ resource,
      first.registered resource = true ↔ second.registered resource = true)
    (stale : first.stale = second.stale) : first = second := by
  obtain ⟨firstRegistered, firstStale⟩ := first
  obtain ⟨secondRegistered, secondStale⟩ := second
  have same : firstRegistered = secondRegistered :=
    funext fun resource => Bool.eq_iff_iff.mpr (registered resource)
  rw [same]
  exact congrArg (Registry.mk secondRegistered) stale

theorem eq_empty_of_clean {registry : Registry R} (clean : registry.Clean) :
    registry = empty := by
  ext resource
  · rw [clean.nothingLeft resource]
    rfl
  · exact clean.notStale

/-! ## Operations -/

variable [DecidableEq R]

def register (registry : Registry R) (resource : R) : Registry R :=
  { registry with
    registered := Function.update registry.registered resource true }

/-- A registration that ends by itself. -/
def lose (registry : Registry R) (resource : R) : Registry R :=
  { registry with
    registered := Function.update registry.registered resource false }

def unregister (registry : Registry R) (resource : R) : Registry R :=
  { registered := Function.update registry.registered resource false
    stale := registry.stale || !registry.registered resource }

def registerAll (registry : Registry R) (resources : List R) :
    Registry R :=
  resources.foldl register registry

def unregisterAll (registry : Registry R) (resources : List R) :
    Registry R :=
  resources.foldl unregister registry

/-- Registers one resource after the other, until one answers a negative
status; then those before it, which are `done`, are unregistered again. -/
def registerOrUndo {ι : Type} (resource : ι → R) (status : ι → Int) :
    List ι → List ι → Registry R → Int × Registry R
  | _, [], registry => (0, registry)
  | done, item :: rest, registry =>
      if status item < 0 then
        (status item, registry.unregisterAll (done.map resource))
      else
        registerOrUndo resource status (done ++ [item]) rest
          (registry.register (resource item))

/-! ## What is registered afterwards -/

theorem registered_register (registry : Registry R) (added other : R) :
    (registry.register added).registered other = true ↔
      other = added ∨ registry.registered other = true := by
  by_cases same : other = added
  · simp [register, same]
  · simp [register, same]

theorem registered_lose (registry : Registry R) (lost other : R) :
    (registry.lose lost).registered other = true ↔
      registry.registered other = true ∧ other ≠ lost := by
  by_cases same : other = lost
  · simp [lose, same]
  · simp [lose, same]

theorem registered_unregister (registry : Registry R) (removed other : R) :
    (registry.unregister removed).registered other = true ↔
      registry.registered other = true ∧ other ≠ removed :=
  registered_lose registry removed other

/-- What is lost at once was not registered for long. -/
theorem lose_register {registry : Registry R} {resource : R}
    (fresh : registry.registered resource = false) :
    (registry.register resource).lose resource = registry := by
  ext other
  · rw [registered_lose, registered_register]
    by_cases same : other = resource
    · simp [same, fresh]
    · simp [same]
  · rfl

@[simp]
theorem registerAll_nil (registry : Registry R) :
    registry.registerAll [] = registry :=
  rfl

@[simp]
theorem registerAll_cons (registry : Registry R) (resource : R)
    (rest : List R) :
    registry.registerAll (resource :: rest) =
      (registry.register resource).registerAll rest :=
  rfl

theorem registerAll_append (registry : Registry R)
    (first second : List R) :
    registry.registerAll (first ++ second) =
      (registry.registerAll first).registerAll second :=
  List.foldl_append

theorem registered_registerAll (registry : Registry R) (resources : List R)
    (other : R) :
    (registry.registerAll resources).registered other = true ↔
      other ∈ resources ∨ registry.registered other = true := by
  induction resources generalizing registry with
  | nil =>
      simp
  | cons resource rest inductionHypothesis =>
      rw [registerAll_cons, inductionHypothesis, registered_register,
        List.mem_cons, or_left_comm, or_assoc]

theorem stale_registerAll (registry : Registry R) (resources : List R) :
    (registry.registerAll resources).stale = registry.stale := by
  induction resources generalizing registry with
  | nil =>
      rfl
  | cons resource rest inductionHypothesis =>
      exact inductionHypothesis (registry.register resource)

/-! ## Removals -/

@[simp]
theorem unregisterAll_nil (registry : Registry R) :
    registry.unregisterAll [] = registry :=
  rfl

@[simp]
theorem unregisterAll_cons (registry : Registry R) (resource : R)
    (rest : List R) :
    registry.unregisterAll (resource :: rest) =
      (registry.unregister resource).unregisterAll rest :=
  rfl

theorem unregisterAll_append (registry : Registry R)
    (first second : List R) :
    registry.unregisterAll (first ++ second) =
      (registry.unregisterAll first).unregisterAll second :=
  List.foldl_append

theorem registered_unregisterAll (registry : Registry R)
    (resources : List R) (other : R) :
    (registry.unregisterAll resources).registered other = true ↔
      registry.registered other = true ∧ other ∉ resources := by
  induction resources generalizing registry with
  | nil =>
      simp
  | cons resource rest inductionHypothesis =>
      rw [unregisterAll_cons, inductionHypothesis, registered_unregister,
        List.mem_cons, not_or, and_assoc]

/-- Removing what is registered leaves no mark. -/
theorem stale_unregisterAll_of_registered {registry : Registry R}
    {resources : List R} (nodup : resources.Nodup)
    (registered : ∀ resource ∈ resources,
      registry.registered resource = true) :
    (registry.unregisterAll resources).stale = registry.stale := by
  induction resources generalizing registry with
  | nil =>
      rfl
  | cons resource rest inductionHypothesis =>
      obtain ⟨notInRest, restNodup⟩ := List.nodup_cons.mp nodup
      have restRegistered : ∀ other ∈ rest,
          (registry.unregister resource).registered other = true := by
        intro other member
        apply (registered_unregister registry resource other).mpr
        constructor
        · exact registered other (List.mem_cons_of_mem resource member)
        · intro same
          exact notInRest (same ▸ member)
      rw [unregisterAll_cons, inductionHypothesis restNodup restRegistered]
      simp [unregister, registered resource List.mem_cons_self]

theorem unregisterAll_registerAll {registry : Registry R}
    {resources : List R} (nodup : resources.Nodup)
    (fresh : ∀ resource ∈ resources,
      registry.registered resource = false) :
    (registry.registerAll resources).unregisterAll resources = registry := by
  have registered : ∀ resource ∈ resources,
      (registry.registerAll resources).registered resource = true :=
    fun resource member =>
      (registered_registerAll registry resources resource).mpr
        (Or.inl member)
  ext other
  · rw [registered_unregisterAll, registered_registerAll]
    by_cases member : other ∈ resources
    · simp [member, fresh other member]
    · simp [member]
  · rw [stale_unregisterAll_of_registered nodup registered,
      stale_registerAll]

section RegisterOrUndo

variable {ι : Type} {resource : ι → R} {status : ι → Int}

/-- The first negative status is the one returned. -/
theorem status_registerOrUndo (done rest : List ι) (registry : Registry R) :
    (registerOrUndo resource status done rest registry).1 =
      match rest.find? fun item => decide (status item < 0) with
      | some item => status item
      | none => 0 := by
  induction rest generalizing done registry with
  | nil =>
      rfl
  | cons item rest inductionHypothesis =>
      unfold registerOrUndo
      by_cases negative : status item < 0
      · rw [if_pos negative, List.find?_cons_of_pos (by simpa using negative)]
      · rw [if_neg negative, List.find?_cons_of_neg (by simpa using negative)]
        exact inductionHypothesis (done ++ [item]) _

/-- A negative status says that nothing has changed, any other that all is
registered. -/
theorem registry_registerOrUndo {registry : Registry R}
    (done rest : List ι)
    (nodup : ((done ++ rest).map resource).Nodup)
    (fresh : ∀ item ∈ done ++ rest,
      registry.registered (resource item) = false) :
    (registerOrUndo resource status done rest
        (registry.registerAll (done.map resource))).2 =
      if (registerOrUndo resource status done rest
          (registry.registerAll (done.map resource))).1 < 0 then
        registry
      else registry.registerAll ((done ++ rest).map resource) := by
  induction rest generalizing done with
  | nil =>
      rw [List.append_nil]
      rfl
  | cons item rest inductionHypothesis =>
      unfold registerOrUndo
      by_cases negative : status item < 0
      · have doneNodup : (done.map resource).Nodup := by
          rw [List.map_append] at nodup
          exact (List.nodup_append.mp nodup).1
        have doneFresh : ∀ other ∈ done.map resource,
            registry.registered other = false := by
          intro other member
          obtain ⟨before, isDone, rfl⟩ := List.mem_map.mp member
          exact fresh before (List.mem_append_left _ isDone)
        rw [if_pos negative, if_pos negative]
        exact unregisterAll_registerAll doneNodup doneFresh
      · have moved : done ++ item :: rest = (done ++ [item]) ++ rest := by
          simp
        have registered :
            (registry.registerAll (done.map resource)).register
                (resource item) =
              registry.registerAll ((done ++ [item]).map resource) := by
          rw [List.map_append, registerAll_append]
          rfl
        rw [moved] at nodup fresh ⊢
        rw [if_neg negative, registered]
        exact inductionHypothesis (done ++ [item]) nodup fresh

end RegisterOrUndo

/-- A mark stays. -/
theorem stale_unregisterAll {registry : Registry R}
    (marked : registry.stale = true) (resources : List R) :
    (registry.unregisterAll resources).stale = true := by
  induction resources generalizing registry with
  | nil =>
      exact marked
  | cons resource rest inductionHypothesis =>
      apply inductionHypothesis
      simp [unregister, marked]

/-- A removal is clean exactly if it removes what is registered. -/
theorem clean_unregisterAll_iff {registry : Registry R} {resources : List R}
    (nodup : resources.Nodup) (notStale : registry.stale = false) :
    (registry.unregisterAll resources).Clean ↔
      ∀ resource, registry.registered resource = true ↔
        resource ∈ resources := by
  induction resources generalizing registry with
  | nil =>
      constructor
      · intro clean resource
        rw [← unregisterAll_nil registry, clean.nothingLeft resource]
        simp
      · intro named
        constructor
        · intro resource
          rw [← Bool.not_eq_true]
          intro registered
          cases (named resource).mp registered
        · exact notStale
  | cons resource rest inductionHypothesis =>
      obtain ⟨notInRest, restNodup⟩ := List.nodup_cons.mp nodup
      rw [unregisterAll_cons]
      cases isRegistered : registry.registered resource with
      | false =>
          apply iff_of_false
          · intro clean
            have marked : (registry.unregister resource).stale = true := by
              simp [unregister, isRegistered]
            have stillMarked := stale_unregisterAll marked rest
            rw [clean.notStale] at stillMarked
            cases stillMarked
          · intro named
            have registered :=
              (named resource).mpr List.mem_cons_self
            rw [isRegistered] at registered
            cases registered
      | true =>
          have stillNotStale :
              (registry.unregister resource).stale = false := by
            simp [unregister, isRegistered, notStale]
          rw [inductionHypothesis restNodup stillNotStale]
          apply forall_congr'
          intro other
          by_cases same : other = resource
          · subst same
            simp [unregister, isRegistered, notInRest]
          · simp [unregister, same]

end Registry

end Interaction
