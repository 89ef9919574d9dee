import TuxedoDrivers.Interaction.Program

/-!
# Protocols that programs follow

A monitor reads a trace event by event and may have no step for one.  A
program follows the monitor when every run of it can be read, whatever it is
answered.  What the monitor has seen is the typestate of the rules, and
relates the events of a trace to those before them.
-/

namespace Interaction

/-- The steps of a monitor: what it has seen before and after an event. -/
abbrev Monitor (S : Signature) (γ : Type) : Type :=
  γ → Event S → γ → Prop

namespace Monitor

variable {S : Signature} {γ : Type} (monitor : Monitor S γ)

/-- The monitor can read the log. -/
def Reads : γ → List (Event S) → γ → Prop
  | seen, [], final => final = seen
  | seen, event :: rest, final =>
      ∃ next, monitor seen event next ∧ Reads next rest final

variable {monitor} {seen final : γ}

theorem reads_append {first second : List (Event S)} :
    monitor.Reads seen (first ++ second) final ↔
      ∃ now, monitor.Reads seen first now ∧
        monitor.Reads now second final := by
  induction first generalizing seen with
  | nil =>
      constructor
      · exact fun reads => ⟨seen, rfl, reads⟩
      · rintro ⟨now, rfl, reads⟩
        exact reads
  | cons event rest inductionHypothesis =>
      constructor
      · rintro ⟨next, lets, reads⟩
        obtain ⟨now, before, after⟩ := inductionHypothesis.mp reads
        exact ⟨now, ⟨next, lets, before⟩, after⟩
      · rintro ⟨now, ⟨next, lets, before⟩, after⟩
        exact ⟨next, lets, inductionHypothesis.mpr ⟨now, before, after⟩⟩

/-- What is known of the events so far is known of every log that can be
read. -/
theorem Reads.preserves (known : γ → List (Event S) → Prop)
    (step : ∀ {now log event next}, known now log →
      monitor now event next → known next (log ++ [event]))
    {before log : List (Event S)} (initially : known seen before)
    (reads : monitor.Reads seen log final) :
    known final (before ++ log) := by
  induction log generalizing seen before with
  | nil =>
      cases reads
      rwa [List.append_nil]
  | cons event rest inductionHypothesis =>
      obtain ⟨next, lets, later⟩ := reads
      have known := inductionHypothesis (step initially lets) later
      rwa [List.append_assoc] at known

/-- An event has a step where it stands. -/
theorem Reads.event {before after : List (Event S)} {event : Event S}
    (reads : monitor.Reads seen (before ++ event :: after) final) :
    ∃ now next, monitor.Reads seen before now ∧ monitor now event next := by
  obtain ⟨now, earlier, next, lets, -⟩ := reads_append.mp reads
  exact ⟨now, next, earlier, lets⟩

end Monitor

namespace Program

variable {S : Signature} {α β γ : Type} {monitor : Monitor S γ}

/-- Having seen `seen`, the monitor can read every run, and `post` holds of
the result and of what it has seen then. -/
def Follows (monitor : Monitor S γ) (post : α → γ → Prop) :
    γ → Program S α → Prop
  | seen, .done value => post value seen
  | seen, .ask request next =>
      ∀ answer, ∃ seen', monitor seen ⟨request, answer⟩ seen' ∧
        Follows monitor post seen' (next answer)

variable {post : α → γ → Prop} {seen : γ}

theorem Follows.bind {program : Program S α} {rest : α → Program S β}
    {last : β → γ → Prop}
    (first : program.Follows monitor post seen)
    (second : ∀ value seen', post value seen' →
      (rest value).Follows monitor last seen') :
    (program >>= rest).Follows monitor last seen := by
  induction program generalizing seen with
  | done value =>
      exact second value seen first
  | ask request next inductionHypothesis =>
      intro answer
      obtain ⟨seen', lets, later⟩ := first answer
      exact ⟨seen', lets, inductionHypothesis answer later⟩

theorem Follows.ite {condition : Prop} [Decidable condition]
    {first second : Program S α}
    (ifTrue : condition → first.Follows monitor post seen)
    (ifFalse : ¬ condition → second.Follows monitor post seen) :
    (if condition then first else second).Follows monitor post seen := by
  by_cases holds : condition
  · rw [if_pos holds]
    exact ifTrue holds
  · rw [if_neg holds]
    exact ifFalse holds

/-- A loop follows the monitor when each round keeps what it found. -/
theorem Follows.foldlM {ι : Type} {body : β → ι → Program S β}
    {kept : β → γ → Prop}
    (round : ∀ value item seen, kept value seen →
      (body value item).Follows monitor kept seen)
    (items : List ι) {value : β} (initially : kept value seen) :
    (items.foldlM body value).Follows monitor kept seen := by
  induction items generalizing value seen with
  | nil =>
      exact initially
  | cons item rest inductionHypothesis =>
      rw [List.foldlM_cons]
      exact (round value item seen initially).bind
        fun _ _ still => inductionHypothesis still

theorem Follows.run {σ : Type} (environment : Environment S σ)
    {program : Program S α}
    (follows : program.Follows monitor post seen) (state : σ) :
    ∃ final,
      monitor.Reads seen (program.trace environment state) final ∧
        post (program.run environment state).1 final := by
  induction program generalizing seen state with
  | done value =>
      exact ⟨seen, rfl, follows⟩
  | ask request next inductionHypothesis =>
      obtain ⟨seen', lets, later⟩ := follows (environment request state).1
      obtain ⟨final, reads, holds⟩ :=
        inductionHypothesis _ later (environment request state).2
      exact ⟨final, ⟨seen', lets, reads⟩, holds⟩

end Program

end Interaction
