import ExpectationTable.Proofs.Converter.Simulation
import ExpectationTable.Proofs.Session.Transitions

/-!
# Comparing two sessions

Two sessions that take the same steps are compared by a relation between their converters. If
related converters make the same of every line and of finishing, then the sessions make the same of
any steps: the lines that they take up, the results, and what they leave unread.
-/

namespace ExpectationTable

namespace Session

/-- The converters of the sessions are related, and the same is unread. -/
structure Related (related : Converter → Converter → Prop) (left right : Session) : Prop where
  converter : related left.converter right.converter
  unread : left.unread = right.unread

end Session

namespace Converter

namespace IsSimulationUntil

variable {parted related : Converter → Converter → Prop}
  (simulation : IsSimulationUntil parted related) {left right : Session}

include simulation

/-- Every step has the same result in both sessions and takes up the same lines, or their converters
part. -/
theorem step (step : Step) (alike : left.Related related right) :
    ((left.step step).1 = (right.step step).1 ∧
        (left.step step).2.Related related (right.step step).2 ∧
        left.handlings step = right.handlings step) ∨
      parted (left.step step).2.converter (right.step step).2.converter := by
  have input (source : Source) :
      ((left.convert source).1 = (right.convert source).1 ∧
          (left.convert source).2.Related related (right.convert source).2 ∧
          left.converter.handlings source = right.converter.handlings source) ∨
        parted (left.convert source).2.converter (right.convert source).2.converter := by
    apply (simulation.convert alike.converter source).imp_left
    rintro ⟨result, after, unread, lines⟩
    exact ⟨congrArg StepResult.ofInput result, ⟨after, unread⟩, lines⟩
  cases step with
  | line text =>
      simp only [Session.step_line]
      apply (simulation.line text alike.converter).imp
      · rintro ⟨result, after⟩
        refine ⟨congrArg StepResult.ofLine result, ⟨after, alike.unread⟩, ?_⟩
        rw [Session.handlings, Session.handlings, result]
      · exact And.right
  | convert source => exact input source
  | resume =>
      have unread := input left.unread
      rw [Session.step, Session.step, Session.handlings, Session.handlings, ← alike.unread]
      exact unread

/-- Steps are taken in both sessions alike, until their converters part for good. -/
theorem run (steps : List Step)
    (alike : left.Related related right ∨ parted left.converter right.converter) :
    (left.run steps).2.Related related (right.run steps).2 ∨
      parted (left.run steps).2.converter (right.run steps).2.converter := by
  induction steps generalizing left right with
  | nil => exact alike
  | cons step steps ih =>
      rw [Session.run_cons_snd, Session.run_cons_snd]
      apply ih
      cases alike with
      | inl alike => exact (simulation.step step alike).imp_left fun same => same.2.1
      | inr apart =>
          right
          have left := Session.step_of_isCumulative
            (simulation.left_isCumulative right.converter) step left apart
          exact Session.step_of_isCumulative (simulation.right_isCumulative _) step right left

end IsSimulationUntil

namespace IsSimulation

variable {related : Converter → Converter → Prop} (simulation : IsSimulation related)

include simulation

theorem step (step : Step) {left right : Session} (alike : left.Related related right) :
    (left.step step).1 = (right.step step).1 ∧
      (left.step step).2.Related related (right.step step).2 ∧
      left.handlings step = right.handlings step :=
  (IsSimulationUntil.step simulation step alike).resolve_right id

/-- What is the same in the answers of related sessions to any single step is the same in the
answers of whole runs. -/
theorem run {α : Type} {view : Answer → α}
    (same : ∀ {left right : Session} (step : Step), left.Related related right →
      view (left.answer step).1 = view (right.answer step).1)
    (steps : List Step) {left right : Session} (alike : left.Related related right) :
    (left.run steps).1.map view = (right.run steps).1.map view ∧
      (left.run steps).2.Related related (right.run steps).2 := by
  induction steps generalizing left right with
  | nil => exact ⟨rfl, alike⟩
  | cons step steps ih =>
      rcases simulation.step step alike with ⟨_, after, _⟩
      rcases ih after with ⟨answers, last⟩
      constructor
      · rw [Session.run_cons_fst, Session.run_cons_fst, List.map_cons, List.map_cons,
          same step alike, answers]
      · rwa [Session.run_cons_snd, Session.run_cons_snd]

theorem history (steps : List Step) {left right : Session} (alike : left.Related related right) :
    left.history steps = right.history steps := by
  induction steps generalizing left right with
  | nil => rfl
  | cons step steps ih =>
      rcases simulation.step step alike with ⟨_, after, lines⟩
      rw [Session.history_cons, Session.history_cons, lines, ih after]

end IsSimulation

end Converter

end ExpectationTable
