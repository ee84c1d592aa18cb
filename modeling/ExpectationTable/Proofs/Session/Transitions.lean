import ExpectationTable.Proofs.Converter.Run
import ExpectationTable.Session

/-!
# The transitions of a session

The answers of a session say what came of its steps, but not which lines were taken up on the way.
Here each step is seen as a transition between two sessions, together with the lines that it takes
up. The transitions of a run give the results that its answers give, and lead to where it leads.
-/

namespace ExpectationTable

/-- One step of a session: the session before and after it, and the lines that it takes up. -/
structure Transition where
  before : Session
  handled : List Handling
  result : StepResult
  after : Session

namespace Session

/-- The lines that a step takes up, with what comes of each. -/
def handlings (step : Step) (session : Session) : List Handling :=
  match step with
  | .line text => [⟨text, (session.converter.convertLine text).1⟩]
  | .convert source => session.converter.handlings source
  | .resume => session.converter.handlings session.unread

/-- What a step does. -/
def transition (step : Step) (session : Session) : Transition where
  before := session
  handled := session.handlings step
  result := (session.step step).1
  after := (session.step step).2

def transitions : List Step → Session → List Transition
  | [], _ => []
  | step :: steps, session => session.transition step :: (session.step step).2.transitions steps

/-- All lines that the steps take up, in order. -/
def history (steps : List Step) (session : Session) : List Handling :=
  (session.transitions steps).flatMap Transition.handled

@[simp] theorem transitions_nil (session : Session) : session.transitions [] = [] := rfl

@[simp] theorem transitions_cons (step : Step) (steps : List Step) (session : Session) :
    session.transitions (step :: steps) =
      session.transition step :: (session.step step).2.transitions steps := rfl

@[simp] theorem history_nil (session : Session) : session.history [] = [] := rfl

@[simp] theorem history_cons (step : Step) (steps : List Step) (session : Session) :
    session.history (step :: steps) =
      session.handlings step ++ (session.step step).2.history steps := rfl

theorem forall_mem_transitions {property : Transition → Prop}
    (each : ∀ step session, property (Session.transition step session)) (steps : List Step)
    (session : Session) : ∀ call ∈ session.transitions steps, property call := by
  induction steps generalizing session with
  | nil =>
      intro call member
      cases member
  | cons step steps ih =>
      intro call member
      rcases List.mem_cons.mp member with rfl | later
      · exact each step session
      · exact ih _ call later

theorem step_line (text : String) (session : Session) :
    session.step (.line text) =
      (.ofLine (session.converter.convertLine text).1,
        ⟨(session.converter.convertLine text).2, session.unread⟩) := by
  rcases session with ⟨converter, unread⟩
  rcases taken : converter.convertLine text with ⟨result, next⟩
  simp only [step, taken]

/-- An answer tells the result of the step, what the sinks hold beyond what they held before, and
the counts after the step. -/
theorem answer_fst_eq (step : Step) (session : Session) :
    (session.answer step).1 =
      { result := (session.step step).1
        table := (session.step step).2.converter.table.bytes.drop
          session.converter.table.bytes.length
        diagnostics := (session.step step).2.converter.diagnostics.bytes.drop
          session.converter.diagnostics.bytes.length
        summary := (session.step step).2.converter.summary
        tableFlushes := (session.step step).2.converter.table.flushes
        diagnosticsFlushes := (session.step step).2.converter.diagnostics.flushes } := by
  rw [← Sink.bytesFrom_eq_drop, ← Sink.bytesFrom_eq_drop]
  rfl

@[simp] theorem run_nil (session : Session) : session.run [] = ([], session) := rfl

@[simp] theorem run_cons_fst (step : Step) (steps : List Step) (session : Session) :
    (session.run (step :: steps)).1 =
      (session.answer step).1 :: ((session.step step).2.run steps).1 := rfl

@[simp] theorem run_cons_snd (step : Step) (steps : List Step) (session : Session) :
    (session.run (step :: steps)).2 = ((session.step step).2.run steps).2 := rfl

@[simp] theorem length_run (steps : List Step) (session : Session) :
    (session.run steps).1.length = steps.length := by
  induction steps generalizing session with
  | nil => rfl
  | cons step steps ih => rw [run_cons_fst, List.length_cons, List.length_cons, ih]

theorem step_of_isCumulative {relation : Converter → List Handling → Converter → Prop}
    (cumulative : Converter.IsCumulative relation) (step : Step) (session : Session) :
    relation session.converter (session.handlings step) (session.step step).2.converter := by
  cases step with
  | line text =>
      simp only [step_line, handlings]
      exact cumulative.line (session.converter.lineStep text)
  | convert source => exact (session.converter.runs source).of_isCumulative cumulative
  | resume => exact (session.converter.runs session.unread).of_isCumulative cumulative

/-- What is cumulative holds of any steps and the lines that they take up. -/
theorem run_of_isCumulative {relation : Converter → List Handling → Converter → Prop}
    (cumulative : Converter.IsCumulative relation) (steps : List Step) (session : Session) :
    relation session.converter (session.history steps) (session.run steps).2.converter := by
  induction steps generalizing session with
  | nil => exact cumulative.refl _
  | cons step steps ih =>
      rw [history_cons, run_cons_snd]
      exact cumulative.trans (step_of_isCumulative cumulative step session)
        (ih (session.step step).2)

end Session

end ExpectationTable
