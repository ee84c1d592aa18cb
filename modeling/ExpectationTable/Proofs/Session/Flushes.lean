import ExpectationTable.Proofs.Converter.Finishing
import ExpectationTable.Proofs.Session.Transitions

/-!
# When a session flushes

The sinks are asked to flush at the end of an input and at no other time: the table once, and then
the diagnostics once if the table could. How often they were asked in all is therefore how often an
input came to its end, and a step finishes exactly if it has asked both and both could. A sink that
could not is not asked again, and nothing but the result tells of it.
-/

namespace ExpectationTable

theorem StepResult.ofInput_eq_finished_iff {result : Except ConversionError Summary}
    {summary : Summary} : ofInput result = .finished summary ↔ result = .ok summary := by
  cases result <;> simp [ofInput]

namespace Session

/-- The converter when all lines of the step's input are taken up and nothing was flushed yet, if
the step takes up an input and comes so far. -/
def atEnd? (step : Step) (session : Session) : Option Converter :=
  match step with
  | .line _ => none
  | .convert source => session.converter.atEnd? source
  | .resume => session.converter.atEnd? session.unread

/-- Where the steps came to the end of an input, one after the other. -/
def ends : List Step → Session → List Converter
  | [], _ => []
  | step :: steps, session =>
      (session.atEnd? step).toList ++ (session.step step).2.ends steps

/-- How often the step asks the sink of the stream to flush. -/
def flushCalls (stream : Stream) (step : Step) (session : Session) : Nat :=
  ((session.step step).2.converter.sink stream).flushes - (session.converter.sink stream).flushes

/-- A step that takes up an input flushes at its end, and only there. -/
structure FlushesAtEnd (step : Step) (session : Session) : Prop where
  /-- Without the end of an input, nothing is flushed. -/
  unflushed (stream : Stream) : session.atEnd? step = none →
    session.flushCalls stream step = 0
  /-- At the end, the table is flushed, and the diagnostics are if the table could be. -/
  flushed (last : Converter) : session.atEnd? step = some last →
    session.flushCalls .table step = 1 ∧
      session.flushCalls .diagnostics step = if last.table.flush.1.isOk then 1 else 0
  /-- The step finishes exactly if it flushes both and both can be. -/
  finished_iff : (∃ summary, (session.step step).1 = .finished summary) ↔
    session.flushCalls .table step = 1 ∧ session.flushCalls .diagnostics step = 1 ∧
      ∃ last, session.atEnd? step = some last ∧ last.table.flush.1 = .ok () ∧
        last.diagnostics.flush.1 = .ok ()
  /-- A flush that fails is the result, whatever the failure is. -/
  failed (last : Converter) (cause : Failure) : session.atEnd? step = some last →
    (last.table.flush.1 = .error cause →
        (session.step step).1 = .failed (.write .table cause)) ∧
      (last.table.flush.1 = .ok () → last.diagnostics.flush.1 = .error cause →
        (session.step step).1 = .failed (.write .diagnostics cause))
  /-- Flushing changes neither what the sinks hold nor the counts. -/
  kept (last : Converter) : session.atEnd? step = some last →
    (session.step step).2.converter.table.bytes = last.table.bytes ∧
      (session.step step).2.converter.diagnostics.bytes = last.diagnostics.bytes ∧
      (session.step step).2.converter.summary = last.summary

section Step

variable {step : Step} {session : Session}

/-- A step that comes to the end of an input finishes there, and has flushed nothing before. -/
theorem step_of_atEnd?_eq_some {last : Converter} (ended : session.atEnd? step = some last) :
    (session.step step).1 = .ofInput last.finish.1 ∧
      (session.step step).2.converter = last.finish.2 ∧
      ∀ stream, (last.sink stream).flushes = (session.converter.sink stream).flushes := by
  have input {source : Source} (ended : session.converter.atEnd? source = some last) :
      (session.convert source).1 = .ofInput last.finish.1 ∧
        (session.convert source).2.converter = last.finish.2 ∧
        ∀ stream, (last.sink stream).flushes = (session.converter.sink stream).flushes := by
    rcases Converter.convert_of_atEnd?_eq_some ended with ⟨result, after, flushes⟩
    exact ⟨congrArg StepResult.ofInput result, after, flushes⟩
  cases step with
  | line text => cases ended
  | convert source => exact input ended
  | resume => exact input ended

/-- A step that does not come to the end of an input does not finish, and flushes nothing. -/
theorem step_of_atEnd?_eq_none (missed : session.atEnd? step = none) :
    (∀ summary, (session.step step).1 ≠ .finished summary) ∧
      ∀ stream, ((session.step step).2.converter.sink stream).flushes =
        (session.converter.sink stream).flushes := by
  have input {source : Source} (missed : session.converter.atEnd? source = none) :
      (∀ summary, (session.convert source).1 ≠ .finished summary) ∧
        ∀ stream, ((session.convert source).2.converter.sink stream).flushes =
          (session.converter.sink stream).flushes := by
    rcases Converter.convert_of_atEnd?_eq_none missed with ⟨⟨error, failed⟩, flushes⟩
    refine ⟨?_, flushes⟩
    intro summary finished
    cases (congrArg StepResult.ofInput failed).symm.trans finished
  cases step with
  | line text =>
      rw [step_line]
      constructor
      · intro summary
        cases (session.converter.convertLine text).1 <;> exact StepResult.noConfusion
      · intro stream
        exact (session.converter.flushesLike_convertLine text stream).flushes
  | convert source => exact input missed
  | resume => exact input missed

end Step

/-- The table is flushed at the end of the step's input, if it comes there, and the diagnostics are
if the table could be. -/
theorem flushes_step (step : Step) (session : Session) :
    let ended := (session.atEnd? step).toList
    let after := (session.step step).2.converter
    after.table.flushes = session.converter.table.flushes + ended.length ∧
      after.diagnostics.flushes =
        session.converter.diagnostics.flushes +
          ended.countP fun last => last.table.flush.1.isOk := by
  intro ended after
  cases reached : session.atEnd? step with
  | none =>
      rcases step_of_atEnd?_eq_none reached with ⟨_, flushes⟩
      simp only [ended, reached]
      exact ⟨flushes .table, flushes .diagnostics⟩
  | some last =>
      rcases step_of_atEnd?_eq_some reached with ⟨_, finished, flushes⟩
      rcases last.finish_flushes with ⟨_, table, diagnostics⟩
      have tableBefore : last.table.flushes = session.converter.table.flushes := flushes .table
      have diagnosticsBefore : last.diagnostics.flushes = session.converter.diagnostics.flushes :=
        flushes .diagnostics
      simp only [ended, after, reached, finished, table, diagnostics, tableBefore,
        diagnosticsBefore, Option.toList_some, List.length_singleton, List.countP_singleton,
        and_self]

theorem flushes_steps (steps : List Step) (session : Session) :
    let ends := session.ends steps
    let reached := (session.run steps).2.converter
    reached.table.flushes = session.converter.table.flushes + ends.length ∧
      reached.diagnostics.flushes =
        session.converter.diagnostics.flushes +
          ends.countP fun last => last.table.flush.1.isOk := by
  induction steps generalizing session with
  | nil => exact ⟨rfl, rfl⟩
  | cons step steps ih =>
      rcases session.flushes_step step with ⟨table, diagnostics⟩
      rcases ih (session.step step).2 with ⟨tableThen, diagnosticsThen⟩
      dsimp only at table diagnostics tableThen diagnosticsThen ⊢
      rw [run_cons_snd, ends, List.length_append, List.countP_append, tableThen, diagnosticsThen,
        table, diagnostics, Nat.add_assoc, Nat.add_assoc]
      exact ⟨rfl, rfl⟩

theorem flushesAtEnd (step : Step) (session : Session) : session.FlushesAtEnd step := by
  rcases session.flushes_step step with ⟨table, diagnostics⟩
  have tableCalls : session.flushCalls .table step = (session.atEnd? step).toList.length :=
    Nat.sub_eq_of_eq_add' table
  have diagnosticsCalls : session.flushCalls .diagnostics step =
      (session.atEnd? step).toList.countP fun last => last.table.flush.1.isOk :=
    Nat.sub_eq_of_eq_add' diagnostics
  constructor
  case unflushed =>
    intro stream missed
    cases stream with
    | table => rw [tableCalls, missed, Option.toList_none, List.length_nil]
    | diagnostics => rw [diagnosticsCalls, missed, Option.toList_none, List.countP_nil]
  case flushed =>
    intro last ended
    rw [tableCalls, diagnosticsCalls, ended]
    exact ⟨rfl, List.countP_singleton⟩
  case finished_iff =>
    cases reached : session.atEnd? step with
    | none =>
        rcases step_of_atEnd?_eq_none reached with ⟨unfinished, _⟩
        simp [unfinished]
    | some last =>
        rw [(step_of_atEnd?_eq_some reached).1, tableCalls, diagnosticsCalls, reached]
        simp only [StepResult.ofInput_eq_finished_iff, last.exists_finish_eq_ok_iff,
          Option.toList_some, List.length_singleton, List.countP_singleton, Option.some.injEq,
          exists_eq_left', true_and]
        constructor
        · intro ⟨table, diagnostics⟩
          exact ⟨by rw [table]; rfl, table, diagnostics⟩
        · exact And.right
  case failed =>
    intro last cause ended
    rw [(step_of_atEnd?_eq_some ended).1, last.finish_flushes.1]
    constructor
    · intro table
      rw [table]
      rfl
    · intro table diagnostics
      rw [table, diagnostics]
      rfl
  case kept =>
    intro last ended
    rw [(step_of_atEnd?_eq_some ended).2.1]
    rcases last.finish_keeps with ⟨table, diagnostics, _, summary⟩
    exact ⟨table, diagnostics, summary⟩

/-- Whatever a session has been asked to do, its table was asked to flush as often as an input came
to its end, and its diagnostics as often as the table could flush there. And whatever step comes
next, it flushes at the end of its input only. -/
theorem flushes_run (steps : List Step) (session : Session) :
    let ends := session.ends steps
    let reached := (session.run steps).2
    reached.converter.table.flushes = session.converter.table.flushes + ends.length ∧
      reached.converter.diagnostics.flushes =
        session.converter.diagnostics.flushes +
          ends.countP (fun last => last.table.flush.1.isOk) ∧
      ∀ step, reached.FlushesAtEnd step := by
  intro ends reached
  rcases session.flushes_steps steps with ⟨table, diagnostics⟩
  exact ⟨table, diagnostics, fun step => reached.flushesAtEnd step⟩

/-- A flush that is interrupted is not tried again by the step that it fails, but by the next. -/
example :
    let fault : FlushFault := ⟨⟨.interrupted, ""⟩, .times 1⟩
    let session : Session :=
      { converter := { table := { flushFault := some fault }, diagnostics := {}, style := .plain } }
    let steps : List Step := [.convert [.bytes (Utf8.encode "x")], .resume]
    (session.run steps).1.map (fun answer =>
        (answer.result, answer.tableFlushes, answer.diagnosticsFlushes)) =
      [(.failed (.write .table ⟨.interrupted, ""⟩), 1, 0),
        (.finished { lines := 1, unmatched := 1 }, 2, 1)] := by
  decide +kernel

end Session

end ExpectationTable
