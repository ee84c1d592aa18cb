import ExpectationTable.Converter

/-!
# Sessions

A session drives one converter through a sequence of steps: single lines, whole inputs, and what an
input has left after its conversion ended early. Each step is answered with its result, with what it
added to the two sinks, and with the counts after it.
-/

namespace ExpectationTable

/-- What a session is asked to do. -/
inductive Step where
  /-- Take up one line, whatever line feeds it holds. -/
  | line (text : String)
  /-- Convert an input. What an earlier one has left is given up. -/
  | convert (source : Source)
  /-- Convert what the last input has left. -/
  | resume

/-- What comes of a step: the outcome of a line, the counts after an input, or an error. -/
inductive StepResult where
  | handled (outcome : Outcome)
  | finished (summary : Summary)
  | failed (error : ConversionError)
  deriving DecidableEq

/-- The answer to a step. -/
structure Answer where
  result : StepResult
  /-- The bytes that the step added to the table. -/
  table : Bytes
  /-- The bytes that the step added to the diagnostics. -/
  diagnostics : Bytes
  summary : Summary
  /-- How often the table was asked to flush so far. -/
  tableFlushes : Nat
  /-- How often the diagnostics were asked to flush so far. -/
  diagnosticsFlushes : Nat

/-- A converter with what its last input has left. -/
structure Session where
  converter : Converter
  unread : Source := []

namespace StepResult

def ofLine : Except ConversionError Outcome → StepResult
  | .ok outcome => .handled outcome
  | .error error => .failed error

def ofInput : Except ConversionError Summary → StepResult
  | .ok summary => .finished summary
  | .error error => .failed error

end StepResult

namespace Session

/-- Converts an input, and keeps what it has left. -/
def convert (source : Source) (session : Session) : StepResult × Session :=
  let conversion := session.converter.convert source
  (.ofInput conversion.result, ⟨conversion.converter, conversion.unread⟩)

/-- Takes one step. -/
def step (step : Step) (session : Session) : StepResult × Session :=
  match step with
  | .line text =>
      let ⟨converter, unread⟩ := session
      let (result, converter) := converter.convertLine text
      (.ofLine result, ⟨converter, unread⟩)
  | .convert source => session.convert source
  | .resume => session.convert session.unread

/-- Takes one step and answers it, where so many bytes were in the sinks before. -/
def answerBeyond (tableSize diagnosticsSize : Nat) (step : Step) (session : Session) :
    Answer × Session :=
  let (result, session) := session.step step
  let ⟨table, diagnostics, _, summary⟩ := session.converter
  ({ result
     table := table.bytesFrom tableSize
     diagnostics := diagnostics.bytesFrom diagnosticsSize
     summary
     tableFlushes := table.flushes
     diagnosticsFlushes := diagnostics.flushes },
    session)

/-- Takes one step and answers it. -/
def answer (step : Step) (session : Session) : Answer × Session :=
  session.answerBeyond session.converter.table.size session.converter.diagnostics.size step

/-- Takes the steps in order: the answers to all of them, and the session after the last. -/
def run (steps : List Step) (session : Session) : List Answer × Session :=
  match steps with
  | [] => ([], session)
  | step :: steps =>
      let (answer, session) := session.answer step
      let (answers, session) := session.run steps
      (answer :: answers, session)

end Session

end ExpectationTable
