import ExpectationTable.Proofs.Converter.Destination
import ExpectationTable.Proofs.Session.Transitions

/-!
# The streams are independent

Lines that are handed over one by one go to two streams, and the one stream tells nothing of the
other. Whatever the sink of the other stream refuses, and however it is set, the same bytes are
added to the stream, its lines have the same results, and the counts that concern it are the same.
The results of the other stream's lines may differ, and with them the count of those.
-/

namespace ExpectationTable

/-- How many lines were written to the stream. -/
def Summary.written : Stream → Summary → Nat
  | .table => matched
  | .diagnostics => unmatched

@[simp] theorem Summary.written_addLine (stream : Stream) (summary : Summary) :
    summary.addLine.written stream = summary.written stream := by
  cases stream <;> rfl

theorem Summary.written_addWritten (stream destination : Stream) (summary : Summary) :
    (summary.addWritten destination).written stream =
      summary.written stream + if destination = stream then 1 else 0 := by
  cases stream <;> cases destination <;> rfl

def Answer.added : Stream → Answer → Bytes
  | .table => table
  | .diagnostics => diagnostics

/-- What the answer to a line tells of a stream: what was added to it, the result if the line is one
of the stream's, and how many lines were taken up and how many of them written to the stream. -/
structure StreamView where
  added : Bytes
  result : Option StepResult
  lines : Nat
  written : Nat
  deriving DecidableEq

def Answer.view (stream : Stream) (line : String) (answer : Answer) : StreamView where
  added := answer.added stream
  result := if Converter.destination line = stream then some answer.result else none
  lines := answer.summary.lines
  written := answer.summary.written stream

namespace Converter

theorem written_convertLine (stream : Stream) (line : String) (converter : Converter) :
    (converter.convertLine line).2.summary.written stream =
      converter.summary.written stream +
        if destination line = stream ∧ (converter.convertLine line).1.isOk then 1 else 0 := by
  rw [summary_convertLine]
  cases (converter.convertLine line).1 with
  | ok outcome => simp [Summary.written_addWritten, Except.isOk, Except.toBool]
  | error error => simp [Except.isOk, Except.toBool]

/-- The stream is the same in both converters: its sink, its count and, as far as it matters to the
stream, the style. Of the other stream nothing is said. -/
structure SameStream (stream : Stream) (left right : Converter) : Prop where
  sink : left.sink stream = right.sink stream
  style : stream = .diagnostics → left.style = right.style
  lines : left.summary.lines = right.summary.lines
  written : left.summary.written stream = right.summary.written stream

theorem pieces_eq_of_destination_eq_table {line : String} (toTable : destination line = .table)
    (left right : Diagnostic.Style) : pieces left line = pieces right line := by
  rw [destination] at toTable
  rw [pieces, pieces]
  cases read : Expectation.parse? line with
  | some expectation => rfl
  | none => simp [read] at toTable

namespace SameStream

variable {stream : Stream} {left right : Converter} (same : SameStream stream left right)
  {line : String}

include same

theorem writeFragments_eq (its : destination line = stream) :
    (left.sink stream).writeFragments (pieces left.style line) =
      (right.sink stream).writeFragments (pieces right.style line) := by
  rw [same.sink]
  cases stream with
  | table => rw [pieces_eq_of_destination_eq_table its left.style right.style]
  | diagnostics => rw [same.style rfl]

theorem result_convertLine_eq (its : destination line = stream) :
    (left.convertLine line).1 = (right.convertLine line).1 := by
  rw [result_convertLine, result_convertLine, its, same.writeFragments_eq its]

/-- A line leaves the stream the same in both converters, whichever stream it goes to. -/
theorem convertLine (line : String) :
    SameStream stream (left.convertLine line).2 (right.convertLine line).2 := by
  refine ⟨?_, ?_, ?_, ?_⟩
  · by_cases its : destination line = stream
    · have leftSink := sink_convertLine_destination line left
      have rightSink := sink_convertLine_destination line right
      rw [its] at leftSink rightSink
      rw [leftSink, rightSink, same.writeFragments_eq its]
    · rw [sink_convertLine_of_ne _ (Ne.symm its), sink_convertLine_of_ne _ (Ne.symm its), same.sink]
  · intro diagnostics
    rw [style_convertLine, style_convertLine, same.style diagnostics]
  · rw [(left.lineStep line).summary_lines, (right.lineStep line).summary_lines, same.lines]
  · rw [written_convertLine, written_convertLine, same.written]
    by_cases its : destination line = stream
    · rw [same.result_convertLine_eq its]
    · rw [if_neg fun both => its both.1, if_neg fun both => its both.1]

end SameStream

end Converter

namespace Session

theorem added_answer (stream : Stream) (step : Step) (session : Session) :
    (session.answer step).1.added stream =
      ((session.step step).2.converter.sink stream).bytes.drop
        (session.converter.sink stream).bytes.length := by
  rw [answer_fst_eq]
  cases stream <;> rfl

/-- If the stream is the same in both sessions, the answers to a line tell the same of it. -/
theorem view_answer_line_eq {stream : Stream} {left right : Session}
    (same : Converter.SameStream stream left.converter right.converter) (line : String) :
    (left.answer (.line line)).1.view stream line =
      (right.answer (.line line)).1.view stream line := by
  have after := same.convertLine line
  have result : (if Converter.destination line = stream then
        some (left.answer (.line line)).1.result else none) =
      if Converter.destination line = stream then
        some (right.answer (.line line)).1.result else none := by
    split
    next its =>
      rw [answer_fst_eq, answer_fst_eq, step_line, step_line, same.result_convertLine_eq its]
    next => rfl
  rw [Answer.view, Answer.view, result, added_answer, added_answer, same.sink, answer_fst_eq,
    answer_fst_eq, step_line, step_line, after.sink, after.lines, after.written]

theorem views_run_lines_eq {stream : Stream} (lines : List String) {left right : Session}
    (same : Converter.SameStream stream left.converter right.converter) :
    List.zipWith (Answer.view stream) lines (left.run (lines.map .line)).1 =
      List.zipWith (Answer.view stream) lines (right.run (lines.map .line)).1 := by
  induction lines generalizing left right with
  | nil => rfl
  | cons line lines ih =>
      have after : Converter.SameStream stream (left.step (.line line)).2.converter
          (right.step (.line line)).2.converter := by
        simpa only [step_line] using same.convertLine line
      rw [List.map_cons, run_cons_fst, run_cons_fst, List.zipWith_cons_cons,
        List.zipWith_cons_cons, view_answer_line_eq same line, ih after]

/-- Each of the lines is answered. The answers tell the same of the table whatever the sink of the
diagnostics is and in whichever style these are set, and the same of the diagnostics whatever the
sink of the table is. -/
theorem views_run_lines (lines : List String) (session : Session) :
    let answers (session : Session) := (session.run (lines.map .line)).1
    let views (stream : Stream) (session : Session) :=
      List.zipWith (Answer.view stream) lines (answers session)
    (answers session).length = lines.length ∧
      (∀ diagnostics style,
        let other := { session with converter := { session.converter with diagnostics, style } }
        views .table other = views .table session) ∧
      ∀ table,
        let other := { session with converter := { session.converter with table } }
        views .diagnostics other = views .diagnostics session := by
  intro answers views
  refine ⟨?_, ?_, ?_⟩
  · rw [length_run, List.length_map]
  · intro diagnostics style
    exact views_run_lines_eq lines ⟨rfl, Stream.noConfusion, rfl, rfl⟩
  · intro table
    exact views_run_lines_eq lines ⟨rfl, fun _ => rfl, rfl, rfl⟩

end Session

end ExpectationTable
