import ExpectationTable.Proofs.Converter.Chunking
import ExpectationTable.Proofs.Converter.Simulation
import ExpectationTable.Proofs.Sink.Flushing
import ExpectationTable.Proofs.Text.WholeLines
import Mathlib.Control.Monad.Basic

/-!
# Inputs one after the other

An input that ends a line can be converted apart from what comes after it. If its conversion
succeeds, the converter goes on with the next input as if both were one, since all that was done in
between is to flush. If it fails, the conversion of both as one fails at the same line.
-/

namespace ExpectationTable.Converter

/-- The two converters differ in nothing but in how often their sinks were flushed, and nothing
keeps these from flushing. -/
abbrev UpToFlushes : Converter → Converter → Prop :=
  Sinkwise fun _ => Sink.UpToFlushes

/-- No fault keeps the sinks from flushing. -/
def Flushable (converter : Converter) : Prop :=
  ∀ stream, (converter.sink stream).Flushable

namespace Flushable

variable {converter : Converter}

theorem finish_eq (flushable : converter.Flushable) :
    converter.finish.1 = .ok converter.summary := by
  have table : converter.table.flush.1 = .ok () := (flushable .table).flush_ok
  have diagnostics : converter.diagnostics.flush.1 = .ok () := (flushable .diagnostics).flush_ok
  rw [converter.finish_flushes.1, table, diagnostics]

theorem upToFlushes_finish (flushable : converter.Flushable) :
    UpToFlushes converter.finish.2 converter := by
  refine ⟨?_, converter.finish_keeps.2.2.1, converter.finish_keeps.2.2.2⟩
  intro stream
  rw [sink_finish]
  split
  next => exact .of_flush (flushable stream)
  next => exact ⟨⟨rfl, rfl⟩, flushable stream, flushable stream⟩

theorem replay (flushable : converter.Flushable) (lines : List String) :
    (converter.replay lines).Flushable := by
  intro stream
  exact (flushable stream).of_flushesLike (flushesLike_replay lines converter stream)

end Flushable

/-- Flushes do not matter to any line, nor to finishing. -/
theorem isSimulation_upToFlushes : IsSimulation UpToFlushes := by
  apply IsSimulation.of_same
  · intro left right alike
    exact congrArg Summary.lines alike.summary
  · intro left right text alike
    have written := (alike.sinks (destination text)).writeFragments (pieces left.style text)
    exact alike.convertLine written.1 written.2
  · intro left right alike
    have flushable : left.Flushable := fun stream => (alike.sinks stream).flushable
    have otherFlushable : right.Flushable := fun stream => (alike.sinks stream).otherFlushable
    refine ⟨?_, ?_, ?_, ?_⟩
    · rw [flushable.finish_eq, otherFlushable.finish_eq, alike.summary]
    · intro stream
      have table : left.table.flush.1 = .ok () := (flushable .table).flush_ok
      have otherTable : right.table.flush.1 = .ok () := (otherFlushable .table).flush_ok
      rw [sink_finish, sink_finish, table, otherTable, if_pos (.inr rfl), if_pos (.inr rfl)]
      exact (alike.sinks stream).flush
    · rw [left.finish_keeps.2.2.1, right.finish_keeps.2.2.1, alike.style]
    · rw [left.finish_keeps.2.2.2, right.finish_keeps.2.2.2, alike.summary]

/-- A run over a steady source goes the same way if more is delivered after its deliveries. It fails
in the same state, or where it would finish it goes on with what is delivered later. -/
theorem Runs.convert_of_deliveries_append {source : Source} {converter : Converter}
    {handled : List Handling} {conversion : Conversion}
    (run : Runs source converter handled conversion) (steady : source.Steady) {other : Source}
    {later : List Delivery}
    (same : other.deliveries = source.deliveries ++ later) :
    let last := converter.replay (handled.map Handling.line)
    (∃ error, conversion.result = .error error ∧
        (converter.convert other).result = .error error ∧
        (converter.convert other).converter = conversion.converter) ∨
      conversion.result = last.finish.1 ∧ conversion.converter = last.finish.2 ∧
        ∃ rest, rest.deliveries = later ∧ converter.convert other = last.convert rest := by
  induction run generalizing other with
  | line read taken more ih =>
      rcases Source.exists_readLine_of_deliveries_append same read Reading.noConfusion with
        ⟨after, otherRead, others⟩
      rw [List.map_cons, replay_cons, convert_of_readLine_eq_line _ otherRead, taken]
      exact ih (steady.of_readLine read) others
  | unwritten read taken =>
      rcases Source.exists_readLine_of_deliveries_append same read Reading.noConfusion with
        ⟨after, otherRead, others⟩
      left
      rw [convert_of_readLine_eq_line _ otherRead, taken]
      exact ⟨_, rfl, rfl, rfl⟩
  | unread read =>
      rcases Source.exists_readLine_of_deliveries_append same read Reading.noConfusion with
        ⟨after, otherRead, others⟩
      left
      rw [convert_of_readLine_eq_failed _ otherRead]
      exact ⟨_, rfl, rfl, rfl⟩
  | ended read =>
      right
      refine ⟨rfl, rfl, other, ?_, rfl⟩
      rcases Source.deliveries_of_readLine_eq_endOfInput read with first | ⟨nothing, _⟩
      · rw [steady.deliveries_eq] at first
        rcases List.map_eq_cons_iff.mp first with ⟨_, _, _, line, _⟩
        cases line
      · rw [same, nothing, List.nil_append]

/-- Two inputs that come one after the other, of which the first is empty or ends in a line feed,
are converted like the input that is made of both. If the first conversion succeeds, the second has
the result of the one, and the sinks and the counts are the same then. If it fails, so does the one,
with the same error and in the same state. All this holds as long as no fault keeps the sinks from
flushing. -/
theorem convert_append {first second joined : Source} (firstSteady : first.Steady)
    (secondSteady : second.Steady) (joinedSteady : joined.Steady)
    (ends : first.bytes.endsLine = true) (joins : joined.bytes = first.bytes ++ second.bytes)
    {converter : Converter} (flushable : converter.Flushable) :
    let before := converter.convert first
    let after := before.converter.convert second
    let whole := converter.convert joined
    (∀ summary, before.result = .ok summary →
        after.result = whole.result ∧
        after.converter.table.bytes = whole.converter.table.bytes ∧
        after.converter.diagnostics.bytes = whole.converter.diagnostics.bytes ∧
        after.converter.summary = whole.converter.summary) ∧
      ∀ error, before.result = .error error →
        whole.result = .error error ∧
        whole.converter.table.bytes = before.converter.table.bytes ∧
        whole.converter.diagnostics.bytes = before.converter.diagnostics.bytes ∧
        whole.converter.summary = before.converter.summary := by
  intro before after whole
  have same : joined.deliveries = first.deliveries ++ second.deliveries := by
    rw [joinedSteady.deliveries_eq, firstSteady.deliveries_eq, secondSteady.deliveries_eq, joins,
      Bytes.lines_append ends, List.map_append]
  have run := (converter.runs first).convert_of_deliveries_append firstSteady same
  have lastFlushable := flushable.replay ((converter.handlings first).map Handling.line)
  generalize converter.replay ((converter.handlings first).map Handling.line) = last
    at run lastFlushable
  rcases run with ⟨failure, failed, wholeFailed, state⟩ | ⟨result, state, rest, delivered, goesOn⟩
  · constructor
    · intro summary succeeded
      cases failed.symm.trans succeeded
    · intro error itsError
      cases failed.symm.trans itsError
      exact ⟨wholeFailed, congrArg (·.table.bytes) state, congrArg (·.diagnostics.bytes) state,
        congrArg summary state⟩
  · rw [lastFlushable.finish_eq] at result
    constructor
    · intro summary _
      -- Between the two inputs the converter has only flushed.
      have alike := isSimulation_upToFlushes.convert lastFlushable.upToFlushes_finish second
      have resumed := (last.runs second).convert_eq delivered
      rw [← state] at alike
      rw [← goesOn] at resumed
      rcases alike with ⟨sameResult, related, _⟩
      rcases resumed with ⟨wholeResult, wholeState, _⟩
      rw [← wholeState] at related
      exact ⟨sameResult.trans wholeResult.symm, (related.sinks .table).writesLike.bytes_eq,
        (related.sinks .diagnostics).writesLike.bytes_eq, related.summary⟩
    · intro error failed
      cases failed.symm.trans result

/-- The table refuses a part of the entry in the second input, which is the fourth line of both. It
does so as well if both are one input, whose only chunk boundary is within the last line of the
first. -/
theorem convert_append_up_to_refusal :
    let limit : Limit :=
      { capacity := 50
        refusal := .failing .brokenPipe
        recurrence := .times 1
        interruptions_end := by decide }
    let converter : Converter :=
      { table := { limit := some limit }, diagnostics := {}, style := .plain }
    let first : Source := [.bytes (Utf8.encode "x\n'' (a) as B:\n\n")]
    let second : Source := [.bytes (Utf8.encode "'' (c) as D:\ny")]
    let joined : Source :=
      [.bytes (Utf8.encode "x\n'' (a)"), .bytes (Utf8.encode " as B:\n\n'' (c) as D:\ny")]
    let before := converter.convert first
    let after := before.converter.convert second
    let whole := converter.convert joined
    first.Steady ∧ second.Steady ∧ joined.Steady ∧
      before.result = .ok { lines := 3, matched := 1, unmatched := 2 } ∧
      after.result = .error (.write .table .brokenPipe) ∧
      whole.result = .error (.write .table .brokenPipe) ∧
      after.converter.summary = { lines := 4, matched := 1, unmatched := 2 } ∧
      after.converter.table.bytes = whole.converter.table.bytes := by
  intro limit converter first second joined before after whole
  have firstSteady : first.Steady := by decide
  have secondSteady : second.Steady := by decide
  have joinedSteady : joined.Steady := by decide
  have flushable : converter.Flushable := by
    intro stream
    cases stream <;> exact fun _ => nofun
  have succeeded : before.result = .ok { lines := 3, matched := 1, unmatched := 2 } := by
    decide +kernel
  have refused : whole.result = .error (.write .table .brokenPipe) := by decide +kernel
  have counted : whole.converter.summary = { lines := 4, matched := 1, unmatched := 2 } := by
    decide +kernel
  rcases (convert_append firstSteady secondSteady joinedSteady (by decide) (by decide)
    flushable).1 _ succeeded with ⟨result, table, _, summary⟩
  exact ⟨firstSteady, secondSteady, joinedSteady, succeeded, result.trans refused, refused,
    summary.trans counted, table⟩

end ExpectationTable.Converter
