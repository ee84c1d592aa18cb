import ExpectationTable.Proofs.Converter.Recovery
import ExpectationTable.Proofs.Session.Contents
import ExpectationTable.Proofs.Session.Simulation
import ExpectationTable.Proofs.Sink.Limited

/-!
# A session with a limit beside one without

Of two sessions that take the same steps, one has a sink that is limited for ever. The two do the
same as long as there is room in that sink. The line that does not fit any more fills it up, and an
error ends the step there, while the other session may go on. From then on they take up different
lines, but the limited sink is full and keeps the beginning of what the other session has in the
sink of the same stream.
-/

namespace ExpectationTable

namespace Converter

variable {stream : Stream} {limit : Limit} {limited free : Converter}

/-- The converters have done the same so far. The sink of the stream is limited in the one only, and
the other sinks are the same. -/
abbrev InStep (stream : Stream) (limit : Limit) : Converter → Converter → Prop :=
  Sinkwise fun each limited free =>
    if each = stream then limited.InStep limit free else limited = free

/-- The sink of the stream is cut off in the limited converter. -/
def Cut (stream : Stream) (limit : Limit) (limited free : Converter) : Prop :=
  (limited.sink stream).Cut limit (free.sink stream)

/-- A line is the same to both converters, or is an error of the limited one and cuts its sink
off. -/
theorem InStep.convertLine (inStep : InStep stream limit limited free) (line : String) :
    ((limited.convertLine line).1 = (free.convertLine line).1 ∧
        InStep stream limit (limited.convertLine line).2 (free.convertLine line).2) ∨
      (∃ error, (limited.convertLine line).1 = .error error) ∧
        Cut stream limit (limited.convertLine line).2 (free.convertLine line).2 := by
  have sinks := inStep.sinks (destination line)
  by_cases its : destination line = stream
  · rw [if_pos its] at sinks
    cases sinks.writeFragments (pieces limited.style line) with
    | inl written =>
        left
        apply Sinkwise.convertLine inStep written.1
        rw [if_pos its]
        exact written.2
    | inr cut =>
        right
        constructor
        · refine ⟨.write (destination line) limit.refusal.failure, ?_⟩
          rw [result_convertLine, cut.1]
        · rw [Cut, ← its, sink_convertLine_destination, sink_convertLine_destination,
            ← inStep.style]
          exact cut.2
  · rw [if_neg its] at sinks
    left
    apply Sinkwise.convertLine inStep
    · rw [sinks]
    · rw [if_neg its, sinks]

theorem InStep.finish (inStep : InStep stream limit limited free) :
    limited.finish.1 = free.finish.1 ∧ InStep stream limit limited.finish.2 free.finish.2 := by
  apply Sinkwise.finish inStep
  · intro each sink other sinks
    split at sinks
    next => exact sinks.flushesLike
    next => exact sinks ▸ ⟨rfl, rfl⟩
  · intro each sink other sinks
    split at sinks
    next its =>
      rw [if_pos its]
      exact sinks.flush
    next different => rw [if_neg different, sinks]

/-- A sink that is cut off takes nothing of a line. -/
theorem Cut.convertLine_left (cut : Cut stream limit limited free) (line : String) :
    Cut stream limit (limited.convertLine line).2 free := by
  by_cases its : stream = destination line
  · subst its
    rw [Cut, sink_convertLine_destination, cut.capped.writeFragments_of_full cut.full]
    exact cut
  · rw [Cut, sink_convertLine_of_ne _ its]
    exact cut

theorem Cut.finish_left (cut : Cut stream limit limited free) :
    Cut stream limit limited.finish.2 free := by
  rw [Cut, sink_finish]
  split
  next => exact cut.flush
  next => exact cut

theorem Cut.of_takesUp {after : Converter} {handled : List Handling}
    (cut : Cut stream limit limited free) (taken : free.TakesUp handled after) :
    Cut stream limit limited after :=
  ⟨cut.capped, cut.full, cut.beginning.trans (taken.bytes_beginning stream)⟩

/-- The converters do the same until a line does not fit any more, which cuts the sink off for
good. -/
theorem isSimulationUntil_cut (stream : Stream) (limit : Limit) :
    IsSimulationUntil (Cut stream limit) (InStep stream limit) where
  lines inStep := congrArg Summary.lines inStep.summary
  line text inStep := inStep.convertLine text
  finish := InStep.finish
  left_line text cut := cut.convertLine_left text
  left_finish := Cut.finish_left
  right_line text cut := cut.of_takesUp (lineStep _ text).takesUp
  right_finish cut := cut.of_takesUp (TakesUp.isCumulative.finish _)

end Converter

namespace Session

variable {stream : Stream} {limit : Limit} {limited free : Session}

/-- In step or cut off, the limited sink holds as much of what the other session has written as it
has room for. -/
theorem bytes_eq_take
    (compared : limited.Related (Converter.InStep stream limit) free ∨
      Converter.Cut stream limit limited.converter free.converter) :
    (limited.converter.sink stream).bytes =
      (free.converter.sink stream).bytes.take limit.capacity := by
  cases compared with
  | inl inStep =>
      have sinks := inStep.converter.sinks stream
      rw [if_pos rfl] at sinks
      exact sinks.bytes_eq_take
  | inr cut => exact Sink.Cut.bytes_eq_take cut

/-- The session with the limit on the sink of the stream. -/
def limitedTo (stream : Stream) (limit : Limit) (session : Session) : Session :=
  { session with
    converter := session.converter.withSink stream
      { session.converter.sink stream with limit := some limit } }

theorem related_limitedTo {session : Session} (reliable : session.converter.Reliable)
    (unused : session.converter.Unused) (permanent : limit.recurrence = .always) :
    (session.limitedTo stream limit).Related (Converter.InStep stream limit) session := by
  have empty : (session.converter.sink stream).bytes = [] := by
    cases stream with
    | table => exact unused.table
    | diagnostics => exact unused.diagnostics
  have size : (session.converter.sink stream).size = 0 := by
    rw [← Sink.length_bytes, empty, List.length_nil]
  refine ⟨⟨?_, ?_, ?_⟩, rfl⟩
  · intro each
    split
    next its =>
      rw [its, limitedTo, Converter.sink_withSink]
      refine ⟨⟨rfl, permanent, ?_⟩, reliable.sink stream, rfl, rfl, rfl⟩
      exact Nat.le_trans (Nat.le_of_eq size) (Nat.zero_le _)
    next different => exact Converter.sink_withSink_of_ne _ _ different
  · exact Converter.style_withSink _ _ _
  · exact Converter.summary_withSink _ _ _

/-- The entries that a session which has not begun has counted are the line feeds of its table. -/
theorem matched_run (steps : List Step) {session : Session} (unused : session.converter.Unused) :
    (session.run steps).2.converter.summary.matched =
      (session.run steps).2.converter.table.bytes.count Bytes.lineFeed := by
  rcases session.takesUp_run steps with ⟨table, diagnostics, leave, tableAdded, _⟩
  have counted := (run_of_isCumulative Converter.CountsUp.isCumulative steps session).matched
  rw [unused.summary, Nat.zero_add] at counted
  rw [unused.table, List.nil_append] at tableAdded
  rw [counted, tableAdded, leave.count_table]

/-- Of two sessions that take the same steps and have no other faults, one has a sink that is
limited for ever. That sink holds the first bytes of what the other session has written to the sink
of the same stream, as many as the limit allows or all of them if they are fewer, although after a
line that did not fit the sessions need not take up the same lines. If it is the table that is
limited, the entries that were counted are those of the other session that lie wholly within these
bytes. -/
theorem run_limitedTo (stream : Stream) (permanent : limit.recurrence = .always)
    (steps : List Step) {session : Session} (reliable : session.converter.Reliable)
    (unused : session.converter.Unused) :
    let free := (session.run steps).2.converter
    let limited := ((session.limitedTo stream limit).run steps).2.converter
    let entries := (Converter.entered (session.history steps)).map fun expectation =>
      Utf8.encode expectation.entryLine
    (limited.sink stream).bytes = (free.sink stream).bytes.take limit.capacity ∧
      free.table.bytes = entries.flatten ∧
      (stream = .table → limited.summary.matched = Bytes.countWithin limit.capacity entries) := by
  intro free limited entries
  have bytes := bytes_eq_take ((Converter.isSimulationUntil_cut stream limit).run steps
    (.inl (related_limitedTo reliable unused permanent)))
  have records := run_of_isCumulative Converter.Records.isCumulative steps session reliable
  have table : free.table.bytes = entries.flatten := by
    rw [records.table, unused.table, List.nil_append, List.flatMap_def]
    rfl
  refine ⟨bytes, table, ?_⟩
  intro its
  subst its
  have whole : ∀ piece ∈ entries, Bytes.IsWholeLine piece := by
    intro piece member
    rcases List.mem_map.mp member with ⟨expectation, inside, rfl⟩
    exact (Converter.wellFormed_of_mem_entered inside).isWholeLine_entryLine
  have limitedUnused : (session.limitedTo .table limit).converter.Unused :=
    ⟨unused.table, unused.diagnostics, unused.summary⟩
  calc
    limited.summary.matched = limited.table.bytes.count Bytes.lineFeed :=
      matched_run steps limitedUnused
    _ = (free.table.bytes.take limit.capacity).count Bytes.lineFeed := congrArg _ bytes
    _ = (entries.flatten.take limit.capacity).count Bytes.lineFeed := by rw [table]
    _ = Bytes.countWithin limit.capacity entries := Bytes.count_lineFeed_take_flatten whole _

set_option maxRecDepth 4000 in
/-- The table has room for one entry and a part of the next. The line after that is never taken up
by the limited session, and the last entry finds no room. -/
theorem run_limitedTo_skipped_line :
    let limit : Limit :=
      { capacity := 50
        refusal := .takingNothing
        recurrence := .always
        interruptions_end := by decide }
    let session : Session :=
      { converter := { table := {}, diagnostics := {}, style := .plain } }
    let steps : List Step :=
      [.line "'' (a) as B:", .convert [.bytes (Utf8.encode "'' (a) as B:\nx\n")],
        .convert [.bytes (Utf8.encode "'' (c) as D:\n")]]
    let free := (session.run steps).2.converter
    let limited := ((session.limitedTo .table limit).run steps).2.converter
    limited.table.bytes = free.table.bytes.take 50 ∧
      limited.summary.matched = 1 ∧ free.summary.matched = 3 ∧
      limited.summary.lines = 3 ∧ free.summary.lines = 4 := by
  intro limit session steps free limited
  have unused : session.converter.Unused := ⟨rfl, rfl, rfl⟩
  rcases run_limitedTo .table (show limit.recurrence = .always from rfl) steps
    Converter.fresh_default.toReliable unused with ⟨bytes, _, matched⟩
  refine ⟨bytes, (matched rfl).trans ?_, ?_, ?_, ?_⟩
  · decide +kernel
  · decide +kernel
  · decide +kernel
  · decide +kernel

end Session

end ExpectationTable
