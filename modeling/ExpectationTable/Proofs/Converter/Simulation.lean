import ExpectationTable.Proofs.Converter.Destination

/-!
# Comparing two converters

Two converters that are given the same are compared by a relation between them. If related
converters make the same of every line and of finishing, and are related after it, then they make
the same of every input: the lines that they take up, and where they stop reading, are the same. The
comparison may also come to an end: at a line that is an error of the one converter the two may
part, and after that they need not even take up the same lines.
-/

namespace ExpectationTable

namespace Converter

/-- Finishing flushes the sink of the stream, unless it fails before. -/
theorem sink_finish (converter : Converter) (stream : Stream) :
    converter.finish.2.sink stream =
      if stream = .table ∨ converter.table.flush.1.isOk then (converter.sink stream).flush.2
      else converter.sink stream := by
  rcases converter with ⟨table, diagnostics, style, summary⟩
  rcases flushed : table.flush with ⟨failure | _, after⟩
  · cases stream <;> simp [finish, flushed, sink, Except.isOk, Except.toBool]
  · rcases flushedThen : diagnostics.flush with ⟨failure | _, afterThen⟩ <;>
      cases stream <;> simp [finish, flushed, flushedThen, sink, Except.isOk, Except.toBool]

/-- The sinks of the two converters are related, and all else of them is the same. -/
structure Sinkwise (related : Stream → Sink → Sink → Prop) (left right : Converter) : Prop where
  sinks (stream : Stream) : related stream (left.sink stream) (right.sink stream)
  style : left.style = right.style
  summary : left.summary = right.summary

namespace Sinkwise

variable {related : Stream → Sink → Sink → Prop} {left right : Converter}

/-- A line is the same to both converters if the writing of its pieces is the same to the sinks of
its stream. -/
theorem convertLine (alike : left.Sinkwise related right) {line : String}
    (result : ((left.sink (destination line)).writeFragments (pieces left.style line)).1 =
      ((right.sink (destination line)).writeFragments (pieces left.style line)).1)
    (after : related (destination line)
      ((left.sink (destination line)).writeFragments (pieces left.style line)).2
      ((right.sink (destination line)).writeFragments (pieces left.style line)).2) :
    (left.convertLine line).1 = (right.convertLine line).1 ∧
      (left.convertLine line).2.Sinkwise related (right.convertLine line).2 := by
  have same : (left.convertLine line).1 = (right.convertLine line).1 := by
    rw [result_convertLine, result_convertLine, ← alike.style, result]
  refine ⟨same, ?_, ?_, ?_⟩
  · intro stream
    by_cases its : stream = destination line
    · rw [its, sink_convertLine_destination, sink_convertLine_destination, ← alike.style]
      exact after
    · rw [sink_convertLine_of_ne _ its, sink_convertLine_of_ne _ its]
      exact alike.sinks stream
  · rw [style_convertLine, style_convertLine, alike.style]
  · rw [summary_convertLine, summary_convertLine, same, alike.summary]

/-- Finishing is the same to both converters if flushing is the same to related sinks. -/
theorem finish (alike : left.Sinkwise related right)
    (flushesLike : ∀ {stream sink other}, related stream sink other → sink.FlushesLike other)
    (flush : ∀ {stream sink other},
      related stream sink other → related stream sink.flush.2 other.flush.2) :
    left.finish.1 = right.finish.1 ∧ left.finish.2.Sinkwise related right.finish.2 := by
  have table : left.table.flush.1 = right.table.flush.1 :=
    (flushesLike (alike.sinks .table)).flush.1
  have diagnostics : left.diagnostics.flush.1 = right.diagnostics.flush.1 :=
    (flushesLike (alike.sinks .diagnostics)).flush.1
  refine ⟨?_, ?_, ?_, ?_⟩
  · rw [left.finish_flushes.1, right.finish_flushes.1, table, diagnostics, alike.summary]
  · intro stream
    rw [sink_finish, sink_finish, table]
    split
    next => exact flush (alike.sinks stream)
    next => exact alike.sinks stream
  · rw [left.finish_keeps.2.2.1, right.finish_keeps.2.2.1, alike.style]
  · rw [left.finish_keeps.2.2.2, right.finish_keeps.2.2.2, alike.summary]

end Sinkwise

/-- Related converters make the same of every line and are related after it, or the line is an error
of the left one and they part. They make the same of finishing. To tell the number of a line that
cannot be read they have to agree on how many came before. Converters that have parted stay so,
whatever either of them does. -/
structure IsSimulationUntil (parted related : Converter → Converter → Prop) : Prop where
  lines {left right : Converter} :
    related left right → left.summary.lines = right.summary.lines
  line {left right : Converter} (text : String) : related left right →
    ((left.convertLine text).1 = (right.convertLine text).1 ∧
        related (left.convertLine text).2 (right.convertLine text).2) ∨
      (∃ error, (left.convertLine text).1 = .error error) ∧
        parted (left.convertLine text).2 (right.convertLine text).2
  finish {left right : Converter} : related left right →
    left.finish.1 = right.finish.1 ∧ related left.finish.2 right.finish.2
  left_line {left right : Converter} (text : String) :
    parted left right → parted (left.convertLine text).2 right
  left_finish {left right : Converter} : parted left right → parted left.finish.2 right
  right_line {left right : Converter} (text : String) :
    parted left right → parted left (right.convertLine text).2
  right_finish {left right : Converter} : parted left right → parted left right.finish.2

namespace IsSimulationUntil

variable {parted related : Converter → Converter → Prop}
  (simulation : IsSimulationUntil parted related)

include simulation

theorem left_isCumulative (right : Converter) :
    IsCumulative fun before _ after => parted before right → parted after right :=
  .of_invariant simulation.left_line simulation.left_finish

theorem right_isCumulative (left : Converter) :
    IsCumulative fun before _ after => parted left before → parted left after :=
  .of_invariant simulation.right_line simulation.right_finish

/-- Related converters make the same of every input, take up the same lines of it and leave the
same, or they part. -/
theorem convert {left right : Converter} (alike : related left right) (source : Source) :
    ((left.convert source).result = (right.convert source).result ∧
        related (left.convert source).converter (right.convert source).converter ∧
        (left.convert source).unread = (right.convert source).unread ∧
        left.handlings source = right.handlings source) ∨
      parted (left.convert source).converter (right.convert source).converter := by
  have run := left.runs source
  generalize left.handlings source = handled at run
  generalize left.convert source = conversion at run ⊢
  induction run generalizing right with
  | @line _ _ left next text outcome _ _ read taken more ih =>
      have step := simulation.line text alike
      rcases otherTaken : right.convertLine text with ⟨result, otherNext⟩
      rw [taken, otherTaken] at step
      rcases step with ⟨same, after⟩ | ⟨⟨error, failed⟩, _⟩
      · obtain rfl : .ok outcome = result := same
        rw [convert_of_readLine_eq_line right read, handlings_of_readLine_eq_line right read,
          otherTaken]
        apply (ih after).imp_left
        rintro ⟨result, after, unread, lines⟩
        exact ⟨result, after, unread, congrArg (_ :: ·) lines⟩
      · cases failed
  | @unwritten _ rest left next text error read taken =>
      have step := simulation.line text alike
      rcases otherTaken : right.convertLine text with ⟨result, otherNext⟩
      rw [taken, otherTaken] at step
      rw [convert_of_readLine_eq_line right read, handlings_of_readLine_eq_line right read,
        otherTaken]
      rcases step with ⟨same, after⟩ | ⟨_, apart⟩
      · obtain rfl : .error error = result := same
        exact .inl ⟨rfl, after, rfl, rfl⟩
      · right
        -- The right converter may have failed as well, though for a reason of its own.
        cases result with
        | error error => exact apart
        | ok outcome =>
            exact (otherNext.runs rest).of_isCumulative (simulation.right_isCumulative next) apart
  | unread read =>
      rw [convert_of_readLine_eq_failed right read, handlings_of_readLine_eq_failed right read,
        simulation.lines alike]
      exact .inl ⟨rfl, alike, rfl, rfl⟩
  | ended read =>
      rw [convert_of_readLine_eq_endOfInput right read,
        handlings_of_readLine_eq_endOfInput right read]
      rcases simulation.finish alike with ⟨result, after⟩
      exact .inl ⟨result, after, rfl, rfl⟩

end IsSimulationUntil

/-- Related converters make the same of every line and of finishing, and never part. -/
abbrev IsSimulation (related : Converter → Converter → Prop) : Prop :=
  IsSimulationUntil (fun _ _ => False) related

namespace IsSimulation

variable {related : Converter → Converter → Prop}

/-- For converters that never part, lines and finishing are all there is to show. -/
theorem of_same
    (lines : ∀ {left right : Converter},
      related left right → left.summary.lines = right.summary.lines)
    (line : ∀ {left right : Converter} (text : String), related left right →
      (left.convertLine text).1 = (right.convertLine text).1 ∧
        related (left.convertLine text).2 (right.convertLine text).2)
    (finish : ∀ {left right : Converter}, related left right →
      left.finish.1 = right.finish.1 ∧ related left.finish.2 right.finish.2) :
    IsSimulation related where
  lines := lines
  line text alike := .inl (line text alike)
  finish := finish
  left_line _ := id
  left_finish := id
  right_line _ := id
  right_finish := id

theorem convert (simulation : IsSimulation related) {left right : Converter}
    (alike : related left right) (source : Source) :
    (left.convert source).result = (right.convert source).result ∧
      related (left.convert source).converter (right.convert source).converter ∧
      (left.convert source).unread = (right.convert source).unread ∧
      left.handlings source = right.handlings source :=
  (IsSimulationUntil.convert simulation alike source).resolve_right id

end IsSimulation

end Converter

end ExpectationTable
