import ExpectationTable.Proofs.Converter.Run

/-!
# Where a line goes

An expectation is written to the table, any other line to the diagnostics. Apart from that, the two
are treated alike: the pieces of the line are written to the sink of the stream, a line that was
written is counted for the stream, and one that was not is the stream's error.
-/

namespace ExpectationTable

def Stream.outcome : Stream → Outcome
  | .table => .converted
  | .diagnostics => .unmatched

def Summary.addWritten : Stream → Summary → Summary
  | .table => addMatched
  | .diagnostics => addUnmatched

namespace Converter

def sink : Stream → Converter → Sink
  | .table => table
  | .diagnostics => diagnostics

def withSink (stream : Stream) (sink : Sink) (converter : Converter) : Converter :=
  match stream with
  | .table => { converter with table := sink }
  | .diagnostics => { converter with diagnostics := sink }

def withSummary (summary : Summary) (converter : Converter) : Converter :=
  { converter with summary }

section Sinks

variable (stream : Stream) (sink : Sink) (summary : Summary) (converter : Converter)

@[simp] theorem sink_withSink : (converter.withSink stream sink).sink stream = sink := by
  cases stream <;> rfl

theorem sink_withSink_of_ne {stream other : Stream} (different : other ≠ stream) :
    (converter.withSink stream sink).sink other = converter.sink other := by
  cases stream with
  | table =>
      cases other with
      | table => contradiction
      | diagnostics => rfl
  | diagnostics =>
      cases other with
      | table => rfl
      | diagnostics => contradiction

@[simp] theorem style_withSink : (converter.withSink stream sink).style = converter.style := by
  cases stream <;> rfl

@[simp] theorem summary_withSink :
    (converter.withSink stream sink).summary = converter.summary := by
  cases stream <;> rfl

@[simp] theorem sink_withSummary :
    (converter.withSummary summary).sink stream = converter.sink stream := by
  cases stream <;> rfl

@[simp] theorem style_withSummary : (converter.withSummary summary).style = converter.style := rfl

@[simp] theorem summary_withSummary : (converter.withSummary summary).summary = summary := rfl

end Sinks

/-- The stream that the line is written to. -/
def destination (line : String) : Stream :=
  if (Expectation.parse? line).isSome then .table else .diagnostics

/-- The pieces that are written for the line. -/
def pieces (style : Diagnostic.Style) (line : String) : List String :=
  match Expectation.parse? line with
  | some expectation => expectation.entryLineFragments
  | none => Diagnostic.fragments style (Text.trimLineEnding line)

/-- Each line is written to its stream, whichever that is. -/
theorem convertLine_eq (line : String) (converter : Converter) :
    converter.convertLine line =
      match (converter.sink (destination line)).writeFragments (pieces converter.style line) with
      | (.ok (), sink) =>
          (.ok (destination line).outcome,
            (converter.withSink (destination line) sink).withSummary
              (converter.summary.addLine.addWritten (destination line)))
      | (.error failure, sink) =>
          (.error (.write (destination line) failure),
            (converter.withSink (destination line) sink).withSummary
              converter.summary.addLine) := by
  rcases converter with ⟨table, diagnostics, style, summary⟩
  cases read : Expectation.parse? line with
  | some expectation =>
      have toTable : destination line = .table := by simp [destination, read]
      have entry : pieces style line = expectation.entryLineFragments := by simp [pieces, read]
      rw [toTable, entry]
      simp only [convertLine, read]
      rfl
  | none =>
      have toDiagnostics : destination line = .diagnostics := by simp [destination, read]
      have diagnostic : pieces style line =
          Diagnostic.fragments style (Text.trimLineEnding line) := by
        simp [pieces, read]
      rw [toDiagnostics, diagnostic]
      simp only [convertLine, read]
      rfl

theorem TakesUp.bytes_beginning {before after : Converter} {handled : List Handling}
    (taken : before.TakesUp handled after) (stream : Stream) :
    (before.sink stream).bytes <+: (after.sink stream).bytes := by
  rcases taken with ⟨table, diagnostics, _, tableAdded, diagnosticsAdded, _⟩
  cases stream with
  | table => exact ⟨table, tableAdded.symm⟩
  | diagnostics => exact ⟨diagnostics, diagnosticsAdded.symm⟩

section Line

variable (line : String) (converter : Converter)

theorem result_convertLine :
    (converter.convertLine line).1 =
      match ((converter.sink (destination line)).writeFragments
        (pieces converter.style line)).1 with
      | .ok () => .ok (destination line).outcome
      | .error failure => .error (.write (destination line) failure) := by
  rw [convertLine_eq]
  split <;> simp_all

@[simp] theorem sink_convertLine_destination :
    (converter.convertLine line).2.sink (destination line) =
      ((converter.sink (destination line)).writeFragments (pieces converter.style line)).2 := by
  rw [convertLine_eq]
  split <;> simp_all

theorem sink_convertLine_of_ne {line : String} {stream : Stream}
    (different : stream ≠ destination line) :
    (converter.convertLine line).2.sink stream = converter.sink stream := by
  rw [convertLine_eq]
  split <;> rw [sink_withSummary, sink_withSink_of_ne _ _ different]

@[simp] theorem style_convertLine : (converter.convertLine line).2.style = converter.style := by
  rw [convertLine_eq]
  split <;> simp

theorem flushesLike_convertLine (stream : Stream) :
    ((converter.convertLine line).2.sink stream).FlushesLike (converter.sink stream) := by
  have step := (converter.lineStep line).flushesLike
  cases stream with
  | table => exact step.1
  | diagnostics => exact step.2

/-- A line is counted, and counted for its stream if it was written. -/
theorem summary_convertLine :
    (converter.convertLine line).2.summary =
      match (converter.convertLine line).1 with
      | .ok _ => converter.summary.addLine.addWritten (destination line)
      | .error _ => converter.summary.addLine := by
  rw [convertLine_eq]
  split <;> simp

end Line

theorem flushesLike_replay (lines : List String) (converter : Converter) (stream : Stream) :
    ((converter.replay lines).sink stream).FlushesLike (converter.sink stream) := by
  induction lines generalizing converter with
  | nil => exact ⟨rfl, rfl⟩
  | cons line lines ih =>
      rw [replay_cons]
      exact (ih _).trans (converter.flushesLike_convertLine line stream)

theorem encode_pieces_ne_nil (style : Diagnostic.Style) (line : String) :
    (pieces style line).flatMap Utf8.encode ≠ [] := by
  rw [← Utf8.encode_join, ← Utf8.encode_empty, ne_eq, Utf8.encode_inj, ← String.toList_inj, pieces]
  cases Expectation.parse? line with
  | some expectation =>
      simp [Expectation.entryLineFragments, Expectation.entryFragments]
  | none =>
      cases style <;> simp [Diagnostic.fragments, Diagnostic.lead, Diagnostic.resetCode]

end Converter

end ExpectationTable
