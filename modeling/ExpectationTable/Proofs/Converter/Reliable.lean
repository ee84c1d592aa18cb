import ExpectationTable.Proofs.Converter.Destination
import ExpectationTable.Proofs.Converter.Run
import ExpectationTable.Proofs.Source.Steady
import ExpectationTable.Proofs.Text.WellEncoded

/-!
# Conversions with sinks that never fail

With reliable sinks a conversion takes up all lines in front of the first that is not well encoded.
The table then holds the entries of the expectations among them, the diagnostics hold one diagnostic
for each other line, and both are counted.

The encoding of each line is judged by itself. That comes to the same as to judge the whole input:
it is accepted exactly if it is a text, and otherwise the line that is blamed is the one in which
the first code stands that is invalid or incomplete.
-/

namespace ExpectationTable

namespace Handling

/-- The expectation that became an entry, if one did. -/
def entered? : Handling → Option Expectation
  | ⟨line, .ok .converted⟩ => Expectation.parse? line
  | _ => none

/-- The text that was reported, if the line was unmatched. -/
def reported? : Handling → Option String
  | ⟨line, .ok .unmatched⟩ => some (Text.trimLineEnding line)
  | _ => none

theorem entered?_eq_some_iff {handling : Handling} {expectation : Expectation} :
    handling.entered? = some expectation ↔
      handling.outcome = .ok .converted ∧
        Expectation.parse? handling.line = some expectation := by
  rcases handling with ⟨line, error | outcome⟩
  · simp [entered?]
  · cases outcome <;> simp [entered?]

theorem reported?_eq_some_iff {handling : Handling} {text : String} :
    handling.reported? = some text ↔
      handling.outcome = .ok .unmatched ∧ Text.trimLineEnding handling.line = text := by
  rcases handling with ⟨line, error | outcome⟩
  · simp [reported?]
  · cases outcome <;> simp [reported?]

end Handling

namespace Converter

/-- Both sinks are reliable. -/
structure Reliable (converter : Converter) : Prop where
  table : converter.table.Reliable
  diagnostics : converter.diagnostics.Reliable

def accepted (texts : List String) : List Expectation :=
  texts.filterMap Expectation.parse?

def rejected (texts : List String) : List String :=
  texts.filter fun text => (Expectation.parse? text).isNone

/-- The converter with what the lines add to it when nothing fails. -/
def recording (texts : List String) (converter : Converter) : Converter where
  table := converter.table.append
    ((accepted texts).flatMap fun expectation => Utf8.encode expectation.entryLine)
  diagnostics := converter.diagnostics.append
    ((rejected texts).flatMap fun text =>
      Utf8.encode (Diagnostic.line converter.style (Text.trimLineEnding text)))
  style := converter.style
  summary :=
    { lines := converter.summary.lines + texts.length
      matched := converter.summary.matched + (accepted texts).length
      unmatched := converter.summary.unmatched + (rejected texts).length }

@[simp] theorem recording_nil (converter : Converter) : converter.recording [] = converter := by
  simp [recording, accepted, rejected]

theorem recording_cons (text : String) (texts : List String) (converter : Converter) :
    converter.recording (text :: texts) = (converter.recording [text]).recording texts := by
  cases read : Expectation.parse? text <;>
    simp [recording, accepted, rejected, read, Nat.add_assoc, Nat.add_comm 1]

theorem length_accepted_add_length_rejected (texts : List String) :
    (accepted texts).length + (rejected texts).length = texts.length := by
  induction texts with
  | nil => rfl
  | cons text texts ih =>
      cases read : Expectation.parse? text <;>
        simp [accepted, rejected, read] at ih ⊢ <;> omega

/-- A line is recorded if the sink of its stream is reliable, whatever the other sink is. -/
theorem convertLine_eq_recording {converter : Converter} {text : String}
    (reliable : (converter.sink (destination text)).Reliable) :
    converter.convertLine text =
      (.ok (destination text).outcome, converter.recording [text]) := by
  rw [convertLine_eq, reliable.writeFragments_eq]
  cases read : Expectation.parse? text with
  | some expectation =>
      simp [destination, pieces, read, recording, accepted, rejected, withSink, withSummary, sink,
        Stream.outcome, Summary.addWritten, Summary.addLine, Summary.addMatched,
        Expectation.encode_entryLine]
  | none =>
      simp [destination, pieces, read, recording, accepted, rejected, withSink, withSummary, sink,
        Stream.outcome, Summary.addWritten, Summary.addLine, Summary.addUnmatched,
        Diagnostic.line, Utf8.encode_join]

namespace Reliable

variable {source : Source} {converter : Converter} {handled : List Handling}
  {conversion : Conversion}

theorem sink (reliable : converter.Reliable) (stream : Stream) :
    (converter.sink stream).Reliable := by
  cases stream with
  | table => exact reliable.table
  | diagnostics => exact reliable.diagnostics

theorem recording (reliable : converter.Reliable) (texts : List String) :
    (converter.recording texts).Reliable :=
  ⟨reliable.table.append _, reliable.diagnostics.append _⟩

theorem exists_convertLine_eq (reliable : converter.Reliable) (text : String) :
    ∃ outcome, converter.convertLine text = (.ok outcome, converter.recording [text]) :=
  ⟨_, convertLine_eq_recording (reliable.sink (destination text))⟩

theorem finish_eq (reliable : converter.Reliable) :
    converter.finish.1 = .ok converter.summary := by
  rcases converter with ⟨table, diagnostics, style, summary⟩
  rw [finish, reliable.table.flush_eq]
  dsimp only
  rw [reliable.diagnostics.flush_eq]

theorem finish (reliable : converter.Reliable) : converter.finish.2.Reliable := by
  rcases converter with ⟨table, diagnostics, style, summary⟩
  rw [Converter.finish, reliable.table.flush_eq]
  dsimp only
  rw [reliable.diagnostics.flush_eq]
  exact ⟨⟨reliable.table.unlimited, reliable.table.flushable⟩,
    ⟨reliable.diagnostics.unlimited, reliable.diagnostics.flushable⟩⟩

/-- A conversion records the lines in front of the first that is not well encoded, and ends
there. -/
theorem conversion_eq (run : Runs source converter handled conversion)
    (reliable : converter.Reliable) {lines : List Bytes}
    (delivered : source.deliveries = lines.map .line) :
    let last := converter.recording ((lines.takeWhile Utf8.isText).filterMap Utf8.decode?)
    conversion.converter.table.bytes = last.table.bytes ∧
      conversion.converter.diagnostics.bytes = last.diagnostics.bytes ∧
      conversion.converter.summary = last.summary ∧
      conversion.result =
        if lines.all Utf8.isText then .ok last.summary
        else .error (.illEncoded (last.summary.lines + 1)) := by
  induction run generalizing lines with
  | @line _ _ converter _ text _ _ _ read taken more ih =>
      rcases reliable.exists_convertLine_eq text with ⟨outcome, recorded⟩
      cases taken.symm.trans recorded
      rcases Source.deliveries_of_readLine_eq_line read with ⟨bytes, decoded, first⟩
      rcases List.map_eq_cons_iff.mp (delivered.symm.trans first) with
        ⟨line, rest, rfl, same, others⟩
      cases same
      have valid : Utf8.isText bytes = true := by simp [Utf8.isText, decoded]
      have later := ih (reliable.recording [text]) others.symm
      rw [List.takeWhile_cons_of_pos valid, List.filterMap_cons_some decoded, recording_cons,
        List.all_cons, valid, Bool.true_and]
      exact later
  | @unwritten _ _ converter _ text _ read taken =>
      rcases reliable.exists_convertLine_eq text with ⟨outcome, recorded⟩
      cases taken.symm.trans recorded
  | unread read =>
      rcases Source.deliveries_of_readLine_eq_failed read with first | ⟨bytes, invalid, rfl, first⟩
      · rcases List.map_eq_cons_iff.mp (delivered.symm.trans first) with ⟨line, rest, _, same, _⟩
        cases same
      · rcases List.map_eq_cons_iff.mp (delivered.symm.trans first) with
          ⟨line, rest, rfl, same, others⟩
        cases same
        have broken : Utf8.isText bytes = false := by simp [Utf8.isText, invalid]
        simp [broken]
  | @ended _ _ converter read =>
      rcases Source.deliveries_of_readLine_eq_endOfInput read with first | ⟨nothing, _⟩
      · rcases List.map_eq_cons_iff.mp (delivered.symm.trans first) with ⟨line, rest, _, same, _⟩
        cases same
      · obtain rfl : lines = [] := List.map_eq_nil_iff.mp (delivered.symm.trans nothing)
        rcases converter.finish_keeps with ⟨tableKept, diagnosticsKept, _, counted⟩
        simp [tableKept, diagnosticsKept, counted, reliable.finish_eq]

end Reliable

/-! ## What was recorded -/

/-- From one state of the converter to another, these lines were taken up and recorded: each is a
whole entry or a whole diagnostic now, and the sinks are reliable. -/
structure Records (before : Converter) (handled : List Handling) (after : Converter) : Prop where
  reliable : after.Reliable
  table : after.table.bytes = before.table.bytes ++
    (handled.filterMap Handling.entered?).flatMap fun expectation =>
      Utf8.encode expectation.entryLine
  diagnostics : after.diagnostics.bytes = before.diagnostics.bytes ++
    (handled.filterMap Handling.reported?).flatMap fun text =>
      Utf8.encode (Diagnostic.line before.style text)
  style : after.style = before.style

theorem LineStep.records {converter next : Converter} {line : String}
    {result : Except ConversionError Outcome} (step : LineStep converter line result next)
    (reliable : converter.Reliable) : Records converter [⟨line, result⟩] next := by
  cases step with
  | @entry expectation table read written =>
      cases (reliable.table.writeFragments_eq _).symm.trans written
      refine ⟨⟨reliable.table.append _, reliable.diagnostics⟩, ?_, ?_, rfl⟩
      · simp [Handling.entered?, read, Expectation.encode_entryLine]
      · simp [Handling.reported?]
  | entryCut read written => cases (reliable.table.writeFragments_eq _).symm.trans written
  | @diagnostic diagnostics unread written =>
      cases (reliable.diagnostics.writeFragments_eq _).symm.trans written
      refine ⟨⟨reliable.table, reliable.diagnostics.append _⟩, ?_, ?_, rfl⟩
      · simp [Handling.entered?]
      · simp [Handling.reported?, Diagnostic.line, Utf8.encode_join]
  | diagnosticCut unread written =>
      cases (reliable.diagnostics.writeFragments_eq _).symm.trans written

/-- To record lines is cumulative, as long as the sinks are reliable. -/
theorem Records.isCumulative :
    IsCumulative fun before handled after => before.Reliable → Records before handled after where
  refl converter reliable := ⟨reliable, by simp, by simp, rfl⟩
  line := LineStep.records
  trans first second reliable := by
    have start := first reliable
    have finish := second start.reliable
    refine ⟨finish.reliable, ?_, ?_, finish.style.trans start.style⟩
    · rw [finish.table, start.table, List.append_assoc, ← List.flatMap_append,
        ← List.filterMap_append]
    · rw [finish.diagnostics, start.diagnostics, start.style, List.append_assoc,
        ← List.flatMap_append, ← List.filterMap_append]
  finish converter reliable := by
    rcases converter.finish_keeps with ⟨tableKept, diagnosticsKept, styleKept, _⟩
    exact ⟨reliable.finish, by simpa using tableKept, by simpa using diagnosticsKept, styleKept⟩

/-- A converter that has not begun, with reliable sinks and plain diagnostics. -/
structure Fresh (converter : Converter) : Prop extends converter.Reliable where
  table_bytes : converter.table.bytes = []
  diagnostics_bytes : converter.diagnostics.bytes = []
  plain : converter.style = .plain
  uncounted : converter.summary = {}

/-- What a whole conversion leaves, however the bytes of the input are divided into chunks. Of the
lines in front of the first that is not well encoded, the table holds the entries of all
expectations and the diagnostics hold all others, both in order. All of them are counted, and an ill
encoded line is reported as the one after them. -/
theorem Fresh.convert_chunks {converter : Converter} (fresh : converter.Fresh)
    (chunks : List Bytes) :
    let lines := Bytes.lines chunks.flatten
    let readable := lines.takeWhile Utf8.isText
    let texts := readable.filterMap Utf8.decode?
    let summary : Summary :=
      { lines := readable.length
        matched := (accepted texts).length
        unmatched := (rejected texts).length }
    let conversion := converter.convert (chunks.map .bytes)
    conversion.converter.table.bytes =
        (accepted texts).flatMap (fun expectation => Utf8.encode (expectation.entry ++ "\n")) ∧
      conversion.converter.diagnostics.bytes =
        (rejected texts).flatMap (fun text =>
          Utf8.encode ("Did not match line: " ++ Text.trimLineEnding text ++ "\n")) ∧
      conversion.converter.summary = summary ∧
      summary.matched + summary.unmatched = summary.lines ∧
      conversion.result =
        if lines.all Utf8.isText then .ok summary
        else .error (.illEncoded (readable.length + 1)) := by
  intro lines readable texts summary conversion
  have all : texts.length = readable.length := by
    rw [List.length_filterMap_eq_countP, List.countP_eq_length]
    exact List.all_eq_true.mp List.all_takeWhile
  have counts : (converter.recording texts).summary = summary := by
    simp [recording, fresh.uncounted, summary, all]
  rcases fresh.toReliable.conversion_eq (converter.runs (chunks.map .bytes))
    (Source.deliveries_map_bytes chunks) with ⟨table, diagnostics, counted, result⟩
  refine ⟨?_, ?_, ?_, ?_, ?_⟩
  · rw [table, recording, Sink.bytes_append, fresh.table_bytes, List.nil_append]
    rfl
  · rw [diagnostics, recording, Sink.bytes_append, fresh.diagnostics_bytes, fresh.plain]
    simp only [Diagnostic.line_plain, List.nil_append]
    rfl
  · exact counted.trans counts
  · exact (length_accepted_add_length_rejected texts).trans all
  · rw [result]
    rw [counts]

theorem fresh_default : Fresh { table := {}, diagnostics := {}, style := .plain } where
  table := Sink.reliable_default
  diagnostics := Sink.reliable_default
  table_bytes := rfl
  diagnostics_bytes := rfl
  plain := rfl
  uncounted := rfl

set_option maxRecDepth 4000 in
/-- The second line is divided between the chunks, and the third is not well encoded. -/
theorem convert_chunks_up_to_ill_encoded :
    let conversion := convert
      [.bytes (Utf8.encode "x\n'' (a) "), .bytes (Utf8.encode "as B:\n" ++ [0xff])]
      { table := {}, diagnostics := {}, style := .plain }
    conversion.converter.table.bytes =
        Utf8.encode "\x7b std::make_tuple(\"\", \"a\", \"B\"), \"\" \x7d,\n" ∧
      conversion.converter.diagnostics.bytes = Utf8.encode "Did not match line: x\n" ∧
      conversion.converter.summary = { lines := 2, matched := 1, unmatched := 1 } ∧
      conversion.result = .error (.illEncoded 3) := by
  rcases fresh_default.convert_chunks
    [Utf8.encode "x\n'' (a) ", Utf8.encode "as B:\n" ++ [0xff]] with
    ⟨table, diagnostics, counted, _, result⟩
  refine ⟨table.trans ?_, diagnostics.trans ?_, counted.trans ?_, result.trans ?_⟩
  · decide
  · decide
  · decide
  · exact if_neg (by decide)

/-! ## The encoding of a whole input -/

/-- With sinks that never fail, a conversion succeeds if its input is well encoded as a whole.
Otherwise it blames the line after those that are ended by the longest beginning that is well
encoded. That beginning stops in front of the first code that is invalid or incomplete. -/
theorem Reliable.convert_encoding {converter : Converter} (reliable : converter.Reliable)
    {source : Source} (steady : source.Steady) :
    let conversion := converter.convert source
    let start := Utf8.longestText source.bytes
    conversion.result =
        (if Utf8.isText source.bytes then .ok conversion.converter.summary
        else .error
          (.illEncoded (converter.summary.lines + start.count Bytes.lineFeed + 1))) ∧
      start <+: source.bytes ∧
      Utf8.isText start = true ∧
      ∀ c, ¬start ++ String.utf8EncodeChar c <+: source.bytes := by
  intro conversion start
  refine ⟨?_, Utf8.longestText_beginning _, Utf8.isText_longestText _,
    Utf8.not_longestText_append_beginning _⟩
  rcases reliable.conversion_eq (converter.runs source) steady.deliveries_eq with
    ⟨_, _, counted, result⟩
  rw [Utf8.all_isText_lines, ← counted] at result
  rw [result]
  cases valid : Utf8.isText source.bytes with
  | true => rfl
  | false =>
      have texts := Utf8.length_filterMap_decode? (List.all_eq_true.mp
        (List.all_takeWhile (p := Utf8.isText) (l := source.bytes.lines)))
      rw [counted, Converter.recording, texts, Utf8.length_takeWhile_isText_lines valid]

/-- The first two bytes of a code of three stand at the end of the second line. The line feed that
follows them is no part of that code, and the third line would be well encoded. -/
theorem convert_encoding_of_incomplete_code :
    let converter : Converter := { table := {}, diagnostics := {}, style := .plain }
    let source : Source := [.bytes [0x61, 0x0a, 0x62, 0xe2], .bytes [0x82, 0x0a, 0x63]]
    converter.Reliable ∧ source.Steady ∧
      (converter.convert source).result = .error (.illEncoded 2) ∧
      Utf8.longestText source.bytes = [0x61, 0x0a, 0x62] := by
  intro converter source
  have steady : source.Steady := by decide
  have reliable : converter.Reliable := fresh_default.toReliable
  have start : Utf8.longestText source.bytes = [0x61, 0x0a, 0x62] := by decide +kernel
  have broken : Utf8.isText source.bytes = false := by decide +kernel
  rcases reliable.convert_encoding steady with ⟨result, _⟩
  rw [start, broken] at result
  exact ⟨reliable, steady, result, start⟩

end Converter

end ExpectationTable
