import ExpectationTable.Converter
import ExpectationTable.Proofs.Sink.Writing

/-!
# What a line leaves

A line that is taken up goes to one of the two sinks: as an entry to the table if it is an
expectation, and as a diagnostic to the diagnostics otherwise. If the outcome is good, all of it is
there, and if it could not be written, a part that is not all. The other sink is not touched.
-/

namespace ExpectationTable

theorem Utf8.encode_join (fragments : List String) :
    Utf8.encode (String.join fragments) = fragments.flatMap Utf8.encode := by
  simp only [Utf8.encode, String.toList_join, List.flatMap_assoc]
  rfl

def Expectation.entryLine (expectation : Expectation) : String :=
  expectation.entry ++ "\n"

theorem Expectation.encode_entryLine (expectation : Expectation) :
    Utf8.encode expectation.entryLine = expectation.entryLineFragments.flatMap Utf8.encode := by
  rw [entryLine, Utf8.encode_append, entry, Utf8.encode_join, entryLineFragments,
    List.flatMap_append]
  simp

def Diagnostic.line (style : Style) (text : String) : String :=
  String.join (fragments style text)

@[simp] theorem Diagnostic.line_plain (text : String) :
    line .plain text = "Did not match line: " ++ text ++ "\n" := by
  simp [line, fragments, lead, ← String.toList_inj]

/-- A line that was taken up, and what came of it. -/
structure Handling where
  line : String
  outcome : Except ConversionError Outcome

/-- What a line adds to the table and to the diagnostics. -/
inductive Handling.Leaves (style : Diagnostic.Style) : Handling → Bytes → Bytes → Prop where
  | entry {line : String} {expectation : Expectation}
      (read : Expectation.parse? line = some expectation) :
      Leaves style ⟨line, .ok .converted⟩ (Utf8.encode expectation.entryLine) []
  | entryCut {line : String} {expectation : Expectation} {failure : Failure} {part : Bytes}
      (read : Expectation.parse? line = some expectation)
      (beginning : part <+: Utf8.encode expectation.entryLine)
      (partly : part ≠ Utf8.encode expectation.entryLine) :
      Leaves style ⟨line, .error (.write .table failure)⟩ part []
  | diagnostic {line : String} (unread : Expectation.parse? line = none) :
      Leaves style ⟨line, .ok .unmatched⟩ []
        (Utf8.encode (Diagnostic.line style (Text.trimLineEnding line)))
  | diagnosticCut {line : String} {failure : Failure} {part : Bytes}
      (unread : Expectation.parse? line = none)
      (beginning : part <+: Utf8.encode (Diagnostic.line style (Text.trimLineEnding line)))
      (partly : part ≠ Utf8.encode (Diagnostic.line style (Text.trimLineEnding line))) :
      Leaves style ⟨line, .error (.write .diagnostics failure)⟩ [] part

/-- What lines add, one after the other: all that they leave, put together in their order. -/
inductive Handling.AllLeave (style : Diagnostic.Style) : List Handling → Bytes → Bytes → Prop where
  | nil : AllLeave style [] [] []
  | cons {handling : Handling} {handled : List Handling}
      {entry diagnostic table diagnostics : Bytes}
      (first : handling.Leaves style entry diagnostic)
      (others : AllLeave style handled table diagnostics) :
      AllLeave style (handling :: handled) (entry ++ table) (diagnostic ++ diagnostics)

namespace Handling.AllLeave

variable {style : Diagnostic.Style}

theorem single {handling : Handling} {entry diagnostic : Bytes}
    (leaves : handling.Leaves style entry diagnostic) :
    AllLeave style [handling] entry diagnostic := by
  simpa using AllLeave.cons leaves .nil

/-- What later lines leave comes after what earlier ones do. -/
theorem append {first second : List Handling} {table diagnostics tableThen diagnosticsThen : Bytes}
    (before : AllLeave style first table diagnostics)
    (after : AllLeave style second tableThen diagnosticsThen) :
    AllLeave style (first ++ second) (table ++ tableThen) (diagnostics ++ diagnosticsThen) := by
  induction before with
  | nil => exact after
  | cons leaves others ih => simpa using ih.cons leaves

end Handling.AllLeave

namespace Converter

/-- From one state of the converter to another, these lines were taken up: what they leave was added
to the sinks, nothing else was, and the style stayed. -/
def TakesUp (before : Converter) (handled : List Handling) (after : Converter) : Prop :=
  ∃ table diagnostics, Handling.AllLeave before.style handled table diagnostics ∧
    after.table.bytes = before.table.bytes ++ table ∧
    after.diagnostics.bytes = before.diagnostics.bytes ++ diagnostics ∧
    after.style = before.style

namespace TakesUp

theorem refl (converter : Converter) : TakesUp converter [] converter :=
  ⟨[], [], .nil, by simp, by simp, rfl⟩

theorem trans {before between after : Converter} {first second : List Handling}
    (start : TakesUp before first between) (finish : TakesUp between second after) :
    TakesUp before (first ++ second) after := by
  rcases start with ⟨table, diagnostics, leaves, tableAdded, diagnosticsAdded, style⟩
  rcases finish with ⟨tableThen, diagnosticsThen, others, tableAddedThen, diagnosticsAddedThen,
    styleThen⟩
  rw [style] at others
  refine ⟨table ++ tableThen, diagnostics ++ diagnosticsThen, leaves.append others, ?_, ?_, ?_⟩
  · rw [tableAddedThen, tableAdded, List.append_assoc]
  · rw [diagnosticsAddedThen, diagnosticsAdded, List.append_assoc]
  · exact styleThen.trans style

end TakesUp

/-- All that taking up a line can do. -/
inductive LineStep (converter : Converter) (line : String) :
    Except ConversionError Outcome → Converter → Prop where
  | entry {expectation : Expectation} {table : Sink}
      (read : Expectation.parse? line = some expectation)
      (written : converter.table.writeFragments expectation.entryLineFragments = (.ok (), table)) :
      LineStep converter line (.ok .converted)
        { converter with table, summary := converter.summary.addLine.addMatched }
  | entryCut {expectation : Expectation} {failure : Failure} {table : Sink}
      (read : Expectation.parse? line = some expectation)
      (written : converter.table.writeFragments expectation.entryLineFragments =
        (.error failure, table)) :
      LineStep converter line (.error (.write .table failure))
        { converter with table, summary := converter.summary.addLine }
  | diagnostic {diagnostics : Sink} (unread : Expectation.parse? line = none)
      (written : converter.diagnostics.writeFragments
        (Diagnostic.fragments converter.style (Text.trimLineEnding line)) = (.ok (), diagnostics)) :
      LineStep converter line (.ok .unmatched)
        { converter with diagnostics, summary := converter.summary.addLine.addUnmatched }
  | diagnosticCut {failure : Failure} {diagnostics : Sink}
      (unread : Expectation.parse? line = none)
      (written : converter.diagnostics.writeFragments
        (Diagnostic.fragments converter.style (Text.trimLineEnding line)) =
          (.error failure, diagnostics)) :
      LineStep converter line (.error (.write .diagnostics failure))
        { converter with diagnostics, summary := converter.summary.addLine }

theorem lineStep (converter : Converter) (line : String) :
    LineStep converter line (converter.convertLine line).1 (converter.convertLine line).2 := by
  rcases converter with ⟨table, diagnostics, style, summary⟩
  cases read : Expectation.parse? line with
  | some expectation =>
      rcases written : table.writeFragments expectation.entryLineFragments with ⟨_ | _, after⟩
      · simp only [convertLine, read, written]
        exact .entryCut read written
      · simp only [convertLine, read, written]
        exact .entry read written
  | none =>
      rcases written : diagnostics.writeFragments
        (Diagnostic.fragments style (Text.trimLineEnding line)) with ⟨_ | _, after⟩
      · simp only [convertLine, read, written]
        exact .diagnosticCut read written
      · simp only [convertLine, read, written]
        exact .diagnostic read written

variable {converter next : Converter} {line : String} {result : Except ConversionError Outcome}

namespace LineStep

theorem of_convertLine (taken : converter.convertLine line = (result, next)) :
    LineStep converter line result next := by
  have step := converter.lineStep line
  rw [taken] at step
  exact step

theorem convertLine_eq (step : LineStep converter line result next) :
    converter.convertLine line = (result, next) := by
  cases step <;> simp only [convertLine, *]

/-- A line is counted before it is written, whatever comes of it. -/
theorem summary_lines (step : LineStep converter line result next) :
    next.summary.lines = converter.summary.lines + 1 := by
  cases step <;> rfl

/-- What a line leaves is added to the sinks, and nothing else is. -/
theorem takesUp (step : LineStep converter line result next) :
    TakesUp converter [⟨line, result⟩] next := by
  cases step with
  | entry read written =>
      rcases Sink.exists_placed_of_writeFragments written with ⟨placed, added, all⟩
      rw [← Expectation.encode_entryLine] at all
      exact ⟨_, _, .single (.entry read), all ▸ added, by simp, rfl⟩
  | entryCut read written =>
      rcases Sink.exists_placed_of_writeFragments written with ⟨placed, added, part⟩
      rw [← Expectation.encode_entryLine] at part
      exact ⟨_, _, .single (.entryCut read part.1 part.2), added, by simp, rfl⟩
  | diagnostic unread written =>
      rcases Sink.exists_placed_of_writeFragments written with ⟨placed, added, all⟩
      rw [← Utf8.encode_join] at all
      exact ⟨_, _, .single (.diagnostic unread), by simp, all ▸ added, rfl⟩
  | diagnosticCut unread written =>
      rcases Sink.exists_placed_of_writeFragments written with ⟨placed, added, part⟩
      rw [← Utf8.encode_join] at part
      exact ⟨_, _, .single (.diagnosticCut unread part.1 part.2), by simp, added, rfl⟩

theorem flushesLike (step : LineStep converter line result next) :
    next.table.FlushesLike converter.table ∧
      next.diagnostics.FlushesLike converter.diagnostics := by
  cases step with
  | entry read written => exact ⟨Sink.flushesLike_of_writeFragments written, rfl, rfl⟩
  | entryCut read written => exact ⟨Sink.flushesLike_of_writeFragments written, rfl, rfl⟩
  | diagnostic unread written => exact ⟨⟨rfl, rfl⟩, Sink.flushesLike_of_writeFragments written⟩
  | diagnosticCut unread written => exact ⟨⟨rfl, rfl⟩, Sink.flushesLike_of_writeFragments written⟩

end LineStep

end Converter

end ExpectationTable
