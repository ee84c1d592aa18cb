import ExpectationTable.Diagnostic
import ExpectationTable.Expectation.Parser
import ExpectationTable.Failure
import ExpectationTable.Sink
import ExpectationTable.Source

/-!
# The converter

A converter takes lines one after the other. A line that is an expectation becomes an entry of the
table, any other line becomes a diagnostic. The converter keeps count, also over several inputs. It
stops at the first failure and says how far it came; nothing that it has written is taken back, and
it can go on with what is left of the input.
-/

namespace ExpectationTable

/-- Counts of lines. -/
structure Summary where
  /-- Lines that were taken up, whatever came of them. -/
  lines : Nat := 0
  /-- Entries that were written in full. -/
  matched : Nat := 0
  /-- Diagnostics that were written in full. -/
  unmatched : Nat := 0
  deriving DecidableEq

namespace Summary

def addLine (summary : Summary) : Summary :=
  { summary with lines := summary.lines + 1 }

def addMatched (summary : Summary) : Summary :=
  { summary with matched := summary.matched + 1 }

def addUnmatched (summary : Summary) : Summary :=
  { summary with unmatched := summary.unmatched + 1 }

end Summary

/-- What became of a line. -/
inductive Outcome where
  | converted
  | unmatched
  deriving DecidableEq

/-- The two sinks, the style of what is written to the second, and the counts so far. -/
structure Converter where
  table : Sink
  diagnostics : Sink
  style : Diagnostic.Style
  summary : Summary := {}

/-- Where a conversion came to: how it ended, the converter and what is unread. -/
structure Conversion where
  result : Except ConversionError Summary
  converter : Converter
  unread : Source

namespace Converter

/-- Takes up one line, which may still have its ending. -/
def convertLine (line : String) :
    Converter → Except ConversionError Outcome × Converter
  | ⟨table, diagnostics, style, summary⟩ =>
      let summary := summary.addLine
      match Expectation.parse? line with
      | some expectation =>
          match table.writeFragments expectation.entryLineFragments with
          | (.ok (), table) => (.ok .converted, ⟨table, diagnostics, style, summary.addMatched⟩)
          | (.error failure, table) =>
              (.error (.write .table failure), ⟨table, diagnostics, style, summary⟩)
      | none =>
          let text := Text.trimLineEnding line
          match diagnostics.writeFragments (Diagnostic.fragments style text) with
          | (.ok (), diagnostics) =>
              (.ok .unmatched, ⟨table, diagnostics, style, summary.addUnmatched⟩)
          | (.error failure, diagnostics) =>
              (.error (.write .diagnostics failure), ⟨table, diagnostics, style, summary⟩)

/-- Asks the sinks to flush, the second only if the first could. -/
def finish : Converter → Except ConversionError Summary × Converter
  | ⟨table, diagnostics, style, summary⟩ =>
      match table.flush with
      | (.error failure, table) =>
          (.error (.write .table failure), ⟨table, diagnostics, style, summary⟩)
      | (.ok (), table) =>
          match diagnostics.flush with
          | (.error failure, diagnostics) =>
              (.error (.write .diagnostics failure), ⟨table, diagnostics, style, summary⟩)
          | (.ok (), diagnostics) => (.ok summary, ⟨table, diagnostics, style, summary⟩)

/-- Takes up the lines of a source up to the end of the input, and then finishes. -/
def convert (source : Source) (converter : Converter) : Conversion :=
  match read : source.readLine with
  | (.line text, source) =>
      match converter.convertLine text with
      | (.ok _, converter) => convert source converter
      | (.error error, converter) => ⟨.error error, converter, source⟩
  | (.failed failure, source) =>
      ⟨.error (.ofReadFailure (converter.summary.lines + 1) failure), converter, source⟩
  | (.endOfInput, source) =>
      let (result, converter) := converter.finish
      ⟨result, converter, source⟩
termination_by source.size
decreasing_by exact Source.size_lt_of_readLine read

theorem convert_of_readLine_eq_line {source rest : Source} {text : String} (converter : Converter)
    (read : source.readLine = (.line text, rest)) :
    converter.convert source =
      match converter.convertLine text with
      | (.ok _, converter) => converter.convert rest
      | (.error error, converter) => ⟨.error error, converter, rest⟩ := by
  rw [convert]
  split
  next line unread found =>
    obtain ⟨same, rfl⟩ := Prod.mk.inj (read.symm.trans found)
    obtain rfl := Reading.line.inj same
    rfl
  next failure unread found => cases (Prod.mk.inj (read.symm.trans found)).1
  next unread found => cases (Prod.mk.inj (read.symm.trans found)).1

/-- A failure to read ends the conversion. The line that it is about is the one after those taken
up. -/
theorem convert_of_readLine_eq_failed {source rest : Source} {failure : Failure}
    (converter : Converter) (read : source.readLine = (.failed failure, rest)) :
    converter.convert source =
      ⟨.error (.ofReadFailure (converter.summary.lines + 1) failure), converter, rest⟩ := by
  rw [convert]
  split <;> simp_all

theorem convert_of_readLine_eq_endOfInput {source rest : Source} (converter : Converter)
    (read : source.readLine = (.endOfInput, rest)) :
    converter.convert source = ⟨converter.finish.1, converter.finish.2, rest⟩ := by
  rw [convert]
  split <;> simp_all

end Converter

end ExpectationTable
