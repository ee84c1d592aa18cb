import ExpectationTable.Proofs.Converter.Counting
import ExpectationTable.Proofs.Converter.Reliable
import ExpectationTable.Proofs.Expectation.Entry

/-!
# What the outputs tell of the input

With sinks that never fail, the outputs can be cut at their line feeds into the entries and the
diagnostics that were written, since none of them is broken. A diagnostic tells the text of its
line, and an entry tells the fields of its expectation, if the expected text holds no quote. So two
inputs with the same table have the same matches, and two inputs with the same diagnostics have the
same lines that are no expectations.
-/

namespace ExpectationTable

theorem Diagnostic.line_plain_inj {left right : String}
    (same : line .plain left = line .plain right) : left = right := by
  have characters := congrArg String.toList same
  simpa [String.toList_inj] using characters

/-- Two lists that a function makes the same are made the same by any other function that
distinguishes no more of their elements. -/
theorem map_eq_map_of_coarser {α β γ : Type} {fine : α → β} {coarse : α → γ} {left right : List α}
    (coarser : ∀ a ∈ left, ∀ b ∈ right, fine a = fine b → coarse a = coarse b)
    (same : left.map fine = right.map fine) : left.map coarse = right.map coarse := by
  induction left generalizing right with
  | nil =>
      obtain rfl : right = [] := List.map_eq_nil_iff.mp same.symm
      rfl
  | cons a left ih =>
      rcases List.map_eq_cons_iff.mp same.symm with ⟨b, rest, rfl, first, others⟩
      rw [List.map_cons, List.map_cons,
        coarser a List.mem_cons_self b List.mem_cons_self first.symm, ih ?_ others.symm]
      intro c inLeft d inRight
      exact coarser c (List.mem_cons_of_mem a inLeft) d (List.mem_cons_of_mem b inRight)

namespace Converter

/-- The expectations whose entries the lines became. -/
def entered (handled : List Handling) : List Expectation :=
  handled.filterMap Handling.entered?

/-- The texts that were reported for the lines. -/
def reported (handled : List Handling) : List String :=
  handled.filterMap Handling.reported?

theorem wellFormed_of_mem_entered {handled : List Handling} {expectation : Expectation}
    (member : expectation ∈ entered handled) : expectation.WellFormed := by
  rcases List.mem_filterMap.mp member with ⟨handling, _, found⟩
  exact Expectation.wellFormed_of_parse? (Handling.entered?_eq_some_iff.mp found).2

theorem exists_of_mem_reported {handled : List Handling} {text : String}
    (member : text ∈ reported handled) :
    ∃ handling ∈ handled, Text.trimLineEnding handling.line = text := by
  rcases List.mem_filterMap.mp member with ⟨handling, inside, found⟩
  exact ⟨handling, inside, (Handling.reported?_eq_some_iff.mp found).2⟩

namespace Fresh

variable {converter : Converter} (fresh : converter.Fresh) (source : Source)

include fresh

/-- The lines of a table are the entries of the expectations that were matched. -/
theorem lines_table :
    (converter.convert source).converter.table.bytes.lines =
      (entered (converter.handlings source)).map fun expectation =>
        Utf8.encode expectation.entryLine := by
  have records := (converter.runs source).of_isCumulative Records.isCumulative fresh.toReliable
  rw [records.table, fresh.table_bytes, List.nil_append, List.flatMap_def]
  apply Bytes.IsWholeLine.lines_flatten
  intro piece member
  rcases List.mem_map.mp member with ⟨expectation, inside, rfl⟩
  exact (wellFormed_of_mem_entered inside).isWholeLine_entryLine

theorem lines_diagnostics :
    (converter.convert source).converter.diagnostics.bytes.lines =
      (reported (converter.handlings source)).map fun text =>
        Utf8.encode (Diagnostic.line .plain text) := by
  have run := converter.runs source
  have records := run.of_isCumulative Records.isCumulative fresh.toReliable
  rw [records.diagnostics, fresh.diagnostics_bytes, fresh.plain, List.nil_append,
    List.flatMap_def]
  apply Bytes.IsWholeLine.lines_flatten
  intro piece member
  rcases List.mem_map.mp member with ⟨text, inside, rfl⟩
  rcases exists_of_mem_reported inside with ⟨handling, taken, rfl⟩
  exact Diagnostic.isWholeLine_line .plain (run.unbroken handling taken)

end Fresh

/-- Two conversions that leave the same table have matched expectations with the same fields, in the
same order, if no expected text among them holds a quote. Two conversions that leave the same
diagnostics have reported the same texts. -/
theorem Fresh.outputs_inj {converter other : Converter} (fresh : converter.Fresh)
    (otherFresh : other.Fresh) (source otherSource : Source) :
    let handled := converter.handlings source
    let otherHandled := other.handlings otherSource
    let outputs := (converter.convert source).converter
    let otherOutputs := (other.convert otherSource).converter
    ((∀ expectation ∈ entered handled ++ entered otherHandled,
        '"' ∉ expectation.expectedOrEmpty.toList) →
      outputs.table.bytes = otherOutputs.table.bytes →
        (entered handled).map Expectation.fields =
          (entered otherHandled).map Expectation.fields) ∧
      (outputs.diagnostics.bytes = otherOutputs.diagnostics.bytes →
        reported handled = reported otherHandled) := by
  intro handled otherHandled outputs otherOutputs
  constructor
  · intro clear same
    have lines := congrArg Bytes.lines same
    rw [fresh.lines_table, otherFresh.lines_table] at lines
    apply map_eq_map_of_coarser ?_ lines
    intro expectation member rival rivalMember alike
    apply Expectation.fields_eq_of_entry_eq (wellFormed_of_mem_entered member)
      (wellFormed_of_mem_entered rivalMember) (clear _ (List.mem_append_left _ member))
      (clear _ (List.mem_append_right _ rivalMember))
    exact (String.append_left_inj "\n").mp (Utf8.encode_inj.mp alike)
  · intro same
    have lines := congrArg Bytes.lines same
    rw [fresh.lines_diagnostics, otherFresh.lines_diagnostics] at lines
    have texts : (reported handled).map id = (reported otherHandled).map id := by
      apply map_eq_map_of_coarser ?_ lines
      intro text _ rival _ alike
      exact Diagnostic.line_plain_inj (Utf8.encode_inj.mp alike)
    simpa using texts

/-- A value that holds quotes and copies of the table's own text is still told. Of the expected text
it is not told whether it was left out. -/
theorem outputs_inj_of_quoted_value :
    let converter : Converter := { table := {}, diagnostics := {}, style := .plain }
    let source : Source := [.bytes (Utf8.encode "x\r\n'a\", \"b' (c) as D:\r\n")]
    let other : Source := [.bytes (Utf8.encode "'a\", \"b' (c) "), .bytes (Utf8.encode "as D: \nx")]
    let handled := converter.handlings source
    let otherHandled := converter.handlings other
    (converter.convert source).converter.table.bytes =
        (converter.convert other).converter.table.bytes ∧
      (entered handled).map Expectation.fields = [("a\", \"b", "c", "D", "")] ∧
      (entered otherHandled).map Expectation.fields = [("a\", \"b", "c", "D", "")] ∧
      reported handled = ["x"] ∧ reported otherHandled = ["x"] := by
  intro converter source other handled otherHandled
  have clear : ∀ expectation ∈ entered handled ++ entered otherHandled,
      '"' ∉ expectation.expectedOrEmpty.toList := by
    decide +kernel
  have same : (converter.convert source).converter.table.bytes =
      (converter.convert other).converter.table.bytes := by
    decide +kernel
  have alike : (converter.convert source).converter.diagnostics.bytes =
      (converter.convert other).converter.diagnostics.bytes := by
    decide +kernel
  have matched : (entered handled).map Expectation.fields = [("a\", \"b", "c", "D", "")] := by
    decide +kernel
  have texts : reported handled = ["x"] := by
    decide +kernel
  rcases Fresh.outputs_inj fresh_default fresh_default source other with ⟨fields, reports⟩
  exact ⟨same, matched, (fields clear same).symm.trans matched, texts,
    (reports alike).symm.trans texts⟩

end Converter

end ExpectationTable
