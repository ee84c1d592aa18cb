import ExpectationTable.Proofs.Converter.Reliable
import ExpectationTable.Proofs.Expectation.Entry

/-!
# What becomes of terminators

A terminator is a line feed, or a carriage return with a line feed. Of each line that has one, just
the terminator is taken off: what is left is read to the last character, or reported as it is. A
last line without a line feed has no terminator, and is treated as if it had one where it ends with
a carriage return. So nothing but terminators is taken off exactly if the input does not end with a
carriage return.
-/

namespace ExpectationTable.Converter

/-- The table for texts, each of which is read to its last character. -/
def tableFor (texts : List String) : Bytes :=
  (texts.filterMap Expectation.ofText?).flatMap fun expectation =>
    Utf8.encode (expectation.entry ++ "\n")

/-- The diagnostics for texts: those that are no expectations, as they are. -/
def diagnosticsFor (texts : List String) : Bytes :=
  (texts.filter fun text => (Expectation.ofText? text).isNone).flatMap fun text =>
    Utf8.encode ("Did not match line: " ++ text ++ "\n")

/-- The sinks hold what comes of the texts, and nothing else. -/
structure Shows (texts : List String) (converter : Converter) : Prop where
  table : converter.table.bytes = tableFor texts
  diagnostics : converter.diagnostics.bytes = diagnosticsFor texts

theorem tableFor_append (first second : List String) :
    tableFor (first ++ second) = tableFor first ++ tableFor second := by
  rw [tableFor, List.filterMap_append, List.flatMap_append, tableFor, tableFor]

theorem diagnosticsFor_append (first second : List String) :
    diagnosticsFor (first ++ second) = diagnosticsFor first ++ diagnosticsFor second := by
  rw [diagnosticsFor, List.filter_append, List.flatMap_append, diagnosticsFor, diagnosticsFor]

section Single

variable {text : String}

theorem tableFor_of_some {expectation : Expectation}
    (read : Expectation.ofText? text = some expectation) :
    tableFor [text] = Utf8.encode (expectation.entry ++ "\n") := by
  simp [tableFor, read]

theorem tableFor_of_none (unread : Expectation.ofText? text = none) : tableFor [text] = [] := by
  simp [tableFor, unread]

theorem diagnosticsFor_of_none (unread : Expectation.ofText? text = none) :
    diagnosticsFor [text] = Utf8.encode ("Did not match line: " ++ text ++ "\n") := by
  simp [diagnosticsFor, unread]

/-- What comes of a text shows whether a carriage return ends it. -/
theorem not_outputs_eq_append_return :
    ¬(tableFor [text ++ "\r"] = tableFor [text] ∧
      diagnosticsFor [text ++ "\r"] = diagnosticsFor [text]) := by
  intro ⟨table, diagnostics⟩
  -- An entry is no empty line of the table, and so both texts are read or neither is.
  have filled (expectation : Expectation) : Utf8.encode (expectation.entry ++ "\n") ≠ [] := by
    rw [← Utf8.encode_empty, ne_eq, Utf8.encode_inj, ← String.toList_inj]
    simp
  cases longer : Expectation.ofText? (text ++ "\r") with
  | none =>
      cases shorter : Expectation.ofText? text with
      | none =>
          rw [diagnosticsFor_of_none longer, diagnosticsFor_of_none shorter, Utf8.encode_inj,
            ← String.toList_inj] at diagnostics
          simp at diagnostics
      | some expectation =>
          rw [tableFor_of_none longer, tableFor_of_some shorter] at table
          exact filled expectation table.symm
  | some expectation =>
      cases shorter : Expectation.ofText? text with
      | none =>
          rw [tableFor_of_some longer, tableFor_of_none shorter] at table
          exact filled expectation table
      | some other =>
          rw [tableFor_of_some longer, tableFor_of_some shorter, Utf8.encode_inj,
            String.append_left_inj] at table
          apply Expectation.entry_ne_of_text_eq_append_return ?_ table
          rw [(Expectation.isReadingOf_of_ofText? longer).1.written,
            (Expectation.isReadingOf_of_ofText? shorter).1.written]

end Single

theorem filterMap_decode?_map_encode (texts : List String) :
    ((texts.map Utf8.encode).takeWhile Utf8.isText).filterMap Utf8.decode? = texts := by
  induction texts with
  | nil => rfl
  | cons text texts ih =>
      rw [List.map_cons, List.takeWhile_cons_of_pos (Utf8.isText_encode text),
        List.filterMap_cons_some (Utf8.decode?_encode text), ih]

/-- With sinks that never fail, the outputs show the trimmed lines of the input. -/
theorem Fresh.shows_trimmed {converter : Converter} (fresh : converter.Fresh) {source : Source}
    (steady : source.Steady) {text : String} (encoded : source.bytes = Utf8.encode text) :
    (converter.convert source).converter.Shows ((Text.lines text).map Text.trimLineEnding) := by
  have delivered := steady.deliveries_eq
  rw [encoded, Text.lines_encode] at delivered
  rcases fresh.toReliable.conversion_eq (converter.runs source) delivered with
    ⟨table, diagnostics, _⟩
  rw [filterMap_decode?_map_encode] at table diagnostics
  constructor
  · rw [table, recording, Sink.bytes_append, fresh.table_bytes, List.nil_append, tableFor,
      List.filterMap_map]
    rfl
  · rw [diagnostics, recording, Sink.bytes_append, fresh.diagnostics_bytes, fresh.plain,
      List.nil_append, diagnosticsFor, List.filter_map, List.flatMap_map]
    simp only [Diagnostic.line_plain]
    rfl

/-- A carriage return that ends the last line is missing from outputs that show the trimmed lines.
-/
theorem not_shows_withoutTerminator {converter : Converter} {text : String}
    (shows : converter.Shows ((Text.lines text).map Text.trimLineEnding))
    (carriage : text.toList.getLast? = some '\r') :
    ¬converter.Shows ((Text.lines text).map Text.withoutTerminator) := by
  intro whole
  have nonempty : text.toList ≠ [] := by
    intro empty
    rw [empty] at carriage
    cases carriage
  rcases Text.lines_eq_concat nonempty with ⟨earlier, final, split, ended, ends⟩
  rw [← ends] at carriage
  -- The earlier lines end with a line feed, and so it is only the last that matters.
  have same : earlier.map Text.withoutTerminator = earlier.map Text.trimLineEnding := by
    apply List.map_congr_left
    intro line member
    symm
    apply (Text.trimLineEnding_eq_withoutTerminator_iff line).mpr
    simp [ended line member]
  rw [split, List.map_append, List.map_singleton] at shows whole
  rw [same, Text.withoutTerminator_of_return carriage] at whole
  have table : tableFor [Text.trimLineEnding final ++ "\r"] =
      tableFor [Text.trimLineEnding final] := by
    apply List.append_cancel_left
    rw [Text.trimLineEnding_append_of_return carriage, ← tableFor_append, ← tableFor_append,
      ← whole.table, shows.table]
  have diagnostics : diagnosticsFor [Text.trimLineEnding final ++ "\r"] =
      diagnosticsFor [Text.trimLineEnding final] := by
    apply List.append_cancel_left
    rw [Text.trimLineEnding_append_of_return carriage, ← diagnosticsFor_append,
      ← diagnosticsFor_append, ← whole.diagnostics, shows.diagnostics]
  exact not_outputs_eq_append_return ⟨table, diagnostics⟩

/-- Nothing but terminators is taken off the lines of the text. -/
structure TakesOffTerminators (text : String) (converter : Converter) : Prop where
  /-- The outputs show each line as it is in front of its terminator. -/
  shows : converter.Shows ((Text.lines text).map Text.withoutTerminator)
  /-- What is read is the whole line in front of its terminator. -/
  written : ∀ line ∈ Text.lines text, ∀ expectation, Expectation.parse? line = some expectation →
    expectation.text = Text.withoutTerminator line

theorem takesOffTerminators_iff {converter : Converter} {text : String}
    (shows : converter.Shows ((Text.lines text).map Text.trimLineEnding)) :
    converter.TakesOffTerminators text ↔ text.toList.getLast? ≠ some '\r' := by
  constructor
  · intro terminators carriage
    exact not_shows_withoutTerminator shows carriage terminators.shows
  · intro other
    have same : ∀ line ∈ Text.lines text,
        Text.trimLineEnding line = Text.withoutTerminator line := by
      intro line member
      apply (Text.trimLineEnding_eq_withoutTerminator_iff line).mpr
      exact Text.getLast?_ne_return_of_mem_lines member other
    constructor
    · rwa [← List.map_congr_left same]
    · intro line member expectation read
      rw [← same line member, Expectation.text_of_parse? read]

/-- With sinks that never fail, a conversion of a text takes off what trimming takes off its lines:
the rest is written into the fields of an expectation to the last character, or is reported as it
is. That is the terminator and at most one carriage return more, and it is more than the terminators
exactly if the text ends with a carriage return. -/
theorem Fresh.convert_trimmed {converter : Converter} (fresh : converter.Fresh) {source : Source}
    (steady : source.Steady) {text : String} (encoded : source.bytes = Utf8.encode text) :
    let converted := (converter.convert source).converter
    converted.Shows ((Text.lines text).map Text.trimLineEnding) ∧
      (∀ line ∈ Text.lines text,
        (∀ expectation, Expectation.parse? line = some expectation →
          expectation.text = Text.trimLineEnding line) ∧
        (Text.trimLineEnding line = Text.withoutTerminator line ∨
          Text.trimLineEnding line ++ "\r" = Text.withoutTerminator line)) ∧
      (converted.TakesOffTerminators text ↔ text.toList.getLast? ≠ some '\r') := by
  intro converted
  have shows := fresh.shows_trimmed steady encoded
  refine ⟨shows, ?_, takesOffTerminators_iff shows⟩
  intro line _
  refine ⟨fun expectation => Expectation.text_of_parse?, ?_⟩
  by_cases carriage : line.toList.getLast? = some '\r'
  · right
    rw [Text.withoutTerminator_of_return carriage, Text.trimLineEnding_append_of_return carriage]
  · exact .inl ((Text.trimLineEnding_eq_withoutTerminator_iff line).mpr carriage)

/-- Of two carriage returns, the one in front of the line feed is part of the terminator. The other
is reported. -/
theorem convert_trimmed_repeated_return :
    let converter : Converter := { table := {}, diagnostics := {}, style := .plain }
    let source : Source := [.bytes (Utf8.encode "x\r\r"), .bytes (Utf8.encode "\ny")]
    converter.Fresh ∧ source.Steady ∧ source.bytes = Utf8.encode "x\r\r\ny" ∧
      (converter.convert source).converter.TakesOffTerminators "x\r\r\ny" ∧
      (converter.convert source).converter.diagnostics.bytes =
        Utf8.encode "Did not match line: x\r\nDid not match line: y\n" := by
  intro converter source
  have steady : source.Steady := by decide
  have encoded : source.bytes = Utf8.encode "x\r\r\ny" := by decide
  rcases fresh_default.convert_trimmed steady encoded with ⟨shows, _, terminators⟩
  refine ⟨fresh_default, steady, encoded, terminators.mpr (by decide), ?_⟩
  rw [shows.diagnostics]
  decide +kernel

/-- A carriage return that ends the last line is not reported, though there is no line feed that it
could be part of a terminator with. -/
theorem not_takesOffTerminators_of_final_return :
    let converter : Converter := { table := {}, diagnostics := {}, style := .plain }
    let converted := (converter.convert [.bytes (Utf8.encode "x\r")]).converter
    converted.diagnostics.bytes = Utf8.encode "Did not match line: x\n" ∧
      ¬converted.TakesOffTerminators "x\r" := by
  intro converter converted
  have reported : converted.diagnostics.bytes = Utf8.encode "Did not match line: x\n" := by
    decide +kernel
  have expected : diagnosticsFor ((Text.lines "x\r").map Text.withoutTerminator) =
      Utf8.encode "Did not match line: x\r\n" := by
    decide +kernel
  refine ⟨reported, ?_⟩
  intro terminators
  have same := reported.symm.trans (terminators.shows.diagnostics.trans expected)
  rw [Utf8.encode_inj, ← String.toList_inj] at same
  exact absurd same (by decide)

end ExpectationTable.Converter
