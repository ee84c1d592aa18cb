import ExpectationTable.Proofs.Converter.Chunking
import ExpectationTable.Proofs.Converter.Destination
import ExpectationTable.Proofs.Text.Lines

/-!
# Line by line

To convert a text is to take up its lines one by one, up to the first that cannot be written. That
line's error is the result then, the lines after it are unread and no sink is flushed. If all lines
are written, the table is flushed, and the diagnostics if that worked.
-/

namespace ExpectationTable

/-- A source that delivers the bytes of texts is read as these texts, and is then at its end. -/
theorem Source.readLine_of_deliveries_eq_texts {source rest : Source} {reading : Reading}
    {texts : List String}
    (delivered : source.deliveries = texts.map fun text => .line (Utf8.encode text))
    (read : source.readLine = (reading, rest)) :
    (∃ text later, texts = text :: later ∧ reading = .line text ∧
        rest.deliveries = later.map fun text => .line (Utf8.encode text)) ∨
      texts = [] ∧ reading = .endOfInput ∧ rest.deliveries = [] := by
  rcases source.readLine_cases with ⟨nothing, ended⟩ | ⟨delivery, after, first, taken⟩
  · rcases Prod.mk.inj (ended.symm.trans read) with ⟨rfl, rfl⟩
    exact .inr ⟨List.map_eq_nil_iff.mp (delivered.symm.trans nothing), rfl, rfl⟩
  · rcases Prod.mk.inj (taken.symm.trans read) with ⟨rfl, rfl⟩
    rcases List.map_eq_cons_iff.mp (delivered.symm.trans first) with
      ⟨text, later, rfl, rfl, others⟩
    refine .inl ⟨text, later, rfl, ?_, others.symm⟩
    simp [Delivery.reading]

namespace Converter

/-- How far lines were taken up: the error of the first that could not be written, the converter
after it and the lines that are left. -/
structure Progress where
  error? : Option ConversionError
  converter : Converter
  left : List String

/-- Takes up lines one by one, up to the first that cannot be written. -/
def convertLines : List String → Converter → Progress
  | [], converter => ⟨none, converter, []⟩
  | line :: lines, converter =>
      match converter.convertLine line with
      | (.ok _, converter) => convertLines lines converter
      | (.error error, converter) => ⟨some error, converter, lines⟩

theorem convertLines_cons (line : String) (lines : List String) (converter : Converter) :
    converter.convertLines (line :: lines) =
      match converter.convertLine line with
      | (.ok _, converter) => converter.convertLines lines
      | (.error error, converter) => ⟨some error, converter, lines⟩ := by
  exact rfl

theorem flushesLike_convertLines (lines : List String) (converter : Converter) (stream : Stream) :
    ((converter.convertLines lines).converter.sink stream).FlushesLike (converter.sink stream) := by
  induction lines generalizing converter with
  | nil => exact ⟨rfl, rfl⟩
  | cons line lines ih =>
      have first := converter.flushesLike_convertLine line stream
      rcases taken : converter.convertLine line with ⟨error | outcome, next⟩
      · rw [convertLines_cons, taken]
        rwa [taken] at first
      · rw [convertLines_cons, taken]
        rw [taken] at first
        exact (ih next).trans first

/-- A run over well encoded lines takes them up one by one. After an error it only leaves the
others, and otherwise it finishes. -/
theorem Runs.convertLines_eq {source : Source} {converter : Converter} {handled : List Handling}
    {conversion : Conversion} (run : Runs source converter handled conversion)
    {lines : List String}
    (delivered : source.deliveries = lines.map fun line => .line (Utf8.encode line)) :
    let progress := converter.convertLines lines
    conversion.unread.deliveries = (progress.left.map fun line => .line (Utf8.encode line)) ∧
      match progress.error? with
      | some error => conversion.result = .error error ∧ conversion.converter = progress.converter
      | none =>
          conversion.result = progress.converter.finish.1 ∧
            conversion.converter = progress.converter.finish.2 := by
  induction run generalizing lines with
  | line read taken more ih =>
      rcases Source.readLine_of_deliveries_eq_texts delivered read with
        ⟨line, rest, rfl, same, others⟩ | ⟨_, same, _⟩ <;> cases same
      rw [convertLines_cons, taken]
      exact ih others
  | unwritten read taken =>
      rcases Source.readLine_of_deliveries_eq_texts delivered read with
        ⟨line, rest, rfl, same, others⟩ | ⟨_, same, _⟩ <;> cases same
      rw [convertLines_cons, taken]
      exact ⟨others, rfl, rfl⟩
  | unread read =>
      rcases Source.readLine_of_deliveries_eq_texts delivered read with
        ⟨_, _, _, same, _⟩ | ⟨_, same, _⟩ <;> cases same
  | ended read =>
      rcases Source.readLine_of_deliveries_eq_texts delivered read with
        ⟨_, _, _, same, _⟩ | ⟨rfl, _, nothing⟩
      · cases same
      · exact ⟨nothing, rfl, rfl⟩

/-- To convert the bytes of a text, however they are divided, is to take up the lines of the text
one by one: the sinks then hold the same, the counts are the same, and what is unread are the bytes
of the lines that are left. If a line could not be written, its error is the result and nothing was
flushed. Otherwise the table was flushed, and the diagnostics if that worked, and the result is the
first flush that failed or the counts. -/
theorem convert_line_by_line {source : Source} {text : String} (steady : source.Steady)
    (encoded : source.bytes = Utf8.encode text) (converter : Converter) :
    let conversion := converter.convert source
    let progress := converter.convertLines (Text.lines text)
    conversion.converter.table.bytes = progress.converter.table.bytes ∧
      conversion.converter.diagnostics.bytes = progress.converter.diagnostics.bytes ∧
      conversion.converter.summary = progress.converter.summary ∧
      conversion.unread.Steady ∧
      conversion.unread.bytes = progress.left.flatMap Utf8.encode ∧
      (∀ error, progress.error? = some error →
        conversion.result = .error error ∧
          conversion.converter.table.flushes = converter.table.flushes ∧
          conversion.converter.diagnostics.flushes = converter.diagnostics.flushes) ∧
      (progress.error? = none →
        let tableFlush := progress.converter.table.flush.1
        let diagnosticsFlush := progress.converter.diagnostics.flush.1
        conversion.result =
            (match tableFlush, diagnosticsFlush with
              | .error failure, _ => .error (.write .table failure)
              | .ok (), .error failure => .error (.write .diagnostics failure)
              | .ok (), .ok () => .ok progress.converter.summary) ∧
          conversion.converter.table.flushes = converter.table.flushes + 1 ∧
          conversion.converter.diagnostics.flushes =
            converter.diagnostics.flushes + if tableFlush.isOk then 1 else 0) := by
  intro conversion progress
  have delivered : source.deliveries =
      (Text.lines text).map fun line => .line (Utf8.encode line) := by
    rw [steady.deliveries_eq, encoded, Text.lines_encode, List.map_map]
    rfl
  have run := converter.runs source
  have unreadSteady := run.steady_unread steady
  rcases run.convertLines_eq delivered with ⟨left, ends⟩
  have unread : conversion.unread.bytes = progress.left.flatMap Utf8.encode := by
    rw [List.flatMap_def]
    apply unreadSteady.bytes_eq_flatten
    rw [List.map_map]
    exact left
  have tableLike : progress.converter.table.FlushesLike converter.table :=
    converter.flushesLike_convertLines (Text.lines text) .table
  have diagnosticsLike : progress.converter.diagnostics.FlushesLike converter.diagnostics :=
    converter.flushesLike_convertLines (Text.lines text) .diagnostics
  cases failed : progress.error? with
  | some error =>
      rw [failed] at ends
      rcases ends with ⟨result, last⟩
      rw [last]
      refine ⟨rfl, rfl, rfl, unreadSteady, unread, ?_, ?_⟩
      · intro error' same
        cases same
        exact ⟨result, tableLike.flushes, diagnosticsLike.flushes⟩
      · intro none
        cases none
  | none =>
      rw [failed] at ends
      rcases ends with ⟨result, last⟩
      rcases progress.converter.finish_keeps with ⟨tableKept, diagnosticsKept, _, summaryKept⟩
      rcases progress.converter.finish_flushes with ⟨finished, tableFlushed, diagnosticsFlushed⟩
      rw [last]
      refine ⟨tableKept, diagnosticsKept, summaryKept, unreadSteady, unread, ?_, ?_⟩
      · intro error some
        cases some
      · intro _
        exact ⟨result.trans finished, by rw [tableFlushed, tableLike.flushes],
          by rw [diagnosticsFlushed, diagnosticsLike.flushes]⟩

/-- The table refuses the second of four lines. The two after it are left, and nothing was
flushed. -/
theorem convert_line_by_line_up_to_refusal :
    let source : Source :=
      [.bytes (Utf8.encode "x\n'' (a) as "), .bytes (Utf8.encode "B:\ny\nz")]
    let converter : Converter := { table := .broken, diagnostics := {}, style := .plain }
    let conversion := converter.convert source
    source.Steady ∧ source.bytes = Utf8.encode "x\n'' (a) as B:\ny\nz" ∧
      conversion.result = .error (.write .table .brokenPipe) ∧
      conversion.converter.table.flushes = 0 ∧
      conversion.converter.diagnostics.bytes = Utf8.encode "Did not match line: x\n" ∧
      conversion.unread.bytes = Utf8.encode "y\nz" := by
  intro source converter conversion
  have steady : source.Steady := by decide
  have encoded : source.bytes = Utf8.encode "x\n'' (a) as B:\ny\nz" := by decide
  rcases convert_line_by_line steady encoded converter with
    ⟨_, diagnostics, _, _, unread, failed, _⟩
  rcases failed (.write .table .brokenPipe) (by decide +kernel) with ⟨result, flushes, _⟩
  refine ⟨steady, encoded, result, flushes, diagnostics.trans ?_, unread.trans ?_⟩
  · decide +kernel
  · decide +kernel

end Converter

end ExpectationTable
