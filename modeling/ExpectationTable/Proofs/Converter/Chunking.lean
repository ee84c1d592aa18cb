import ExpectationTable.Proofs.Converter.Run
import ExpectationTable.Proofs.Source.Steady
import Mathlib.Control.Monad.Basic

/-!
# Division into chunks

A conversion depends on its source only through what the source delivers. So it does not matter how
the bytes of an input are divided into chunks, be it within a character or within a line ending, nor
where empty chunks and interruptions come in: the conversion is that of all bytes in a single chunk.
-/

namespace ExpectationTable.Converter

namespace Runs

variable {source : Source} {converter : Converter} {handled : List Handling}
  {conversion : Conversion}

/-- Another source that delivers the same is converted the same, and what it has left still delivers
the same. -/
theorem convert_eq (run : Runs source converter handled conversion) {other : Source}
    (same : other.deliveries = source.deliveries) :
    (converter.convert other).result = conversion.result ∧
      (converter.convert other).converter = conversion.converter ∧
      (converter.convert other).unread.deliveries = conversion.unread.deliveries := by
  induction run generalizing other with
  | line read taken more ih =>
      rcases Source.exists_readLine_of_deliveries_eq same read with ⟨after, otherRead, later⟩
      rw [convert_of_readLine_eq_line _ otherRead, taken]
      exact ih later
  | unwritten read taken =>
      rcases Source.exists_readLine_of_deliveries_eq same read with ⟨after, otherRead, later⟩
      rw [convert_of_readLine_eq_line _ otherRead, taken]
      exact ⟨rfl, rfl, later⟩
  | unread read =>
      rcases Source.exists_readLine_of_deliveries_eq same read with ⟨after, otherRead, later⟩
      rw [convert_of_readLine_eq_failed _ otherRead]
      exact ⟨rfl, rfl, later⟩
  | ended read =>
      rcases Source.exists_readLine_of_deliveries_eq same read with ⟨after, otherRead, later⟩
      rw [convert_of_readLine_eq_endOfInput _ otherRead]
      exact ⟨rfl, rfl, later⟩

theorem steady_unread (run : Runs source converter handled conversion) (steady : source.Steady) :
    conversion.unread.Steady := by
  induction run with
  | line read taken more ih => exact ih (steady.of_readLine read)
  | unwritten read taken => exact steady.of_readLine read
  | unread read => exact steady.of_readLine read
  | ended read => exact steady.of_readLine read

end Runs

/-- However the bytes of an input are divided, and wherever it is interrupted, its conversion ends
as that of all bytes in a single chunk. The converter is then the same in all its parts, and the
same bytes are left to be read. -/
theorem convert_joined {source : Source} (steady : source.Steady) (converter : Converter) :
    let divided := converter.convert source
    let joined := converter.convert [.bytes source.bytes]
    divided.result = joined.result ∧
      divided.converter = joined.converter ∧
      divided.unread.Steady ∧ joined.unread.Steady ∧
      divided.unread.bytes = joined.unread.bytes := by
  intro divided joined
  have single : Source.Steady [.bytes source.bytes] := Source.steady_map_bytes [source.bytes]
  have same : source.deliveries = Source.deliveries [.bytes source.bytes] := by
    rw [steady.deliveries_eq, single.deliveries_eq, Source.bytes, Source.bytes, List.append_nil]
  rcases (converter.runs [.bytes source.bytes]).convert_eq same with ⟨result, last, later⟩
  have dividedSteady := (converter.runs source).steady_unread steady
  have joinedSteady := (converter.runs [.bytes source.bytes]).steady_unread single
  exact ⟨result, last, dividedSteady, joinedSteady, joinedSteady.bytes_eq dividedSteady later⟩

/-- The bytes of a character and a line ending are divided. The table takes the first entry and nine
bytes of the second, and the third line is left. -/
theorem convert_joined_divided_ending :
    let limit : Limit :=
      { capacity := 50
        refusal := .failing .brokenPipe
        recurrence := .always
        interruptions_end := by decide }
    let converter : Converter :=
      { table := { limit := some limit }, diagnostics := {}, style := .plain }
    let source : Source :=
      [.bytes (Utf8.encode "'" ++ [0xc3]), .failure ⟨.interrupted, ""⟩, .bytes [],
        .bytes ([0xa9] ++ Utf8.encode "' (a) as B:\r"), .bytes (Utf8.encode "\n'' (c) as D:\nx\n")]
    let divided := converter.convert source
    let joined := converter.convert [.bytes source.bytes]
    source.Steady ∧ source.bytes = Utf8.encode "'é' (a) as B:\r\n'' (c) as D:\nx\n" ∧
      divided.result = joined.result ∧
      joined.result = .error (.write .table .brokenPipe) ∧
      divided.converter.table.bytes = joined.converter.table.bytes ∧
      joined.converter.table.bytes =
        Utf8.encode "\x7b std::make_tuple(\"é\", \"a\", \"B\"), \"\" \x7d,\n\x7b std::ma" ∧
      divided.converter.summary = { lines := 2, matched := 1 } ∧
      divided.unread.bytes = Utf8.encode "x\n" := by
  intro limit converter source divided joined
  have steady : source.Steady := by decide
  have refused : joined.result = .error (.write .table .brokenPipe) := by decide +kernel
  have written : joined.converter.table.bytes =
      Utf8.encode "\x7b std::make_tuple(\"é\", \"a\", \"B\"), \"\" \x7d,\n\x7b std::ma" := by
    decide +kernel
  have counted : joined.converter.summary = { lines := 2, matched := 1 } := by decide +kernel
  have left : joined.unread.bytes = Utf8.encode "x\n" := by decide +kernel
  rcases convert_joined steady converter with ⟨result, last, _, _, unread⟩
  exact ⟨steady, by decide, result, refused, congrArg (·.table.bytes) last, written,
    (congrArg Converter.summary last).trans counted, unread.trans left⟩

end ExpectationTable.Converter
