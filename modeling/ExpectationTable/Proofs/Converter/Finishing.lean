import ExpectationTable.Proofs.Converter.Consumption
import ExpectationTable.Proofs.Converter.Destination

/-!
# When a conversion finishes

A conversion finishes if nothing ends it before: its input comes to an end without a failure and
without bytes that are no text, and every line of it is written. Only then are the sinks asked to
flush, and they are asked when all the lines are taken up.
-/

namespace ExpectationTable

/-- Whether the source comes to an end of the input, with nothing but well encoded lines before
it. -/
def Source.endsInOrder (source : Source) : Bool :=
  match source.deliveries.find? fun delivery => delivery.text?.isNone with
  | none | some .endOfInput => true
  | some (.line _) | some (.failure _) => false

theorem Source.endsInOrder_of_readLine_eq_line {source rest : Source} {text : String}
    (read : source.readLine = (.line text, rest)) : source.endsInOrder = rest.endsInOrder := by
  rcases deliveries_of_readLine_eq_line read with ⟨bytes, decoded, first⟩
  have fit : (Delivery.line bytes).text?.isNone = false := by simp [Delivery.text?, decoded]
  rw [endsInOrder, first, List.find?_cons_of_neg (by simp [fit])]
  rfl

theorem Source.endsInOrder_of_readLine_eq_failed {source rest : Source} {failure : Failure}
    (read : source.readLine = (.failed failure, rest)) : source.endsInOrder = false := by
  rcases deliveries_of_readLine_eq_failed read with first | ⟨bytes, invalid, rfl, first⟩
  · rw [endsInOrder, first, List.find?_cons_of_pos rfl]
  · rw [endsInOrder, first, List.find?_cons_of_pos (by simp [Delivery.text?, invalid])]

theorem Source.endsInOrder_of_readLine_eq_endOfInput {source rest : Source}
    (read : source.readLine = (.endOfInput, rest)) : source.endsInOrder = true := by
  rcases deliveries_of_readLine_eq_endOfInput read with first | ⟨nothing, _⟩
  · rw [endsInOrder, first, List.find?_cons_of_pos rfl]
  · rw [endsInOrder, nothing, List.find?_nil]

def Handling.isWritten (handling : Handling) : Bool :=
  handling.outcome.isOk

@[simp] theorem Handling.isWritten_ok (line : String) (outcome : Outcome) :
    isWritten ⟨line, .ok outcome⟩ = true := rfl

@[simp] theorem Handling.isWritten_error (line : String) (error : ConversionError) :
    isWritten ⟨line, .error error⟩ = false := rfl

namespace Converter

/-- The converter when all lines of the input are taken up and nothing was flushed yet, if it comes
so far: if the input can be read to its end, and all its lines are written. -/
def atEnd? (source : Source) (converter : Converter) : Option Converter :=
  let handled := converter.handlings source
  if source.endsInOrder && handled.all Handling.isWritten then
    some (converter.replay (handled.map Handling.line))
  else none

/-- A run that is not ended before finishes, and any other run leaves the converter as after its
lines. -/
theorem Runs.finishes_or_fails {source : Source} {converter : Converter} {handled : List Handling}
    {conversion : Conversion} (run : Runs source converter handled conversion) :
    let last := converter.replay (handled.map Handling.line)
    if source.endsInOrder && handled.all Handling.isWritten then
      conversion.result = last.finish.1 ∧ conversion.converter = last.finish.2
    else
      (∃ error, conversion.result = .error error) ∧ conversion.converter = last := by
  induction run with
  | line read taken more ih =>
      rw [Source.endsInOrder_of_readLine_eq_line read]
      simpa [taken] using ih
  | unwritten read taken =>
      simp [taken]
  | unread read =>
      simp [Source.endsInOrder_of_readLine_eq_failed read]
  | ended read =>
      simp [Source.endsInOrder_of_readLine_eq_endOfInput read]

theorem exists_finish_eq_ok_iff (converter : Converter) :
    (∃ summary, converter.finish.1 = .ok summary) ↔
      converter.table.flush.1 = .ok () ∧ converter.diagnostics.flush.1 = .ok () := by
  rw [converter.finish_flushes.1]
  rcases converter.table.flush.1 with failure | _
  · simp
  · rcases converter.diagnostics.flush.1 with failure | _ <;> simp

section Conversion

variable {source : Source} {converter : Converter}

/-- A conversion that comes to the end of its input finishes there, and has flushed nothing
before. -/
theorem convert_of_atEnd?_eq_some {last : Converter} (ended : converter.atEnd? source = some last) :
    (converter.convert source).result = last.finish.1 ∧
      (converter.convert source).converter = last.finish.2 ∧
      ∀ stream, (last.sink stream).flushes = (converter.sink stream).flushes := by
  have run := (converter.runs source).finishes_or_fails
  rw [atEnd?, Option.ite_none_right_eq_some] at ended
  rcases ended with ⟨ends, same⟩
  cases same
  rw [if_pos ends] at run
  exact ⟨run.1, run.2, fun stream => (flushesLike_replay _ converter stream).flushes⟩

/-- A conversion that does not come to the end of its input fails, and has flushed nothing. -/
theorem convert_of_atEnd?_eq_none (missed : converter.atEnd? source = none) :
    (∃ error, (converter.convert source).result = .error error) ∧
      ∀ stream, ((converter.convert source).converter.sink stream).flushes =
        (converter.sink stream).flushes := by
  have run := (converter.runs source).finishes_or_fails
  rw [atEnd?, ite_eq_right_iff] at missed
  have fails : ¬(source.endsInOrder && (converter.handlings source).all Handling.isWritten) :=
    fun ends => Option.some_ne_none _ (missed ends)
  rw [if_neg fails] at run
  refine ⟨run.1, ?_⟩
  intro stream
  rw [run.2]
  exact (flushesLike_replay _ converter stream).flushes

end Conversion

end Converter

end ExpectationTable
