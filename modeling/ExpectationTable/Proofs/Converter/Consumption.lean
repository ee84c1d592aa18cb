import ExpectationTable.Proofs.Converter.Run

/-!
# What a conversion uses up

A conversion uses up deliveries of its source from the first on and leaves the others unread. The
lines among them that are well encoded are the lines that it takes up. All others are errors of the
input, and such an error is the last thing that a conversion uses up. If nothing is used up, there
was nothing left.
-/

namespace ExpectationTable

/-- The error, if it is the input that is at fault and not a stream. -/
def ConversionError.ofInput? : ConversionError → Option ConversionError
  | .write .. => none
  | error => some error

/-- The error of the input that ended the conversion, if one did. -/
def Conversion.inputError? (conversion : Conversion) : Option ConversionError :=
  match conversion.result with
  | .ok _ => none
  | .error error => error.ofInput?

@[simp] theorem ConversionError.ofInput?_ofReadFailure (line : Nat) (failure : Failure) :
    (ofReadFailure line failure).ofInput? = some (ofReadFailure line failure) := by
  rw [ofReadFailure]
  split <;> rfl

namespace Delivery

def text? : Delivery → Option String
  | .line bytes => Utf8.decode? bytes
  | .failure _ | .endOfInput => none

/-- The error for the delivery after so many lines. -/
def inputError? (lines : Nat) : Delivery → Option ConversionError
  | .line bytes => if (Utf8.decode? bytes).isNone then some (.illEncoded (lines + 1)) else none
  | .failure cause => some (.ofReadFailure (lines + 1) cause)
  | .endOfInput => none

/-- The failure that a reader of the delivery meets, if it meets one. -/
def fault? (delivery : Delivery) : Option Failure :=
  match delivery.reading with
  | .failed cause => some cause
  | .line _ | .endOfInput => none

theorem fault?_eq_some_iff {delivery : Delivery} {failure : Failure} :
    delivery.fault? = some failure ↔
      delivery = .failure failure ∨
        ∃ bytes, delivery = .line bytes ∧ Utf8.decode? bytes = none ∧ failure = .illEncoded := by
  cases delivery with
  | line bytes =>
      cases decoded : Utf8.decode? bytes with
      | some text => simp [fault?, reading, decoded]
      | none => simp [fault?, reading, decoded, eq_comm]
  | failure cause => simp [fault?, reading]
  | endOfInput => simp [fault?, reading]

theorem inputError?_eq_map (lines : Nat) (delivery : Delivery) :
    delivery.inputError? lines = delivery.fault?.map (.ofReadFailure (lines + 1)) := by
  cases delivery with
  | line bytes =>
      cases decoded : Utf8.decode? bytes <;> simp [inputError?, fault?, reading, decoded]
  | failure cause => rfl
  | endOfInput => rfl

/-- The errors for the deliveries after so many lines, one for each failure and for each line that
is not well encoded. Only well encoded lines are counted. -/
def inputErrors : Nat → List Delivery → List ConversionError
  | _, [] => []
  | lines, delivery :: more =>
      (delivery.inputError? lines).toList ++
        inputErrors (lines + (delivery.text?).toList.length) more

/-- The errors of later deliveries are counted on from the lines in front of them. -/
theorem inputErrors_append (lines : Nat) (first second : List Delivery) :
    inputErrors lines (first ++ second) =
      inputErrors lines first ++
        inputErrors (lines + (first.filterMap text?).length) second := by
  induction first generalizing lines with
  | nil => rfl
  | cons delivery first ih =>
      rw [List.cons_append, inputErrors, ih, inputErrors, List.append_assoc]
      cases text : delivery.text? <;> simp [text, Nat.add_assoc, Nat.add_comm 1]

theorem inputErrors_map_encode (lines : Nat) (texts : List String) :
    inputErrors lines (texts.map fun text => .line (Utf8.encode text)) = [] := by
  induction texts generalizing lines with
  | nil => rfl
  | cons text texts ih => simp [inputErrors, inputError?, ih]

theorem filterMap_text?_map_encode (texts : List String) :
    (texts.map fun text => line (Utf8.encode text)).filterMap text? = texts := by
  rw [List.filterMap_map]
  simp [Function.comp_def, text?]

end Delivery

namespace Converter

variable {source : Source} {converter : Converter} {handled : List Handling}
  {conversion : Conversion}

/-- The deliveries that a conversion uses up, and what becomes of them. -/
structure Consumes (source : Source) (converter : Converter) (handled : List Handling)
    (conversion : Conversion) (consumed : List Delivery) : Prop where
  delivered : source.deliveries = consumed ++ conversion.unread.deliveries
  texts : handled.map Handling.line = consumed.filterMap Delivery.text?
  errors : conversion.inputError?.toList = Delivery.inputErrors converter.summary.lines consumed
  counted : conversion.converter.summary.lines = converter.summary.lines + handled.length
  progress : consumed = [] → conversion.unread = []

theorem LineStep.ofInput?_eq_none {next : Converter} {line : String} {error : ConversionError}
    (step : LineStep converter line (.error error) next) : error.ofInput? = none := by
  cases step <;> rfl

theorem inputError?_finish (converter : Converter) (rest : Source) :
    Conversion.inputError? ⟨converter.finish.1, converter.finish.2, rest⟩ = none := by
  rw [Conversion.inputError?]
  split
  next => rfl
  next error failed =>
    rcases exists_write_of_finish failed with ⟨stream, failure, rfl⟩
    rfl

namespace Runs

/-- A run uses up the lines that it takes up and at most one more delivery, which is no such line.
If a failure is met in that one, it is the error that ends the run, and otherwise no error of the
input does. -/
theorem exists_last (run : Runs source converter handled conversion) :
    ∃ last : Option Delivery,
      source.deliveries =
          ((handled.map Handling.line).map fun text => .line (Utf8.encode text)) ++ last.toList ++
            conversion.unread.deliveries ∧
        last.bind Delivery.text? = none ∧
        conversion.inputError? =
          (last.bind Delivery.fault?).map
            (.ofReadFailure (conversion.converter.summary.lines + 1)) ∧
        conversion.converter.summary.lines = converter.summary.lines + handled.length ∧
        (handled = [] → last = none → conversion.unread = []) := by
  induction run with
  | line read taken more ih =>
      rcases Source.deliveries_of_readLine_eq_line read with ⟨bytes, decoded, first⟩
      rcases ih with ⟨last, others, unfit, error, counted, _⟩
      obtain rfl := Utf8.decode?_eq_some_iff.mp decoded
      have step := LineStep.of_convertLine taken
      refine ⟨last, ?_, unfit, error, ?_, (List.cons_ne_nil _ _).elim⟩
      · rw [first, others]
        rfl
      · rw [counted, step.summary_lines, List.length_cons, Nat.add_assoc, Nat.add_comm 1]
  | unwritten read taken =>
      rcases Source.deliveries_of_readLine_eq_line read with ⟨bytes, decoded, first⟩
      obtain rfl := Utf8.decode?_eq_some_iff.mp decoded
      have step := LineStep.of_convertLine taken
      exact ⟨none, first, rfl, step.ofInput?_eq_none, step.summary_lines,
        (List.cons_ne_nil _ _).elim⟩
  | unread read =>
      rcases Source.deliveries_of_readLine_eq_failed read with first | ⟨bytes, invalid, rfl, first⟩
      · refine ⟨some (.failure _), first, rfl, ?_, rfl, ?_⟩
        · simp [Conversion.inputError?, Delivery.fault?, Delivery.reading]
        · intro _ none
          cases none
      · refine ⟨some (.line bytes), first, invalid, ?_, rfl, ?_⟩
        · simp [Conversion.inputError?, ConversionError.ofInput?, Delivery.fault?,
            Delivery.reading, invalid]
        · intro _ none
          cases none
  | @ended _ _ converter read =>
      have counted := congrArg Summary.lines converter.finish_keeps.2.2.2
      rcases Source.deliveries_of_readLine_eq_endOfInput read with first | ⟨nothing, rfl⟩
      · refine ⟨some .endOfInput, first, rfl, ?_, counted, ?_⟩
        · simp [inputError?_finish, Delivery.fault?, Delivery.reading]
        · intro _ none
          cases none
      · refine ⟨none, nothing, rfl, ?_, counted, fun _ _ => rfl⟩
        simp [inputError?_finish]

theorem exists_consumes (run : Runs source converter handled conversion) :
    ∃ consumed, Consumes source converter handled conversion consumed := by
  rcases run.exists_last with ⟨last, delivered, unfit, error, counted, progress⟩
  refine ⟨_, delivered, ?_, ?_, counted, ?_⟩
  · rw [List.filterMap_append, Delivery.filterMap_text?_map_encode]
    cases last with
    | none => simp
    | some delivery =>
        have none : delivery.text? = none := unfit
        simp [none]
  · rw [error, Delivery.inputErrors_append, Delivery.inputErrors_map_encode,
      Delivery.filterMap_text?_map_encode, List.length_map, ← counted]
    cases last with
    | none => rfl
    | some delivery => simp [Delivery.inputErrors, Delivery.inputError?_eq_map]
  · intro nothing
    rcases List.append_eq_nil_iff.mp nothing with ⟨noLine, noLast⟩
    rw [List.map_map, List.map_eq_nil_iff] at noLine
    exact progress noLine (Option.toList_eq_nil_iff.mp noLast)

theorem eq_finish (run : Runs source converter handled conversion)
    (nothing : source.deliveries = []) :
    handled = [] ∧ conversion = ⟨converter.finish.1, converter.finish.2, []⟩ := by
  cases run with
  | line read taken more =>
      rcases Source.deliveries_of_readLine_eq_line read with ⟨bytes, _, first⟩
      cases nothing.symm.trans first
  | unwritten read taken =>
      rcases Source.deliveries_of_readLine_eq_line read with ⟨bytes, _, first⟩
      cases nothing.symm.trans first
  | unread read =>
      rcases Source.deliveries_of_readLine_eq_failed read with first | ⟨bytes, _, _, first⟩ <;>
        cases nothing.symm.trans first
  | ended read =>
      rcases Source.deliveries_of_readLine_eq_endOfInput read with first | ⟨_, rfl⟩
      · cases nothing.symm.trans first
      · exact ⟨rfl, rfl⟩

/-- A run that ends with an error of the input has only taken up its lines, and the error is about
the line after them. -/
theorem replay_of_inputError (run : Runs source converter handled conversion)
    {error : ConversionError} (failed : conversion.inputError? = some error) :
    conversion.converter = converter.replay (handled.map Handling.line) ∧
      ∃ failure, error = .ofReadFailure (conversion.converter.summary.lines + 1) failure := by
  induction run with
  | line read taken more ih =>
      simpa [taken] using ih failed
  | unwritten read taken =>
      have writing := (LineStep.of_convertLine taken).ofInput?_eq_none
      cases writing.symm.trans failed
  | @unread _ _ converter failure read =>
      refine ⟨rfl, failure, ?_⟩
      simpa [Conversion.inputError?] using failed.symm
  | @ended _ rest converter read =>
      cases (converter.inputError?_finish rest).symm.trans failed

end Runs

end Converter

end ExpectationTable
