import ExpectationTable.Proofs.Expectation.RoundTrip

/-!
# What an entry tells

Nothing is escaped in an entry, and so a quote in it may be a quote of one of its texts. An entry
still tells what its expectation was, if the expected text holds no quote: neither type can hold
one, and so the parts can be told from each other one by one, from the right to the left. Only an
expected text that is left out looks as an empty one does.
-/

namespace ExpectationTable

/-- Texts that a character divides, and that do not have it any more behind that, are divided in one
way only. -/
theorem eq_and_eq_of_append_cons_eq {c : Char} {left right leftRest rightRest : List Char}
    (leftAbsent : c ∉ leftRest) (rightAbsent : c ∉ rightRest)
    (same : left ++ c :: leftRest = right ++ c :: rightRest) :
    left = right ∧ leftRest = rightRest := by
  rcases List.append_eq_append_iff.mp same with ⟨between, split, rest⟩ | ⟨between, split, rest⟩
  · cases between with
    | nil => exact ⟨by rw [split, List.append_nil], (List.cons.inj rest).2⟩
    | cons d between =>
        rw [(List.cons.inj rest).2] at leftAbsent
        simp at leftAbsent
  · cases between with
    | nil => exact ⟨by rw [split, List.append_nil], (List.cons.inj rest).2.symm⟩
    | cons d between =>
        rw [(List.cons.inj rest).2] at rightAbsent
        simp at rightAbsent

theorem Ending.WellFormed.doubleQuote_notMem {ending : Ending} (formed : ending.WellFormed) :
    '"' ∉ ending.typeName.toList ∧ '"' ∉ ending.sqlType.toList := by
  constructor
  · intro member
    simpa using formed.typeName_word _ member
  · intro member
    exact absurd (formed.sqlType_letter _ member) (by decide)

namespace Expectation

/-- What the table says of an expectation. -/
def fields (expectation : Expectation) : String × String × String × String :=
  (expectation.value, expectation.typeName, expectation.sqlType, expectation.expectedOrEmpty)

theorem toList_entry (expectation : Expectation) :
    expectation.entry.toList =
      "\x7b std::make_tuple(".toList ++ '"' :: expectation.value.toList ++ '"' :: ", ".toList ++
        '"' :: expectation.typeName.toList ++ '"' :: ", ".toList ++
        '"' :: expectation.sqlType.toList ++ '"' :: "), ".toList ++
        '"' :: expectation.expectedOrEmpty.toList ++ "\" \x7d,".toList := by
  simp [entry, entryFragments]

/-- Well formed expectations whose expected texts hold no quote have the same entry only if they
have the same fields. -/
theorem fields_eq_of_entry_eq {left right : Expectation} (leftFormed : left.WellFormed)
    (rightFormed : right.WellFormed) (leftClear : '"' ∉ left.expectedOrEmpty.toList)
    (rightClear : '"' ∉ right.expectedOrEmpty.toList) (same : left.entry = right.entry) :
    left.fields = right.fields := by
  rcases leftFormed.ending.doubleQuote_notMem with ⟨leftType, leftSqlType⟩
  rcases rightFormed.ending.doubleQuote_notMem with ⟨rightType, rightSqlType⟩
  have whole := congrArg String.toList same
  rw [toList_entry, toList_entry] at whole
  -- Each step takes off what follows the last quote that is left.
  rcases eq_and_eq_of_append_cons_eq leftClear rightClear (List.append_cancel_right whole) with
    ⟨upToSqlType, expected⟩
  rcases eq_and_eq_of_append_cons_eq (by decide) (by decide) upToSqlType with ⟨upToSqlType, _⟩
  rcases eq_and_eq_of_append_cons_eq leftSqlType rightSqlType upToSqlType with ⟨upToType, sqlType⟩
  rcases eq_and_eq_of_append_cons_eq (by decide) (by decide) upToType with ⟨upToType, _⟩
  rcases eq_and_eq_of_append_cons_eq leftType rightType upToType with ⟨upToValue, typeName⟩
  rcases eq_and_eq_of_append_cons_eq (by decide) (by decide) upToValue with ⟨upToValue, _⟩
  have value := (List.cons.inj (List.append_cancel_left upToValue)).2
  simp only [String.toList_inj] at value typeName sqlType expected
  rw [fields, fields, value, typeName, sqlType, expected]

/-- Where the expected text holds quotes, it may be taken for the end of a value. -/
example :
    let left : Expectation :=
      { value := "a", typeName := "b", sqlType := "C", expected := some "d\", \"b\", \"C\"), \"e" }
    let right : Expectation :=
      { value := "a\", \"b\", \"C\"), \"d", typeName := "b", sqlType := "C", expected := some "e" }
    left.entry = right.entry ∧ left.fields ≠ right.fields := by
  decide

theorem length_entry (expectation : Expectation) :
    expectation.entry.toList.length + (if expectation.expected.isSome then 1 else 0) =
      expectation.text.toList.length + 26 := by
  rw [toList_entry, toList_text, Ending.toList_text]
  cases expected : expectation.expected <;> simp [expectedOrEmpty, expected] <;> omega

theorem getLast?_expectedOrEmpty_eq_of_entry_eq {left right : Expectation}
    (same : left.entry = right.entry)
    (last : left.expectedOrEmpty.toList.getLast? = some '\r') :
    right.expectedOrEmpty.toList.getLast? = some '\r' := by
  have whole := congrArg String.toList same
  rw [toList_entry, toList_entry] at whole
  have inner := congrArg List.getLast? (List.append_cancel_right whole)
  simp only [List.getLast?_append, List.getLast?_cons, Option.some_or, last, Option.getD_some,
    Option.some.injEq] at inner
  cases final : right.expectedOrEmpty.toList.getLast? with
  | none => simp [final] at inner
  | some c => simpa [final] using inner.symm

/-- An expectation whose written form goes on with a carriage return behind that of another has
another entry. -/
theorem entry_ne_of_text_eq_append_return {left right : Expectation}
    (longer : right.text = left.text ++ "\r") : right.entry ≠ left.entry := by
  intro same
  have last : right.text.toList.getLast? = some '\r' := by
    rw [longer, String.toList_append]
    exact List.getLast?_concat
  rcases getLast?_toList_text_eq_return_iff.mp last with ⟨expected, present, final⟩
  -- Both expected texts are there, and so the entries differ in length as the written forms do.
  have leftLast := getLast?_expectedOrEmpty_eq_of_entry_eq same
    (by rwa [expectedOrEmpty_of_some present])
  have leftPresent : left.expected.isSome = true := by
    cases absent : left.expected with
    | none => simp [expectedOrEmpty_of_none absent] at leftLast
    | some text => rfl
  have rightPresent : right.expected.isSome = true := Option.isSome_of_mem present
  have leftLength := left.length_entry
  have rightLength := right.length_entry
  have textLength : right.text.toList.length = left.text.toList.length + 1 := by
    rw [longer, String.toList_append, List.length_append]
    rfl
  rw [leftPresent, if_pos rfl] at leftLength
  rw [rightPresent, if_pos rfl, same] at rightLength
  omega

end Expectation

end ExpectationTable
