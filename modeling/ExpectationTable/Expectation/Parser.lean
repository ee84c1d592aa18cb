import ExpectationTable.Expectation
import ExpectationTable.Text.LineEnding
import ExpectationTable.Text.Opening

/-!
# Reading an expectation

An ending can be read in one way only, from left to right. Which ending is meant is not as plain,
since a value may hold endings of its own: the rule is that the value is as long as it can be. So
the line is cut at its end first and then ever further to the left, until what is right of the cut
is an ending.
-/

namespace ExpectationTable

namespace Ending

/-- The ending that a text is, if it is one to its last character. -/
def parse? (text : List Char) : Option Ending := do
  let text ← Text.after? "' (" text
  let (typeName, text) ← Text.word? Text.isWordCharacter text
  let text ← Text.after? ") as " text
  let (sqlType, text) ← Text.word? isSqlTypeLetter text
  match ← Text.after? ":" text with
  | [] => some { typeName, sqlType, expected := none }
  | ' ' :: expected => some { typeName, sqlType, expected := some (String.ofList expected) }
  | _ => none

/-- A text is read as an ending exactly if the ending is well formed and written that way. -/
theorem parse?_eq_some_iff {text : List Char} {ending : Ending} :
    parse? text = some ending ↔ ending.WellFormed ∧ text = ending.text.toList := by
  rw [toList_text]
  constructor
  · intro parsed
    simp only [parse?, bind, Option.bind_eq_some_iff, Prod.exists] at parsed
    obtain ⟨afterQuote, opened, typeName, afterType, type, afterAs, closed, sqlType, afterSqlType,
      sql, clause, colon, result⟩ := parsed
    obtain rfl := Text.after?_eq_some_iff.mp opened
    obtain ⟨rfl, typeNonempty, typeWord, -⟩ := Text.word?_eq_some_iff.mp type
    obtain rfl := Text.after?_eq_some_iff.mp closed
    obtain ⟨rfl, sqlNonempty, sqlLetter, -⟩ := Text.word?_eq_some_iff.mp sql
    obtain rfl := Text.after?_eq_some_iff.mp colon
    split at result
    next =>
      obtain rfl := Option.some.inj result
      exact ⟨⟨typeNonempty, typeWord, sqlNonempty, sqlLetter⟩, rfl⟩
    next expected =>
      obtain rfl := Option.some.inj result
      exact ⟨⟨typeNonempty, typeWord, sqlNonempty, sqlLetter⟩, by simp⟩
    next => cases result
  · rintro ⟨⟨typeNonempty, typeWord, sqlNonempty, sqlLetter⟩, rfl⟩
    simp only [parse?, bind, Option.bind_eq_some_iff, Prod.exists]
    refine ⟨_, Text.after?_eq_some_iff.mpr rfl,
      _, _, Text.word?_eq_some_iff.mpr ⟨rfl, typeNonempty, typeWord, by simp⟩,
      _, Text.after?_eq_some_iff.mpr rfl,
      _, _, Text.word?_eq_some_iff.mpr ⟨rfl, sqlNonempty, sqlLetter, ?_⟩,
      _, Text.after?_eq_some_iff.mpr rfl, ?_⟩
    · intro c first
      obtain rfl : ':' = c := by simpa using first
      decide
    · obtain ⟨typeName, sqlType, expected⟩ := ending
      cases expected <;> simp

end Ending

namespace Expectation

/-- The expectation with the longest value. The text is cut in two: `before`, which is held in
reverse, and `rest`. As long as `rest` is no ending, the cut moves one character to the left. -/
def longest? (before rest : List Char) : Option Expectation :=
  match Ending.parse? rest, before with
  | some ending, _ => some { ending with value := String.ofList before.reverse }
  | none, [] => none
  | none, c :: before => longest? before (c :: rest)

/-- The expectation that a text without line ending is, if it is one. No part of an expectation can
hold a line feed. -/
def ofText? (text : String) : Option Expectation := do
  let body ← Text.after? "'" text.toList
  if '\n' ∈ body then none else longest? body.reverse []

/-- The expectation on a line, which may still have its ending. -/
def parse? (line : String) : Option Expectation :=
  ofText? (Text.trimLineEnding line)

end Expectation

end ExpectationTable
