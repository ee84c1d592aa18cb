/-!
# Line endings

A line is handed on together with its ending. Trimming takes off one final line feed, if there is
one, and then one final carriage return, if there is one. So the ending may be either of the two, or
a carriage return before a line feed. Only one of each goes; all earlier ones are text.
-/

namespace ExpectationTable.Text

/-- The text without its last character, if that is the given one. -/
def dropFinal (c : Char) (text : List Char) : List Char :=
  if text.getLast? = some c then text.dropLast else text

/-- The line without its ending. -/
def trimLineEnding (line : String) : String :=
  String.ofList (dropFinal '\r' (dropFinal '\n' line.toList))

@[simp] theorem dropFinal_nil (c : Char) : dropFinal c [] = [] := rfl

@[simp] theorem dropFinal_concat_self (c : Char) (text : List Char) :
    dropFinal c (text ++ [c]) = text := by
  simp [dropFinal]

theorem dropFinal_concat_of_ne {c final : Char} (other : final ≠ c) (text : List Char) :
    dropFinal c (text ++ [final]) = text ++ [final] := by
  simp [dropFinal, other]

theorem dropFinal_eq_or (c : Char) (text : List Char) :
    dropFinal c text = text ∨ text = dropFinal c text ++ [c] := by
  rw [dropFinal]
  split
  next last =>
    right
    obtain ⟨start, rfl⟩ := List.getLast?_eq_some_iff.mp last
    simp
  next => exact .inl rfl

@[simp] theorem toList_trimLineEnding (line : String) :
    (trimLineEnding line).toList = dropFinal '\r' (dropFinal '\n' line.toList) := by
  simp [trimLineEnding]

end ExpectationTable.Text
