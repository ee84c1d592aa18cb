/-!
# What a text begins with

Two ways to take the beginning off a text: a literal, which is either there or not, and a word,
which reaches as far as its characters do. Both give what follows, so that reading can go on from
there.
-/

namespace ExpectationTable.Text

/-- What follows the literal that a text begins with. -/
def after? (literal : String) (text : List Char) : Option (List Char) :=
  literal.toList.isPrefixOf? text

/-- The accepted characters that a text begins with, at least one and as many as there are, and what
follows them. -/
def word? (accepted : Char → Bool) (text : List Char) : Option (String × List Char) :=
  match text.takeWhile accepted with
  | [] => none
  | word => some (String.ofList word, text.dropWhile accepted)

/-- A text begins with a literal if it is that literal and what follows it. -/
theorem after?_eq_some_iff {literal : String} {text rest : List Char} :
    after? literal text = some rest ↔ text = literal.toList ++ rest := by
  rw [after?]
  generalize literal.toList = expected
  induction expected generalizing text with
  | nil =>
      change some text = some rest ↔ text = rest
      exact Option.some_inj
  | cons c expected ih =>
      cases text with
      | nil =>
          change none = some rest ↔ [] = c :: (expected ++ rest)
          simp
      | cons d text =>
          change (if c == d then expected.isPrefixOf? text else none) = some rest ↔
            d :: text = c :: (expected ++ rest)
          by_cases same : c = d
          · subst same
            simp [ih]
          · simp [same, Ne.symm same]

/-- A text begins with a word if it is accepted characters, at least one, and a rest that does not
begin with another. -/
theorem word?_eq_some_iff {accepted : Char → Bool} {text rest : List Char} {word : String} :
    word? accepted text = some (word, rest) ↔
      text = word.toList ++ rest ∧ word.toList ≠ [] ∧ (∀ c ∈ word.toList, accepted c = true) ∧
        ∀ c ∈ rest.head?, accepted c = false := by
  constructor
  · intro found
    rw [word?] at found
    split at found
    next => cases found
    next nonempty =>
      obtain ⟨rfl, rfl⟩ := Prod.mk.inj (Option.some.inj found)
      rw [String.toList_ofList]
      refine ⟨List.takeWhile_append_dropWhile.symm, nonempty, ?_, ?_⟩
      · exact List.all_eq_true.mp List.all_takeWhile
      · intro c first
        have stop := List.head?_dropWhile_not accepted text
        rw [first] at stop
        exact stop
  · rintro ⟨rfl, nonempty, inside, outside⟩
    have stop : rest.takeWhile accepted = [] ∧ rest.dropWhile accepted = rest := by
      cases rest with
      | nil => exact ⟨rfl, rfl⟩
      | cons c rest =>
          have refused : accepted c = false := outside c rfl
          simp [refused]
    rw [word?, List.takeWhile_append_of_pos inside, List.dropWhile_append_of_pos inside, stop.1,
      stop.2, List.append_nil]
    split
    next empty => exact absurd empty nonempty
    next => rw [String.ofList_toList]

end ExpectationTable.Text
