import ExpectationTable.Expectation.Parser

/-!
# Readings of a text

A text can be read as several expectations, since a value may hold whole endings of its own. Which
of them the parser gives is settled here: it misses no text that can be read at all, and of all
readings it takes the one with the longest value. No two readings have values of one length, so that
this is a single one.
-/

namespace ExpectationTable

namespace Ending

theorem eq_of_toList_text_eq {left right : Ending} (leftFormed : left.WellFormed)
    (rightFormed : right.WellFormed) (equal : left.text.toList = right.text.toList) :
    left = right := by
  have leftRead : parse? left.text.toList = some left :=
    parse?_eq_some_iff.mpr ⟨leftFormed, rfl⟩
  have rightRead : parse? left.text.toList = some right :=
    parse?_eq_some_iff.mpr ⟨rightFormed, equal⟩
  rw [leftRead] at rightRead
  exact Option.some.inj rightRead

theorem WellFormed.lineFeed_notMem_typeName {ending : Ending} (formed : ending.WellFormed) :
    '\n' ∉ ending.typeName.toList := by
  intro member
  simpa using formed.typeName_word _ member

theorem WellFormed.lineFeed_notMem_sqlType {ending : Ending} (formed : ending.WellFormed) :
    '\n' ∉ ending.sqlType.toList := by
  intro member
  exact absurd (formed.sqlType_letter _ member) (by decide)

theorem lineFeed_mem_toList_text_iff {ending : Ending} (formed : ending.WellFormed) :
    '\n' ∈ ending.text.toList ↔ ∃ expected ∈ ending.expected, '\n' ∈ expected.toList := by
  rw [toList_text]
  cases ending.expected <;>
    simp [formed.lineFeed_notMem_typeName, formed.lineFeed_notMem_sqlType]

end Ending

namespace Expectation

theorem wellFormed_iff {expectation : Expectation} :
    expectation.WellFormed ↔
      expectation.toEnding.WellFormed ∧
        '\n' ∉ expectation.value.toList ++ expectation.toEnding.text.toList := by
  rw [List.mem_append, not_or]
  constructor
  · intro formed
    rw [Ending.lineFeed_mem_toList_text_iff formed.ending]
    refine ⟨formed.ending, formed.value_line, ?_⟩
    intro ⟨expected, present, member⟩
    exact formed.expected_line expected present member
  · intro ⟨ending, value, line⟩
    rw [Ending.lineFeed_mem_toList_text_iff ending] at line
    refine ⟨ending, value, ?_⟩
    intro expected present member
    exact line ⟨expected, present, member⟩

/-- The text is a way to write the expectation. -/
structure IsReadingOf (text : String) (expectation : Expectation) : Prop where
  formed : expectation.WellFormed
  written : expectation.text = text

/-- The characters in front of `rest` can be cut into a value and the beginning of an ending that
goes on with `rest`. They are held in reverse, and so the value comes last. -/
def CutsInto (before rest : List Char) (expectation : Expectation) : Prop :=
  ∃ start, before = start ++ expectation.value.toList.reverse ∧
    Ending.parse? (start.reverse ++ rest) = some expectation.toEnding

theorem cutsInto_nil_iff {rest : List Char} {expectation : Expectation} :
    CutsInto [] rest expectation ↔
      expectation.value.toList = [] ∧ Ending.parse? rest = some expectation.toEnding := by
  constructor
  · intro cuts
    rcases cuts with ⟨start, split, read⟩
    rcases List.nil_eq_append_iff.mp split with ⟨rfl, empty⟩
    exact ⟨List.reverse_eq_nil_iff.mp empty, read⟩
  · intro ⟨empty, read⟩
    exact ⟨[], by simp [empty], read⟩

/-- A cut is at the end of the characters in front, or it is one that is further to the left. -/
theorem cutsInto_cons_iff {c : Char} {before rest : List Char} {expectation : Expectation} :
    CutsInto (c :: before) rest expectation ↔
      (expectation.value.toList = (c :: before).reverse ∧
        Ending.parse? rest = some expectation.toEnding) ∨
      CutsInto before (c :: rest) expectation := by
  constructor
  · intro cuts
    rcases cuts with ⟨start, split, read⟩
    rcases List.cons_eq_append_iff.mp split with ⟨rfl, whole⟩ | ⟨start', rfl, split'⟩
    · left
      exact ⟨by rw [← whole, List.reverse_reverse], read⟩
    · right
      exact ⟨start', split', by simpa using read⟩
  · intro cuts
    rcases cuts with ⟨whole, read⟩ | ⟨start, split, read⟩
    · exact ⟨[], by simp [whole], read⟩
    · exact ⟨c :: start, by simp [split], by simpa using read⟩

/-- The search finds a cut, and no cut has a longer value. -/
theorem longest?_eq_some {before rest : List Char} {expectation : Expectation}
    (found : longest? before rest = some expectation) :
    CutsInto before rest expectation ∧
      ∀ other, CutsInto before rest other →
        other.value.toList.length ≤ expectation.value.toList.length := by
  fun_induction longest? before rest with
  | case1 before rest ending read =>
      cases found
      constructor
      · exact ⟨[], by simp, read⟩
      · intro other cuts
        rcases cuts with ⟨start, split, -⟩
        have length := congrArg List.length split
        simp only [List.length_append, List.length_reverse, String.toList_ofList] at length ⊢
        omega
  | case2 rest unread => cases found
  | case3 rest c before unread ih =>
      -- The cut at the end is no ending, and all others are those of the remaining search.
      have remaining : ∀ other, CutsInto (c :: before) rest other ↔
          CutsInto before (c :: rest) other := by
        intro other
        rw [cutsInto_cons_iff, unread]
        simp
      simp only [remaining]
      exact ih found

theorem longest?_eq_none {before rest : List Char} (missed : longest? before rest = none)
    (expectation : Expectation) : ¬CutsInto before rest expectation := by
  fun_induction longest? before rest with
  | case1 before rest ending read => cases missed
  | case2 rest unread =>
      intro cuts
      have read := (cutsInto_nil_iff.mp cuts).2
      rw [unread] at read
      cases read
  | case3 rest c before unread ih =>
      intro cuts
      rcases cutsInto_cons_iff.mp cuts with ⟨-, read⟩ | further
      · rw [unread] at read
        cases read
      · exact ih missed further

/-- A text is read by cutting what follows its first quote, where that is one line. -/
theorem isReadingOf_iff {text : String} {expectation : Expectation} :
    IsReadingOf text expectation ↔
      ∃ body, text.toList = '\'' :: body ∧ '\n' ∉ body ∧
        CutsInto body.reverse [] expectation := by
  constructor
  · intro reading
    rcases reading with ⟨formed, rfl⟩
    rcases wellFormed_iff.mp formed with ⟨ending, line⟩
    refine ⟨_, expectation.toList_text, line, expectation.toEnding.text.toList.reverse,
      List.reverse_append, ?_⟩
    rw [List.reverse_reverse, List.append_nil]
    exact Ending.parse?_eq_some_iff.mpr ⟨ending, rfl⟩
  · intro cut
    rcases cut with ⟨body, quoted, line, start, split, read⟩
    rw [List.append_nil] at read
    rcases Ending.parse?_eq_some_iff.mp read with ⟨ending, written⟩
    have whole : body = expectation.value.toList ++ expectation.toEnding.text.toList := by
      rw [← written, ← List.reverse_inj, split]
      simp
    subst whole
    refine ⟨wellFormed_iff.mpr ⟨ending, line⟩, ?_⟩
    rw [← String.toList_inj, quoted, toList_text]

theorem ofText?_eq_some_iff {text : String} {expectation : Expectation} :
    ofText? text = some expectation ↔
      ∃ body, text.toList = '\'' :: body ∧ '\n' ∉ body ∧
        longest? body.reverse [] = some expectation := by
  simp only [ofText?, bind, Option.bind_eq_some_iff]
  constructor
  · intro found
    rcases found with ⟨body, opened, found⟩
    split at found
    next => cases found
    next line => exact ⟨body, Text.after?_eq_some_iff.mp opened, line, found⟩
  · intro found
    rcases found with ⟨body, opened, line, found⟩
    exact ⟨body, Text.after?_eq_some_iff.mpr opened, by rw [if_neg line, found]⟩

/-- What is read from a text is a reading of it, and no reading of it has a longer value. -/
theorem isReadingOf_of_ofText? {text : String} {expectation : Expectation}
    (read : ofText? text = some expectation) :
    IsReadingOf text expectation ∧
      ∀ other, IsReadingOf text other →
        other.value.toList.length ≤ expectation.value.toList.length := by
  rcases ofText?_eq_some_iff.mp read with ⟨body, quoted, line, found⟩
  rcases longest?_eq_some found with ⟨cuts, longest⟩
  constructor
  · exact isReadingOf_iff.mpr ⟨body, quoted, line, cuts⟩
  · intro other reading
    rcases isReadingOf_iff.mp reading with ⟨body', quoted', -, cuts'⟩
    rw [quoted] at quoted'
    cases quoted'
    exact longest other cuts'

theorem wellFormed_of_parse? {line : String} {expectation : Expectation}
    (read : parse? line = some expectation) : expectation.WellFormed :=
  (isReadingOf_of_ofText? read).1.formed

theorem exists_ofText?_of_isReadingOf {text : String} {expectation : Expectation}
    (reading : IsReadingOf text expectation) : ∃ found, ofText? text = some found := by
  rcases isReadingOf_iff.mp reading with ⟨body, quoted, line, cuts⟩
  cases search : longest? body.reverse [] with
  | none => exact absurd cuts (longest?_eq_none search expectation)
  | some found => exact ⟨found, ofText?_eq_some_iff.mpr ⟨body, quoted, line, search⟩⟩

/-- Readings of one text whose values have one length are the same. -/
theorem IsReadingOf.eq_of_length_eq {text : String} {left right : Expectation}
    (leftReading : IsReadingOf text left) (rightReading : IsReadingOf text right)
    (length : left.value.toList.length = right.value.toList.length) : left = right := by
  have same : left.text.toList = right.text.toList := by
    rw [leftReading.written, rightReading.written]
  rw [toList_text, toList_text, List.cons.injEq] at same
  rcases List.append_inj same.2 length with ⟨value, ending⟩
  have endingEq := Ending.eq_of_toList_text_eq leftReading.formed.ending
    rightReading.formed.ending ending
  cases left
  cases right
  congr
  exact String.toList_inj.mp value

theorem ofText?_eq_some_of_longest {text : String} {expectation : Expectation}
    (reading : IsReadingOf text expectation)
    (longest : ∀ other, IsReadingOf text other →
      other.value.toList.length ≤ expectation.value.toList.length) :
    ofText? text = some expectation := by
  rcases exists_ofText?_of_isReadingOf reading with ⟨found, read⟩
  rcases isReadingOf_of_ofText? read with ⟨foundReading, foundLongest⟩
  have length : found.value.toList.length = expectation.value.toList.length :=
    Nat.le_antisymm (longest found foundReading) (foundLongest expectation reading)
  rw [read, foundReading.eq_of_length_eq reading length]

/-- A text is read as an expectation exactly if that is a reading of it and every other reading has
a shorter value. -/
theorem ofText?_eq_some_iff_longest {text : String} {expectation : Expectation} :
    ofText? text = some expectation ↔
      IsReadingOf text expectation ∧
        ∀ other, IsReadingOf text other → other ≠ expectation →
          other.value.length < expectation.value.length := by
  simp only [← String.length_toList]
  constructor
  · intro read
    rcases isReadingOf_of_ofText? read with ⟨reading, longest⟩
    refine ⟨reading, ?_⟩
    intro other otherReading different
    apply Nat.lt_of_le_of_ne (longest other otherReading)
    intro length
    exact different (otherReading.eq_of_length_eq reading length)
  · intro ⟨reading, longest⟩
    apply ofText?_eq_some_of_longest reading
    intro other otherReading
    by_cases same : other = expectation
    · subst same
      exact Nat.le_refl _
    · exact Nat.le_of_lt (longest other otherReading same)

theorem ofText?_eq_none_iff {text : String} :
    ofText? text = none ↔ ∀ expectation, ¬IsReadingOf text expectation := by
  constructor
  · intro unread expectation reading
    rcases exists_ofText?_of_isReadingOf reading with ⟨found, read⟩
    rw [unread] at read
    cases read
  · intro missing
    cases read : ofText? text with
    | none => rfl
    | some found => exact absurd (isReadingOf_of_ofText? read).1 (missing found)

end Expectation

end ExpectationTable
