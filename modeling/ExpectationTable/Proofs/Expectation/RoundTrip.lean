import ExpectationTable.Proofs.Expectation.Reading
import ExpectationTable.Proofs.Text.LineEnding

/-!
# Reading what was written

An expectation that is written with a line ending is read again. It need not be read as the same
one, since nothing is escaped. The value is read to the last quote that can close it, and so it is
read as longer exactly if the expected text holds a quote that an ending can begin with: no quote in
front of the expected text can. Of a carriage return at the end of the expected text it cannot be
told that it is no part of the line ending.

What is read, in turn, is written as the text that it was read from, however the value was found in
it. So two lines are read as the same expectation only if they have the same text, and the one thing
that they may differ in is what trimming takes off them.
-/

namespace ExpectationTable

/-- In the text there is a quote, and behind it what may follow a value: a type name in parentheses,
an SQL type, a colon, and then a space or the end of the text. -/
def HoldsEnding (text : String) : Prop :=
  ∃ before typeName sqlType after : List Char,
    (typeName ≠ [] ∧ ∀ c ∈ typeName, Text.isWordCharacter c = true) ∧
    (sqlType ≠ [] ∧ ∀ c ∈ sqlType, isSqlTypeLetter c = true) ∧
    (after = [] ∨ after.head? = some ' ') ∧
    text.toList =
      before ++ ("' (".toList ++ typeName ++ ") as ".toList ++ sqlType ++ ":".toList ++ after)

namespace Ending

/-- What is written between the quote and the expected text. -/
def names (ending : Ending) : List Char :=
  " (".toList ++ ending.typeName.toList ++ ") as ".toList ++ ending.sqlType.toList ++ ":".toList

/-- The expected text as it is written. -/
def clause (ending : Ending) : List Char :=
  match ending.expected with
  | none => []
  | some expected => ' ' :: expected.toList

theorem toList_text_eq (ending : Ending) :
    ending.text.toList = '\'' :: (ending.names ++ ending.clause) := by
  rw [toList_text, names, clause]
  cases ending.expected <;> simp

theorem WellFormed.quote_notMem_names {ending : Ending} (formed : ending.WellFormed) :
    '\'' ∉ ending.names := by
  have typeName : '\'' ∉ ending.typeName.toList := by
    intro member
    exact absurd (formed.typeName_word _ member) (by decide +kernel)
  have sqlType : '\'' ∉ ending.sqlType.toList := by
    intro member
    exact absurd (formed.sqlType_letter _ member) (by decide)
  simp [names, typeName, sqlType]

end Ending

/-- A text holds an ending exactly if it ends with a well formed one. -/
theorem holdsEnding_iff {text : String} :
    HoldsEnding text ↔
      ∃ before, ∃ ending : Ending, ending.WellFormed ∧
        text.toList = before ++ ending.text.toList := by
  constructor
  · intro holds
    rcases holds with ⟨before, typeName, sqlType, after, ⟨typeNonempty, typeWord⟩,
      ⟨sqlNonempty, sqlLetter⟩, end_or_space, whole⟩
    refine ⟨before,
      { typeName := String.ofList typeName
        sqlType := String.ofList sqlType
        expected := after.head?.map fun _ => String.ofList after.tail }, ?_, ?_⟩
    · constructor <;> simpa
    · rw [whole, Ending.toList_text]
      cases after with
      | nil => simp
      | cons c after =>
          have space : c = ' ' := by simpa using end_or_space
          simp [space]
  · intro ⟨before, ending, formed, whole⟩
    refine ⟨before, ending.typeName.toList, ending.sqlType.toList, ending.clause,
      ⟨formed.typeName_ne_nil, formed.typeName_word⟩,
      ⟨formed.sqlType_ne_nil, formed.sqlType_letter⟩, ?_, ?_⟩
    · cases expected : ending.expected <;> simp [Ending.clause, expected]
    · rw [whole, Ending.toList_text_eq]
      simp [Ending.names]

namespace Text

/-- A carriage return that follows a text is taken off it, with or without a line feed. -/
theorem trimLineEnding_append_return {lineEnding : String}
    (member : lineEnding ∈ ["\r", "\r\n"]) (text : String) :
    trimLineEnding (text ++ lineEnding) = text := by
  rw [← String.toList_inj, toList_trimLineEnding]
  simp only [List.mem_cons, List.not_mem_nil, or_false] at member
  cases member with
  | inl same => simp [same, dropFinal_concat_of_ne]
  | inr same =>
      have split : (text ++ lineEnding).toList = text.toList ++ ['\r'] ++ ['\n'] := by simp [same]
      rw [split, dropFinal_concat_self, dropFinal_concat_self]

theorem trimLineEnding_append_lineFeed {lineEnding text : String}
    (member : lineEnding ∈ ["", "\n"]) (unbroken : '\n' ∉ text.toList) :
    trimLineEnding (text ++ lineEnding) = String.ofList (dropFinal '\r' text.toList) := by
  rw [← String.toList_inj, toList_trimLineEnding, String.toList_ofList]
  congr 1
  simp only [List.mem_cons, List.not_mem_nil, or_false] at member
  cases member with
  | inl same =>
      rw [same, String.append_empty, dropFinal, if_neg]
      intro last
      exact unbroken (List.mem_of_getLast? last)
  | inr same => simp [same]

end Text

theorem exists_eq_append_cons_of_notMem {c : Char} {first second before after : List Char}
    (absent : c ∉ first) (same : first ++ second = before ++ c :: after) :
    ∃ between, second = between ++ c :: after := by
  rcases List.append_eq_append_iff.mp same with ⟨between, _, split⟩ | ⟨between, inside, split⟩
  · exact ⟨between, split⟩
  · cases between with
    | nil => exact ⟨[], split.symm⟩
    | cons d between =>
        rw [List.cons_append, List.cons.injEq] at split
        rw [inside, ← split.1] at absent
        simp at absent

namespace Expectation

variable {expectation : Expectation}

theorem WellFormed.isReadingOf_text (formed : expectation.WellFormed) :
    IsReadingOf expectation.text expectation :=
  ⟨formed, rfl⟩

/-- A reading with a longer value closes it within the expected text. -/
theorem exists_holdsEnding_of_longer {other : Expectation} (formed : expectation.WellFormed)
    (reading : IsReadingOf expectation.text other)
    (longer : expectation.value.toList.length < other.value.toList.length) :
    ∃ expected ∈ expectation.expected, HoldsEnding expected := by
  have same : other.text.toList = expectation.text.toList := by rw [reading.written]
  rw [toList_text, toList_text, List.cons.injEq, Ending.toList_text_eq expectation.toEnding] at same
  rcases List.append_eq_append_iff.mp same.2 with ⟨middle, extended, _⟩ | ⟨middle, extended, rest⟩
  · -- The rival's value would be the shorter one.
    rw [extended, List.length_append] at longer
    omega
  · cases middle with
    | nil =>
        rw [extended, List.append_nil] at longer
        exact absurd longer (Nat.lt_irrefl _)
    | cons quote middle =>
        rw [List.cons_append, List.cons.injEq] at rest
        have absent := formed.ending.quote_notMem_names
        have inside := rest.2
        rw [Ending.toList_text_eq other.toEnding, Ending.clause] at inside
        cases present : expectation.expected with
        | none =>
            rw [present, List.append_nil] at inside
            rw [inside] at absent
            simp at absent
        | some expected =>
            rw [present, List.append_cons] at inside
            have absent' : '\'' ∉ expectation.names ++ [' '] := by simp [absent]
            rcases exists_eq_append_cons_of_notMem absent' inside with ⟨before, whole⟩
            refine ⟨expected, rfl, holdsEnding_iff.mpr ⟨before, other.toEnding, ?_, ?_⟩⟩
            · exact reading.formed.ending
            · rw [whole, Ending.toList_text_eq]

/-- An ending in the expected text gives a reading with a longer value. -/
theorem exists_longer_of_holdsEnding (formed : expectation.WellFormed) {expected : String}
    (present : expectation.expected = some expected) (holds : HoldsEnding expected) :
    ∃ other, IsReadingOf expectation.text other ∧
      expectation.value.toList.length < other.value.toList.length := by
  rcases holdsEnding_iff.mp holds with ⟨before, ending, endingFormed, whole⟩
  let other : Expectation :=
    { ending with
      value := String.ofList
        (expectation.value.toList ++ '\'' :: (expectation.names ++ ' ' :: before)) }
  have written : other.value.toList ++ other.toEnding.text.toList =
      expectation.value.toList ++ expectation.toEnding.text.toList := by
    rw [Ending.toList_text_eq expectation.toEnding, Ending.clause, present]
    simp [other, whole]
  rcases wellFormed_iff.mp formed with ⟨_, line⟩
  refine ⟨other, ⟨wellFormed_iff.mpr ⟨endingFormed, ?_⟩, ?_⟩, ?_⟩
  · rwa [written]
  · rw [← String.toList_inj, toList_text, toList_text, written]
  · simp [other]

/-- A written form is read as the expectation exactly if the expected text holds no ending. -/
theorem WellFormed.ofText?_text_iff (formed : expectation.WellFormed) :
    ofText? expectation.text = some expectation ↔
      ∀ expected ∈ expectation.expected, ¬HoldsEnding expected := by
  constructor
  · intro read expected present holds
    rcases exists_longer_of_holdsEnding formed present holds with ⟨other, reading, longer⟩
    have longest := (isReadingOf_of_ofText? read).2 other reading
    omega
  · intro clear
    apply ofText?_eq_some_of_longest formed.isReadingOf_text
    intro other reading
    apply Nat.le_of_not_lt
    intro longer
    rcases exists_holdsEnding_of_longer formed reading longer with ⟨expected, present, holds⟩
    exact clear expected present holds

theorem getLast?_toList_text_eq_return_iff :
    expectation.text.toList.getLast? = some '\r' ↔
      ∃ expected ∈ expectation.expected, expected.toList.getLast? = some '\r' := by
  rw [toList_text, Ending.toList_text_eq, Ending.clause, Ending.names]
  cases expectation.expected with
  | none => simp [List.getLast?_cons]
  | some expected =>
      cases last : expected.toList.getLast? <;> simp [List.getLast?_cons, last]

theorem WellFormed.exists_shorter (formed : expectation.WellFormed)
    (last : expectation.text.toList.getLast? = some '\r') :
    ∃ shorter : Expectation, shorter.WellFormed ∧
      expectation.text.toList = shorter.text.toList ++ ['\r'] := by
  rcases getLast?_toList_text_eq_return_iff.mp last with ⟨expected, present, final⟩
  rcases List.getLast?_eq_some_iff.mp final with ⟨start, whole⟩
  let shorter : Expectation := { expectation with expected := some (String.ofList start) }
  refine ⟨shorter, ⟨?_, formed.value_line, ?_⟩, ?_⟩
  · exact ⟨formed.ending.typeName_ne_nil, formed.ending.typeName_word,
      formed.ending.sqlType_ne_nil, formed.ending.sqlType_letter⟩
  · intro expected' same member
    cases same
    apply formed.expected_line expected present
    rw [whole]
    exact List.mem_append_left _ (by simpa using member)
  · have clause : expectation.expected = some expected := present
    simp [toList_text, Ending.toList_text, shorter, clause, whole]

theorem WellFormed.exists_ofText?_dropFinal (formed : expectation.WellFormed) :
    ∃ found,
      ofText? (String.ofList (Text.dropFinal '\r' expectation.text.toList)) = some found := by
  by_cases last : expectation.text.toList.getLast? = some '\r'
  · rcases formed.exists_shorter last with ⟨shorter, shorterFormed, split⟩
    rw [split, Text.dropFinal_concat_self, String.ofList_toList]
    exact exists_ofText?_of_isReadingOf shorterFormed.isReadingOf_text
  · rw [Text.dropFinal, if_neg last, String.ofList_toList]
    exact exists_ofText?_of_isReadingOf formed.isReadingOf_text

/-- Without a final carriage return, the written form is read as the expectation exactly if there
was none to take off and the expected text holds no ending. -/
theorem WellFormed.ofText?_dropFinal_iff (formed : expectation.WellFormed) :
    ofText? (String.ofList (Text.dropFinal '\r' expectation.text.toList)) = some expectation ↔
      (∀ expected ∈ expectation.expected, ¬HoldsEnding expected) ∧
        ∀ expected ∈ expectation.expected, expected.toList.getLast? ≠ some '\r' := by
  by_cases last : expectation.text.toList.getLast? = some '\r'
  · rcases formed.exists_shorter last with ⟨shorter, shorterFormed, split⟩
    rw [split, Text.dropFinal_concat_self, String.ofList_toList]
    constructor
    · intro read
      have written := (isReadingOf_of_ofText? read).1.written
      rw [written] at split
      simp at split
    · intro clear
      rcases getLast?_toList_text_eq_return_iff.mp last with ⟨expected, present, final⟩
      exact absurd final (clear.2 expected present)
  · have kept : ∀ expected ∈ expectation.expected, expected.toList.getLast? ≠ some '\r' := by
      intro expected present final
      exact last (getLast?_toList_text_eq_return_iff.mpr ⟨expected, present, final⟩)
    rw [Text.dropFinal, if_neg last, String.ofList_toList, formed.ofText?_text_iff]
    exact ⟨fun clear => ⟨clear, kept⟩, And.left⟩

/-- An expectation that was written with a line ending, or with none, is always read. It is read as
itself exactly if its expected text holds no ending and, where the line ending has no carriage
return of its own, does not end with one. -/
theorem parse?_text_append (formed : expectation.WellFormed) :
    (∀ lineEnding ∈ ["", "\n", "\r", "\r\n"],
      ∃ found, parse? (expectation.text ++ lineEnding) = some found) ∧
      (∀ lineEnding ∈ ["\r", "\r\n"],
        (parse? (expectation.text ++ lineEnding) = some expectation ↔
          ∀ expected ∈ expectation.expected, ¬HoldsEnding expected)) ∧
      (∀ lineEnding ∈ ["", "\n"],
        (parse? (expectation.text ++ lineEnding) = some expectation ↔
          (∀ expected ∈ expectation.expected, ¬HoldsEnding expected) ∧
            ∀ expected ∈ expectation.expected, expected.toList.getLast? ≠ some '\r')) := by
  have unbroken : '\n' ∉ expectation.text.toList := by
    rw [toList_text, List.mem_cons, not_or]
    exact ⟨by decide, (wellFormed_iff.mp formed).2⟩
  refine ⟨?_, ?_, ?_⟩
  · intro lineEnding member
    have either : lineEnding ∈ ["\r", "\r\n"] ∨ lineEnding ∈ ["", "\n"] := by
      simp only [List.mem_cons, List.not_mem_nil, or_false] at member ⊢
      rcases member with same | same | same | same <;> simp [same]
    cases either with
    | inl returned =>
        rw [parse?, Text.trimLineEnding_append_return returned]
        exact exists_ofText?_of_isReadingOf formed.isReadingOf_text
    | inr plain =>
        rw [parse?, Text.trimLineEnding_append_lineFeed plain unbroken]
        exact formed.exists_ofText?_dropFinal
  · intro lineEnding member
    rw [parse?, Text.trimLineEnding_append_return member]
    exact formed.ofText?_text_iff
  · intro lineEnding member
    rw [parse?, Text.trimLineEnding_append_lineFeed member unbroken]
    exact formed.ofText?_dropFinal_iff

/-- The expected text ends with a carriage return and holds an ending in front of it. Of the four
line endings, none lets the expectation be read as itself. -/
theorem parse?_text_append_of_rival :
    let expectation : Expectation :=
      { value := "it's", typeName := "a", sqlType := "B", expected := some "x' (c) as D: y\r" }
    expectation.WellFormed ∧ HoldsEnding "x' (c) as D: y\r" ∧
      (∃ found, parse? (expectation.text ++ "\r\n") = some found) ∧
      parse? (expectation.text ++ "\r\n") ≠ some expectation ∧
      parse? (expectation.text ++ "\n") ≠ some expectation := by
  intro expectation
  have formed : expectation.WellFormed :=
    { ending :=
        { typeName_ne_nil := by decide
          typeName_word := by simpa [expectation] using Text.isWordCharacter_of_isAlphanum rfl
          sqlType_ne_nil := by decide
          sqlType_letter := by simp [expectation, isSqlTypeLetter] }
      value_line := by decide
      expected_line := by simp [expectation] }
  have holds : HoldsEnding "x' (c) as D: y\r" :=
    ⟨['x'], ['c'], ['D'], " y\r".toList,
      ⟨by decide, by simpa using Text.isWordCharacter_of_isAlphanum rfl⟩,
      ⟨by decide, by simp [isSqlTypeLetter]⟩, by decide, by decide⟩
  rcases parse?_text_append formed with ⟨always, returned, plain⟩
  refine ⟨formed, holds, always "\r\n" (by decide), ?_, ?_⟩
  · intro read
    exact (returned "\r\n" (by decide)).mp read _ rfl holds
  · intro read
    exact ((plain "\n" (by decide)).mp read).1 _ rfl holds

/-! ## Lines that are read alike -/

/-- What a line is read as is written as the line is, without its ending. -/
theorem text_of_parse? {line : String} {expectation : Expectation}
    (read : parse? line = some expectation) :
    expectation.text = Text.trimLineEnding line :=
  (isReadingOf_of_ofText? read).1.written

theorem exists_eq_text_append {line : String} {expectation : Expectation}
    (read : parse? line = some expectation) :
    ∃ ending ∈ Text.lineEndings, line = expectation.text ++ ending := by
  rw [text_of_parse? read]
  exact Text.exists_eq_trimLineEnding_append line

/-- Two lines are read alike exactly if neither is read or both have the same text without their
endings. Lines that are read as the same expectation are both the written form of it, and differ in
nothing but the ending. -/
theorem parse?_eq_parse?_iff (first second : String) :
    (parse? first = parse? second ↔
        parse? first = none ∧ parse? second = none ∨
          Text.trimLineEnding first = Text.trimLineEnding second) ∧
      ∀ expectation, parse? first = some expectation → parse? second = some expectation →
        ∃ ending ∈ Text.lineEndings, ∃ other ∈ Text.lineEndings,
          first = expectation.text ++ ending ∧ second = expectation.text ++ other := by
  refine ⟨⟨?_, ?_⟩, ?_⟩
  · intro same
    cases read : parse? first with
    | none => exact .inl ⟨rfl, same.symm.trans read⟩
    | some expectation =>
        right
        calc
          Text.trimLineEnding first = expectation.text := (text_of_parse? read).symm
          _ = Text.trimLineEnding second := text_of_parse? (same.symm.trans read)
  · rintro (⟨unread, otherUnread⟩ | same)
    · rw [unread, otherUnread]
    · rw [parse?, parse?, same]
  · intro expectation read otherRead
    rcases exists_eq_text_append read with ⟨ending, member, whole⟩
    rcases exists_eq_text_append otherRead with ⟨other, otherMember, otherWhole⟩
    exact ⟨ending, member, other, otherMember, whole, otherWhole⟩

/-- An expected text that is left out is not the same as one that is empty. -/
example : parse? "'' (a) as B:\n" ≠ parse? "'' (a) as B: \r\n" := by decide +kernel

end Expectation

end ExpectationTable
