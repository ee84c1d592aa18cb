import ExpectationTable.Proofs.Expectation.Reading
import ExpectationTable.Proofs.Text.Pattern

/-!
# The pattern of an expectation

The written form of expectations as a pattern that keeps the value, the type name, the SQL type and
the expected text. The ways to take a whole text are its readings, and the order of preference puts
longer values first. So the preferred way is what the parser gives, although the parser compares no
ways: it cuts the text from the right and stops at the first ending.
-/

namespace ExpectationTable

open Text (Pattern)

namespace Ending

/-- A space and the expected text, or nothing. -/
def expectedPattern : Pattern :=
  .optional <| .sequence (.literal " ") <| .named "expected" <| .many (· ≠ '\n')

/-- The quote, both names and the colon, and then the expected text. -/
def pattern : Pattern :=
  .sequence (.literal "' (") <| .sequence (.named "type" <| .some Text.isWordCharacter) <|
  .sequence (.literal ") as ") <| .sequence (.named "sqltype" <| .some isSqlTypeLetter) <|
  .sequence (.literal ":") expectedPattern

/-- The parts of an ending, under the names that they have in the pattern. -/
def parts (ending : Ending) : List (String × String) :=
  ("type", ending.typeName) :: ("sqltype", ending.sqlType) ::
    ending.expected.toList.map ("expected", ·)

theorem takes_expectedPattern_iff {text : List Char} {kept : List (String × String)} :
    expectedPattern.Takes text kept [] ↔
      ∃ expected : Option String, (∀ line ∈ expected, '\n' ∉ line.toList) ∧
        (text = match expected with
          | none => []
          | some expected => ' ' :: expected.toList) ∧
        kept = expected.toList.map ("expected", ·) := by
  simp only [expectedPattern, Pattern.takes_optional_iff, Pattern.takes_sequence_iff,
    Pattern.takes_literal_iff, Pattern.takes_named_many_iff]
  constructor
  · intro taken
    rcases taken with ⟨_, _, _, ⟨rfl, rfl⟩, ⟨line, rfl, inside, rfl⟩, rfl⟩ | ⟨rfl, rfl⟩
    · refine ⟨some (String.ofList line), ?_, by simp, by simp⟩
      intro _ same
      cases same
      rw [String.toList_ofList]
      intro member
      simpa using inside _ member
    · exact ⟨none, by simp, rfl, rfl⟩
  · intro ⟨expected, line, written, same⟩
    subst written same
    cases expected with
    | none => exact .inr ⟨rfl, rfl⟩
    | some expected =>
        left
        refine ⟨[], expected.toList, _, ⟨rfl, rfl⟩, ⟨expected.toList, by simp, ?_, rfl⟩, by simp⟩
        intro c member
        rw [decide_eq_true_eq]
        intro same
        exact line expected rfl (same ▸ member)

/-- The pattern takes exactly the written forms of endings on one line to their last character. -/
theorem takes_pattern_iff {text : List Char} {kept : List (String × String)} :
    pattern.Takes text kept [] ↔
      ∃ ending : Ending, ending.WellFormed ∧ '\n' ∉ ending.text.toList ∧
        text = ending.text.toList ∧ kept = ending.parts := by
  simp only [pattern, Pattern.takes_sequence_iff, Pattern.takes_literal_iff,
    Pattern.takes_named_some_iff, takes_expectedPattern_iff]
  constructor
  · intro taken
    rcases taken with ⟨_, _, _, ⟨rfl, rfl⟩, ⟨_, _, _, ⟨typeName, rfl, typeNonempty, typeWord, rfl⟩,
      ⟨_, _, _, ⟨rfl, rfl⟩, ⟨_, _, _, ⟨sqlType, rfl, sqlNonempty, sqlLetter, rfl⟩,
        ⟨_, _, _, ⟨rfl, rfl⟩, ⟨expected, line, rfl, rfl⟩, rfl⟩, rfl⟩, rfl⟩, rfl⟩, rfl⟩
    let ending : Ending :=
      { typeName := String.ofList typeName, sqlType := String.ofList sqlType, expected }
    have formed : ending.WellFormed := by
      constructor <;> simpa [ending]
    refine ⟨ending, formed, ?_, ?_, by simp [parts, ending]⟩
    · rw [lineFeed_mem_toList_text_iff formed]
      intro ⟨expected, present, member⟩
      exact line expected present member
    · cases expected <;> simp [toList_text, ending]
  · intro ⟨ending, formed, line, written, same⟩
    rw [lineFeed_mem_toList_text_iff formed] at line
    rw [toList_text] at written
    refine ⟨_, _, _, ⟨written, rfl⟩, ⟨_, _, _, ⟨_, rfl, formed.typeName_ne_nil,
      formed.typeName_word, rfl⟩, ⟨_, _, _, ⟨rfl, rfl⟩, ⟨_, _, _, ⟨_, rfl, formed.sqlType_ne_nil,
        formed.sqlType_letter, rfl⟩, ⟨_, _, _, ⟨rfl, rfl⟩, ⟨ending.expected, ?_, rfl, rfl⟩, rfl⟩,
          rfl⟩, rfl⟩, rfl⟩, ?_⟩
    · intro expected present member
      exact line ⟨expected, present, member⟩
    · simpa [parts] using same

end Ending

namespace Expectation

/-- A quote, the value and an ending. -/
def pattern : Pattern :=
  .sequence (.literal "'") <| .sequence (.named "value" <| .many (· ≠ '\n')) Ending.pattern

/-- The parts of an expectation, under the names that they have in the pattern. -/
def parts (expectation : Expectation) : List (String × String) :=
  ("value", expectation.value) :: expectation.toEnding.parts

/-- The expectation of these parts. Only the expected text may be missing. -/
def ofParts? (parts : List (String × String)) : Option Expectation := do
  let value ← parts.lookup "value"
  let typeName ← parts.lookup "type"
  let sqlType ← parts.lookup "sqltype"
  some { value, typeName, sqlType, expected := parts.lookup "expected" }

@[simp] theorem ofParts?_parts (expectation : Expectation) :
    ofParts? expectation.parts = some expectation := by
  rcases expectation with ⟨⟨typeName, sqlType, expected⟩, value⟩
  cases expected <;> simp [ofParts?, parts, Ending.parts, List.lookup_cons]

/-- The pattern takes a whole text exactly in its readings. -/
theorem takes_pattern_iff {text : String} {kept : List (String × String)} :
    pattern.Takes text.toList kept [] ↔
      ∃ expectation, IsReadingOf text expectation ∧ kept = expectation.parts := by
  simp only [pattern, Pattern.takes_sequence_iff, Pattern.takes_literal_iff,
    Pattern.takes_named_many_iff, Ending.takes_pattern_iff]
  constructor
  · intro taken
    rcases taken with ⟨_, _, _, ⟨quoted, rfl⟩, ⟨_, _, _, ⟨value, rfl, inside, rfl⟩,
      ⟨ending, formed, line, rfl, rfl⟩, rfl⟩, rfl⟩
    let expectation : Expectation := { ending with value := String.ofList value }
    refine ⟨expectation, ⟨wellFormed_iff.mpr ⟨formed, ?_⟩, ?_⟩, by simp [parts, expectation]⟩
    · rw [List.mem_append, not_or]
      refine ⟨?_, line⟩
      intro member
      rw [String.toList_ofList] at member
      simpa using inside _ member
    · rw [← String.toList_inj, toList_text, quoted]
      simp [expectation]
  · intro ⟨expectation, ⟨formed, written⟩, same⟩
    rcases wellFormed_iff.mp formed with ⟨ending, line⟩
    rw [List.mem_append, not_or] at line
    rw [← written, toList_text]
    refine ⟨[], _, _, ⟨rfl, rfl⟩, ⟨_, _, _, ⟨expectation.value.toList, rfl, ?_, rfl⟩,
      ⟨expectation.toEnding, ending, line.2, rfl, rfl⟩, rfl⟩, by simp [same, parts]⟩
    intro c member
    rw [decide_eq_true_eq]
    intro same
    exact line.1 (same ▸ member)

/-- How long the value is that a way keeps. -/
def valueLength (way : Pattern.Way) : Nat :=
  match way.kept with
  | [] => 0
  | (_, value) :: _ => value.length

/-- Of two ways to match the pattern, the one with the longer value is preferred. -/
theorem pairwise_ways_pattern (text : List Char) :
    (pattern.ways text).Pairwise fun preferred other =>
      valueLength other ≤ valueLength preferred := by
  rw [pattern, Pattern.ways, Pattern.ways]
  split
  next rest opened =>
    simp only [List.flatMap_singleton, Pattern.ways, List.pairwise_map, List.pairwise_flatMap]
    constructor
    · intro way member
      rcases List.mem_map.mp member with ⟨run, -, rfl⟩
      exact List.pairwise_of_forall fun _ _ => Nat.le_refl _
    · apply (Pattern.pairwise_runs _ rest).imp
      intro longer shorter length _ member _ member'
      rcases List.mem_map.mp member with ⟨_, -, rfl⟩
      rcases List.mem_map.mp member' with ⟨_, -, rfl⟩
      simpa [valueLength, Pattern.Way.andThen, Pattern.Way.keep] using Nat.le_of_lt length
  next => exact .nil

/-- The parts of the preferred way to take a whole text make up what the parser reads. -/
theorem ofText?_eq_whole? (text : String) :
    ofText? text = (pattern.whole? text.toList).bind fun way => ofParts? way.kept := by
  cases search : pattern.whole? text.toList with
  | none =>
      apply ofText?_eq_none_iff.mpr
      intro expectation reading
      rcases takes_pattern_iff.mpr ⟨expectation, reading, rfl⟩ with ⟨taken, member⟩
      simpa using List.find?_eq_none.mp search _ member
  | some way =>
      rcases List.find?_eq_some_iff_append.mp search with
        ⟨finished, earlier, later, order, unfinished⟩
      rcases way with ⟨taken, rest, kept⟩
      obtain rfl : rest = [] := by simpa using finished
      have member : ⟨taken, [], kept⟩ ∈ pattern.ways text.toList := by simp [order]
      rcases takes_pattern_iff.mp ⟨taken, member⟩ with ⟨expectation, reading, rfl⟩
      rw [Option.bind_some, ofParts?_parts]
      apply ofText?_eq_some_of_longest reading
      intro other otherReading
      rcases takes_pattern_iff.mpr ⟨other, otherReading, rfl⟩ with ⟨otherTaken, otherMember⟩
      -- The other way is not among the earlier ones, for it takes the whole text.
      have pairwise := pairwise_ways_pattern text.toList
      rw [order] at pairwise otherMember
      rw [String.length_toList, String.length_toList]
      rcases List.mem_append.mp otherMember with before | after
      · simpa using unfinished _ before
      · rcases List.mem_cons.mp after with same | behind
        · exact Nat.le_of_eq (congrArg valueLength same)
        · exact List.rel_of_pairwise_cons (List.pairwise_append.mp pairwise).2.1 behind

/-! ## What the parser gives -/

/-- A line is read by the pattern. What it is read as is the one reading of its text whose value is
longer than that of every other, and it is not read exactly if its text has no reading. -/
theorem parse?_longest_reading (line : String) (expectation : Expectation) :
    (parse? line =
      (pattern.whole? (Text.trimLineEnding line).toList).bind fun way => ofParts? way.kept) ∧
    (parse? line = some expectation ↔
      IsReadingOf (Text.trimLineEnding line) expectation ∧
        ∀ other, IsReadingOf (Text.trimLineEnding line) other → other ≠ expectation →
          other.value.length < expectation.value.length) ∧
    (parse? line = none ↔ ∀ other, ¬IsReadingOf (Text.trimLineEnding line) other) :=
  ⟨ofText?_eq_whole? _, ofText?_eq_some_iff_longest, ofText?_eq_none_iff⟩

set_option maxRecDepth 4000 in
example : parse? "'x' (a) as B: ' (c) as D:" =
    some { value := "x' (a) as B: ", typeName := "c", sqlType := "D", expected := none } := by
  decide

end Expectation

end ExpectationTable
