import ExpectationTable.Text.WordCharacter

/-!
# Expectations

An expectation says which result a conversion should give: a value, the type it has, the SQL type it
is converted to and, unless it is left out, the text that is expected of it. It is written on one
line,

    'value' (type) as SQLTYPE: expected

where nothing is escaped, so that the value may itself hold quotes and whole endings of other
expectations. A colon that ends the line leaves the expected text out; a colon and a space that end
it expect the empty text.

An expectation becomes one entry of a table in the source text of a test program: a pair of a key,
made of the value and both types, and the expected text. The texts are put between quotes as they
are; a text that holds a quote is not altered.
-/

namespace ExpectationTable

/-- Whether a character may stand in the name of an SQL type: a capital of ASCII or an
underscore. -/
def isSqlTypeLetter (c : Char) : Bool :=
  c.isUpper || c == '_'

/-- What follows the value of an expectation. -/
structure Ending where
  typeName : String
  sqlType : String
  /-- Left out is not the same as empty: the two are written differently. -/
  expected : Option String
  deriving DecidableEq

/-- A value with what follows it. -/
structure Expectation extends Ending where
  value : String
  deriving DecidableEq

namespace Ending

/-- The ending as it is written, from the quote that closes the value. -/
def text (ending : Ending) : String :=
  "' (" ++ ending.typeName ++ ") as " ++ ending.sqlType ++ ":" ++
    match ending.expected with
    | none => ""
    | some expected => " " ++ expected

theorem toList_text (ending : Ending) :
    ending.text.toList =
      "' (".toList ++ (ending.typeName.toList ++ (") as ".toList ++ (ending.sqlType.toList ++
        (":".toList ++
          match ending.expected with
          | none => []
          | some expected => ' ' :: expected.toList)))) := by
  rw [text]
  cases ending.expected <;> simp

/-- The names of the ending are not empty and hold only the characters that such names have. -/
structure WellFormed (ending : Ending) : Prop where
  typeName_ne_nil : ending.typeName.toList ≠ []
  typeName_word : ∀ c ∈ ending.typeName.toList, Text.isWordCharacter c = true
  sqlType_ne_nil : ending.sqlType.toList ≠ []
  sqlType_letter : ∀ c ∈ ending.sqlType.toList, isSqlTypeLetter c = true

end Ending

namespace Expectation

/-- The expectation as it is written, without a line ending. -/
def text (expectation : Expectation) : String :=
  "'" ++ expectation.value ++ expectation.toEnding.text

@[simp] theorem toList_text (expectation : Expectation) :
    expectation.text.toList =
      '\'' :: (expectation.value.toList ++ expectation.toEnding.text.toList) := by
  simp [text]

/-- The names are well formed, and neither the value nor the expected text reaches over the end of
the line. -/
structure WellFormed (expectation : Expectation) : Prop where
  ending : expectation.toEnding.WellFormed
  value_line : '\n' ∉ expectation.value.toList
  expected_line : ∀ expected ∈ expectation.expected, '\n' ∉ expected.toList

def expectedOrEmpty (expectation : Expectation) : String :=
  expectation.expected.getD ""

@[simp] theorem expectedOrEmpty_of_none {expectation : Expectation}
    (absent : expectation.expected = none) : expectation.expectedOrEmpty = "" := by
  simp [expectedOrEmpty, absent]

@[simp] theorem expectedOrEmpty_of_some {expectation : Expectation} {expected : String}
    (present : expectation.expected = some expected) :
    expectation.expectedOrEmpty = expected := by
  simp [expectedOrEmpty, present]

/-! ## Table entries -/

/-- The pieces of the entry, in the order in which they are written. -/
def entryFragments (expectation : Expectation) : List String :=
  -- The braces are written by their codes.
  ["\x7b std::make_tuple(\"", expectation.value, "\", \"", expectation.typeName, "\", \"",
    expectation.sqlType, "\"), \"", expectation.expectedOrEmpty, "\" \x7d,"]

def entry (expectation : Expectation) : String :=
  String.join expectation.entryFragments

def entryLineFragments (expectation : Expectation) : List String :=
  expectation.entryFragments ++ ["\n"]

end Expectation

end ExpectationTable
