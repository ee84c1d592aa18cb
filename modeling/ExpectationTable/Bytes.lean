/-!
# Bytes and texts

A file is a sequence of bytes, and its lines end at line feeds. The byte of a line feed is never
part of the encoding of another character, so lines can be told apart before they are decoded.

Texts enter and leave as bytes in UTF-8. `encode` gives the bytes of a text, one character after the
other; `decode?` gives the text of bytes that are well encoded, and nothing for any others. Each
undoes the other.
-/

namespace ExpectationTable

/-- A stretch of bytes. -/
abbrev Bytes := List UInt8

namespace Bytes

/-- The byte that ends a line. -/
def lineFeed : UInt8 := 10

/-- The bytes up to and including the first line feed, and those after it. Without a line feed, all
bytes and nothing. -/
def splitAtLineFeed (bytes : Bytes) : Bytes × Option Bytes :=
  match bytes.dropWhile (· ≠ lineFeed) with
  | [] => (bytes, none)
  | _ :: rest => (bytes.takeWhile (· ≠ lineFeed) ++ [lineFeed], some rest)

theorem append_of_splitAtLineFeed_eq_some {bytes line rest : Bytes}
    (split : bytes.splitAtLineFeed = (line, some rest)) : line ++ rest = bytes := by
  have whole := List.takeWhile_append_dropWhile (p := (· ≠ lineFeed)) (l := bytes)
  have stop := List.head?_dropWhile_not (· ≠ lineFeed) bytes
  rw [splitAtLineFeed] at split
  split at split
  next => cases (Prod.mk.inj split).2
  next byte after found =>
    obtain ⟨rfl, following⟩ := Prod.mk.inj split
    obtain rfl := Option.some.inj following
    rw [found] at stop whole
    have final : byte = lineFeed := by simpa using stop
    rw [final] at whole
    simpa using whole

theorem eq_of_splitAtLineFeed_eq_none {bytes start : Bytes}
    (split : bytes.splitAtLineFeed = (start, none)) : bytes = start := by
  rw [splitAtLineFeed] at split
  split at split
  next => exact (Prod.mk.inj split).1
  next => cases (Prod.mk.inj split).2

end Bytes

/-! ## Texts -/

namespace Utf8

/-- The bytes of a text. -/
def encode (text : String) : Bytes :=
  text.toList.flatMap String.utf8EncodeChar

/-- The text that the bytes encode, if they encode one. -/
def decode? (bytes : Bytes) : Option String :=
  String.fromUTF8? bytes.toByteArray

@[simp] theorem encode_empty : encode "" = [] := rfl

@[simp] theorem encode_append (first second : String) :
    encode (first ++ second) = encode first ++ encode second := by
  simp [encode]

theorem toByteArray_encode (text : String) : (encode text).toByteArray = text.toByteArray :=
  String.utf8Encode_toList

/-- The bytes that are read as a text are exactly the bytes of that text. -/
theorem decode?_eq_some_iff {bytes : Bytes} {text : String} :
    decode? bytes = some text ↔ bytes = encode text := by
  rw [← List.toByteArray_inj, toByteArray_encode, decode?, String.fromUTF8?]
  constructor
  · intro read
    split at read
    next => cases read; rfl
    next => cases read
  · intro equal
    rw [dif_pos (equal ▸ text.isValidUTF8)]
    exact congrArg some (String.toByteArray_inj.mp equal)

@[simp] theorem decode?_encode (text : String) : decode? (encode text) = some text :=
  decode?_eq_some_iff.mpr rfl

theorem encode_inj {first second : String} : encode first = encode second ↔ first = second := by
  rw [← decode?_eq_some_iff, decode?_encode, Option.some_inj]

end Utf8

end ExpectationTable
