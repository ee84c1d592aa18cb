import ExpectationTable.Proofs.Converter.Line
import ExpectationTable.Proofs.Text.Lines
import Mathlib.Data.List.Basic

/-!
# Colour codes

A colour code is an escape character, an opening bracket, digits and the letter that ends them. To
delete the codes from bytes is to go through them once and to leave out each code that is met. What
a coloured diagnostic adds to a plain one are codes, and so deleting them makes it plain, unless
its text brings an escape character of its own.
-/

namespace ExpectationTable

namespace Bytes

/-- The byte that opens a code. -/
def escape : UInt8 := 0x1b

def codeStart : Bytes := [escape, 0x5b]

def codeEnd : Bytes := [0x6d]

def isDigit (byte : UInt8) : Bool :=
  0x30 ≤ byte && byte ≤ 0x39

/-- A code that sets colour or weight: one or more digits between a start and an end. -/
def IsColourCode (code : Bytes) : Prop :=
  ∃ digits : Bytes, digits ≠ [] ∧ digits.all isDigit = true ∧ code = codeStart ++ digits ++ codeEnd

/-- What follows the code that the bytes begin with, if they do. -/
def afterColourCode? (bytes : Bytes) : Option Bytes :=
  match bytes.dropPrefix? codeStart with
  | some rest =>
      if rest.takeWhile isDigit = [] then none
      else (rest.dropWhile isDigit).dropPrefix? codeEnd
  | none => none

/-- A rest is found to follow a code exactly if the bytes are a code and then that rest. -/
theorem afterColourCode?_eq_some_iff {bytes rest : Bytes} :
    bytes.afterColourCode? = some rest ↔ ∃ code, IsColourCode code ∧ bytes = code ++ rest := by
  constructor
  · intro found
    rw [afterColourCode?] at found
    split at found
    next after opened =>
      split at found
      next => cases found
      next nonempty =>
        rcases List.dropPrefix?_eq_some_iff.mp opened with ⟨start, rfl, isStart⟩
        rcases List.dropPrefix?_eq_some_iff.mp found with ⟨final, closed, isEnd⟩
        obtain rfl := eq_of_beq isStart
        obtain rfl := eq_of_beq isEnd
        refine ⟨_, ⟨after.takeWhile isDigit, nonempty, List.all_takeWhile, rfl⟩, ?_⟩
        rw [List.append_assoc, List.append_assoc, ← closed, List.takeWhile_append_dropWhile]
    next => cases found
  · rintro ⟨code, ⟨digits, nonempty, all, rfl⟩, rfl⟩
    have digit := List.all_eq_true.mp all
    have digitsTaken : (digits ++ (codeEnd ++ rest)).takeWhile isDigit = digits := by
      rw [List.takeWhile_append_of_pos digit]
      exact List.append_nil digits
    have digitsDropped : (digits ++ (codeEnd ++ rest)).dropWhile isDigit = codeEnd ++ rest := by
      rw [List.dropWhile_append_of_pos digit]
      rfl
    rw [afterColourCode?, List.append_assoc, List.append_assoc,
      List.dropPrefix?_append_of_beq _ (beq_self_eq_true codeStart)]
    dsimp only
    rw [digitsTaken, if_neg nonempty, digitsDropped,
      List.dropPrefix?_append_of_beq _ (beq_self_eq_true codeEnd)]

theorem length_lt_of_afterColourCode? {bytes rest : Bytes}
    (found : bytes.afterColourCode? = some rest) : rest.length < bytes.length := by
  rcases afterColourCode?_eq_some_iff.mp found with ⟨_, ⟨digits, nonempty, _, rfl⟩, rfl⟩
  simp [codeStart, codeEnd]
  omega

theorem afterColourCode?_of_ne {byte : UInt8} (other : byte ≠ escape) (rest : Bytes) :
    afterColourCode? (byte :: rest) = none := by
  cases found : afterColourCode? (byte :: rest) with
  | none => rfl
  | some after =>
      rcases afterColourCode?_eq_some_iff.mp found with ⟨_, ⟨digits, _, _, rfl⟩, whole⟩
      exact absurd (List.cons.inj whole).1 other

/-- The bytes without the codes that are met on the way through them. -/
def withoutColourCodes : Bytes → Bytes
  | [] => []
  | byte :: rest =>
      match found : afterColourCode? (byte :: rest) with
      | some after =>
          have := length_lt_of_afterColourCode? found
          withoutColourCodes after
      | none => byte :: withoutColourCodes rest
termination_by bytes => bytes.length
decreasing_by
  · assumption
  · exact Nat.lt_succ_self _

@[simp] theorem withoutColourCodes_nil : withoutColourCodes [] = [] := by
  rw [withoutColourCodes]

theorem withoutColourCodes_append_code {code : Bytes} (isCode : IsColourCode code) (rest : Bytes) :
    withoutColourCodes (code ++ rest) = withoutColourCodes rest := by
  have found : afterColourCode? (code ++ rest) = some rest :=
    afterColourCode?_eq_some_iff.mpr ⟨code, isCode, rfl⟩
  cases whole : code ++ rest with
  | nil =>
      rw [whole] at found
      cases found
  | cons byte bytes =>
      rw [whole] at found
      rw [withoutColourCodes]
      split
      next after same =>
        cases found.symm.trans same
        rfl
      next none => cases found.symm.trans none

/-- Bytes without an escape character are kept in front of what follows them. -/
theorem withoutColourCodes_append {start : Bytes} (unescaped : escape ∉ start) (rest : Bytes) :
    withoutColourCodes (start ++ rest) = start ++ withoutColourCodes rest := by
  induction start with
  | nil => rfl
  | cons byte start ih =>
      rw [List.mem_cons, not_or] at unescaped
      have none := afterColourCode?_of_ne (Ne.symm unescaped.1) (start ++ rest)
      rw [List.cons_append, withoutColourCodes]
      split
      next after found => cases none.symm.trans found
      next => rw [ih unescaped.2, List.cons_append]

example : withoutColourCodes (Utf8.encode "[0m\x1b[33ma\x1b[mb") =
    Utf8.encode "[0ma\x1b[mb" := by
  decide +kernel

end Bytes

theorem Utf8.escape_mem_encode_iff {text : String} :
    Bytes.escape ∈ encode text ↔ '\x1b' ∈ text.toList :=
  mem_encode_iff (show '\x1b'.toNat ≤ 127 by decide)

namespace Diagnostic

theorem isColourCode_resetCode : Bytes.IsColourCode (Utf8.encode resetCode) :=
  ⟨[0x30], by decide, by decide, by decide⟩

theorem isColourCode_boldCode : Bytes.IsColourCode (Utf8.encode boldCode) :=
  ⟨[0x31], by decide, by decide, by decide⟩

theorem isColourCode_yellowCode : Bytes.IsColourCode (Utf8.encode yellowCode) :=
  ⟨[0x33, 0x33], by decide, by decide, by decide⟩

theorem line_coloured (text : String) :
    line .coloured text =
      "\x1b[0m\x1b[1m\x1b[33m" ++ "Did not match line:" ++ "\x1b[0m" ++ " " ++ text ++ "\n" := by
  simp [line, fragments, lead, resetCode, boldCode, yellowCode, ← String.toList_inj]

/-- Without its codes, a coloured diagnostic is a plain one, if its text is free of escape
characters. -/
theorem withoutColourCodes_line_coloured {text : String} (unescaped : '\x1b' ∉ text.toList)
    (rest : Bytes) :
    Bytes.withoutColourCodes (Utf8.encode (line .coloured text) ++ rest) =
      Utf8.encode (line .plain text) ++ Bytes.withoutColourCodes rest := by
  have leadUnescaped : Bytes.escape ∉ Utf8.encode lead := by decide
  have textUnescaped : Bytes.escape ∉ Utf8.encode (" " ++ text ++ "\n") := by
    rw [Utf8.escape_mem_encode_iff]
    simp [unescaped]
  have coloured : Utf8.encode (line .coloured text) ++ rest =
      Utf8.encode resetCode ++ (Utf8.encode boldCode ++ (Utf8.encode yellowCode ++
        (Utf8.encode lead ++ (Utf8.encode resetCode ++
          (Utf8.encode (" " ++ text ++ "\n") ++ rest))))) := by
    simp [line, fragments]
  have plain : Utf8.encode (line .plain text) =
      Utf8.encode lead ++ Utf8.encode (" " ++ text ++ "\n") := by
    simp [line, fragments]
  rw [coloured, Bytes.withoutColourCodes_append_code isColourCode_resetCode,
    Bytes.withoutColourCodes_append_code isColourCode_boldCode,
    Bytes.withoutColourCodes_append_code isColourCode_yellowCode,
    Bytes.withoutColourCodes_append leadUnescaped,
    Bytes.withoutColourCodes_append_code isColourCode_resetCode,
    Bytes.withoutColourCodes_append textUnescaped, plain, List.append_assoc]

theorem withoutColourCodes_flatMap_line {texts : List String}
    (unescaped : ∀ text ∈ texts, '\x1b' ∉ text.toList) :
    Bytes.withoutColourCodes
        (texts.flatMap fun text => Utf8.encode (Diagnostic.line .coloured text)) =
      texts.flatMap fun text => Utf8.encode (Diagnostic.line .plain text) := by
  induction texts with
  | nil => exact Bytes.withoutColourCodes_nil
  | cons text texts ih =>
      rw [List.forall_mem_cons] at unescaped
      rw [List.flatMap_cons, List.flatMap_cons, withoutColourCodes_line_coloured unescaped.1,
        ih unescaped.2]

end Diagnostic

end ExpectationTable
