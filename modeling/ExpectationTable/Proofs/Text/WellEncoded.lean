import ExpectationTable.Proofs.Text.WholeLines
import Mathlib.Data.List.TakeWhile
import Mathlib.Data.Nat.Find

/-!
# Well encoded bytes

Bytes are well encoded if they are those of a text. No line feed is a part of another code, so bytes
are well encoded exactly if all of their lines are. Of bytes that are not, a longest beginning is
still well encoded: it ends in the first line that is not, and so its line feeds are as many as the
lines in front of that one.
-/

namespace ExpectationTable.Utf8

open Bytes (lineFeed lines IsWholeLine)

def isText (bytes : Bytes) : Bool :=
  (decode? bytes).isSome

theorem isText_iff {bytes : Bytes} : isText bytes = true ↔ ∃ text, bytes = encode text := by
  rw [isText, Option.isSome_iff_exists]
  exact exists_congr fun _ => decode?_eq_some_iff

@[simp] theorem isText_encode (text : String) : isText (encode text) = true :=
  isText_iff.mpr ⟨text, rfl⟩

theorem isText_append {first second : Bytes} (firstText : isText first = true)
    (secondText : isText second = true) : isText (first ++ second) = true := by
  obtain ⟨start, rfl⟩ := isText_iff.mp firstText
  obtain ⟨rest, rfl⟩ := isText_iff.mp secondText
  rw [← encode_append]
  exact isText_encode _

theorem isText_flatten {pieces : List Bytes} (texts : ∀ piece ∈ pieces, isText piece = true) :
    isText pieces.flatten = true := by
  induction pieces with
  | nil => exact isText_encode ""
  | cons piece pieces ih =>
      rw [List.forall_mem_cons] at texts
      rw [List.flatten_cons]
      exact isText_append texts.1 (ih texts.2)

theorem isText_of_mem_lines {bytes line : Bytes} (text : isText bytes = true)
    (member : line ∈ bytes.lines) : isText line = true := by
  obtain ⟨whole, rfl⟩ := isText_iff.mp text
  rw [Text.lines_encode] at member
  rcases List.mem_map.mp member with ⟨part, -, rfl⟩
  exact isText_encode part

/-- To judge all lines is to judge all bytes. -/
theorem all_isText_lines (bytes : Bytes) : bytes.lines.all isText = isText bytes := by
  rw [Bool.eq_iff_iff, List.all_eq_true]
  constructor
  · intro texts
    rw [← Bytes.flatten_lines bytes]
    exact isText_flatten texts
  · intro text line
    exact isText_of_mem_lines text

theorem length_filterMap_decode? {lines : List Bytes}
    (texts : ∀ line ∈ lines, isText line = true) :
    (lines.filterMap decode?).length = lines.length := by
  rw [List.length_filterMap_eq_countP, List.countP_eq_length]
  exact texts

/-! ## The longest beginning that is well encoded -/

/-- The longest beginning of the bytes that is well encoded. -/
def longestText (bytes : Bytes) : Bytes :=
  bytes.take (Nat.findGreatest (fun length => isText (bytes.take length)) bytes.length)

theorem longestText_beginning (bytes : Bytes) : longestText bytes <+: bytes :=
  List.take_prefix _ _

theorem isText_longestText (bytes : Bytes) : isText (longestText bytes) = true :=
  Nat.findGreatest_spec (P := fun length => isText (bytes.take length)) (Nat.zero_le _)
    (isText_encode "")

/-- Every beginning that is a text is a beginning of the longest one. -/
theorem beginning_longestText {start bytes : Bytes} (beginning : start <+: bytes)
    (text : isText start = true) : start <+: longestText bytes := by
  apply List.prefix_of_prefix_length_le beginning (longestText_beginning bytes)
  have taken := List.prefix_iff_eq_take.mp beginning
  have longest := Nat.le_findGreatest (P := fun length => isText (bytes.take length))
    beginning.length_le (taken ▸ text)
  rw [longestText, List.length_take]
  exact Nat.le_min.mpr ⟨longest, beginning.length_le⟩

/-- What follows the longest text begins with no code: it is at its end, or what comes is invalid or
incomplete. -/
theorem not_longestText_append_beginning (bytes : Bytes) (c : Char) :
    ¬longestText bytes ++ String.utf8EncodeChar c <+: bytes := by
  intro goesOn
  have code : isText (String.utf8EncodeChar c) = true := by
    rw [← List.flatMap_singleton String.utf8EncodeChar c]
    exact isText_iff.mpr ⟨String.ofList [c], by rw [encode, String.toList_ofList]⟩
  have longer := beginning_longestText goesOn (isText_append (isText_longestText bytes) code)
  have nonempty := List.length_pos_iff.mpr (String.utf8EncodeChar_ne_nil (c := c))
  have length := longer.length_le
  rw [List.length_append] at length
  omega

/-- The lines in front of the first that is not well encoded are those that the longest text has
ended. -/
theorem length_takeWhile_isText_lines {bytes : Bytes} (broken : isText bytes = false) :
    (bytes.lines.takeWhile isText).length = (longestText bytes).count lineFeed := by
  apply Nat.le_antisymm
  · -- The lines in front are whole, and all of them together are a text.
    have split := List.takeWhile_append_dropWhile (p := isText) (l := bytes.lines)
    cases left : bytes.lines.dropWhile isText with
    | nil =>
        rw [← all_isText_lines, List.all_eq_false] at broken
        rcases broken with ⟨line, member, invalid⟩
        exact absurd (List.dropWhile_eq_nil_iff.mp left line member) invalid
    | cons line more =>
        rw [left] at split
        have whole := Bytes.isWholeLine_of_lines_eq split.symm
        have text : isText (bytes.lines.takeWhile isText).flatten = true :=
          isText_flatten (List.all_eq_true.mp List.all_takeWhile)
        have beginning : (bytes.lines.takeWhile isText).flatten <+: bytes := by
          have all := Bytes.flatten_lines bytes
          rw [← split, List.flatten_append] at all
          exact ⟨_, all⟩
        rw [← IsWholeLine.count_lineFeed_flatten whole]
        exact (beginning_longestText beginning text).sublist.count_le lineFeed
  · -- The whole lines of the longest text are lines of the bytes.
    rcases longestText_beginning bytes with ⟨rest, all⟩
    have text := isText_longestText bytes
    rcases Bytes.exists_wholeLines_append (longestText bytes) with
      ⟨pieces, part, whole, unbroken, cut⟩
    rw [cut] at all text ⊢
    have texts : ∀ piece ∈ pieces, isText piece = true := by
      intro piece member
      apply isText_of_mem_lines text
      rw [IsWholeLine.lines_flatten_append whole]
      exact List.mem_append_left _ member
    rw [List.append_assoc] at all
    rw [← all, IsWholeLine.lines_flatten_append whole, List.takeWhile_append_of_pos texts,
      List.length_append, List.count_append, IsWholeLine.count_lineFeed_flatten whole,
      List.count_eq_zero.mpr unbroken]
    exact Nat.le_add_right _ _

end ExpectationTable.Utf8
