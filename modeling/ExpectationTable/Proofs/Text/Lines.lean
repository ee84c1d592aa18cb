import ExpectationTable.Bytes
import ExpectationTable.Text.LineEnding

/-!
# Lines of texts and of bytes

Bytes and texts are cut into lines alike, behind each line feed. The byte of a character of ASCII is
in no code but its own. So the line feeds of a text can be found in its bytes, and cutting the bytes
into lines is the same as cutting the text. A line that was cut off has no line feed but at its end,
and none when the ending is trimmed.
-/

namespace ExpectationTable

/-- The lines of a list, each up to and including its line feed. What follows the last line feed, if
anything does, is a last line. -/
def linesOf {α : Type} [DecidableEq α] (feed : α) : List α → List (List α)
  | [] => []
  | head :: rest =>
      if head = feed then
        [head] :: linesOf feed rest
      else
        match linesOf feed rest with
        | [] => [[head]]
        | line :: more => (head :: line) :: more

section Cutting

variable {α : Type} [DecidableEq α] {feed : α}

theorem flatten_linesOf (list : List α) : (linesOf feed list).flatten = list := by
  induction list with
  | nil => rfl
  | cons head rest ih =>
      rw [linesOf]
      split
      next => simp [ih]
      next =>
        split
        next none => simpa [none] using ih
        next line more first => simpa [first] using ih

theorem linesOf_append_feed {start : List α} (unbroken : feed ∉ start) (rest : List α) :
    linesOf feed (start ++ feed :: rest) = (start ++ [feed]) :: linesOf feed rest := by
  induction start with
  | nil => simp [linesOf]
  | cons head start ih =>
      rw [List.mem_cons, not_or] at unbroken
      rw [List.cons_append, linesOf, if_neg (Ne.symm unbroken.1), ih unbroken.2]
      rfl

/-- A start without a line feed goes to the first line. -/
theorem linesOf_append_of_notMem {start : List α} (nonempty : start ≠ []) (unbroken : feed ∉ start)
    (rest : List α) :
    linesOf feed (start ++ rest) =
      (start ++ (linesOf feed rest).head?.getD []) :: (linesOf feed rest).tail := by
  induction start with
  | nil => contradiction
  | cons head start ih =>
      rw [List.mem_cons, not_or] at unbroken
      rw [List.cons_append, linesOf, if_neg (Ne.symm unbroken.1)]
      cases start with
      | nil =>
          rw [List.nil_append]
          cases linesOf feed rest <;> rfl
      | cons next start =>
          rw [ih (List.cons_ne_nil _ _) unbroken.2]
          rfl

theorem linesOf_of_notMem {list : List α} (nonempty : list ≠ []) (unbroken : feed ∉ list) :
    linesOf feed list = [list] := by
  have whole := linesOf_append_of_notMem nonempty unbroken []
  rw [List.append_nil] at whole
  rw [whole]
  simp [linesOf]

theorem feed_notMem_dropLast_of_mem_linesOf {list line : List α}
    (member : line ∈ linesOf feed list) : feed ∉ line.dropLast := by
  induction list generalizing line with
  | nil => cases member
  | cons head rest ih =>
      rw [linesOf] at member
      split at member
      next =>
        cases member with
        | head => exact List.not_mem_nil
        | tail _ later => exact ih later
      next other =>
        split at member
        next =>
          cases member with
          | head => exact List.not_mem_nil
          | tail _ later => cases later
        next first more split =>
          cases member with
          | head =>
              have unbroken := ih (split ▸ List.mem_cons_self)
              cases first with
              | nil => exact List.not_mem_nil
              | cons next first =>
                  rw [List.dropLast_cons_cons, List.mem_cons, not_or]
                  exact ⟨Ne.symm other, unbroken⟩
          | tail _ later => exact ih (split ▸ List.mem_cons_of_mem _ later)

/-- All lines of a list but the last end with a line feed, and the last ends as the list does. -/
theorem linesOf_eq_concat {list : List α} (nonempty : list ≠ []) :
    ∃ earlier final, linesOf feed list = earlier ++ [final] ∧
      (∀ line ∈ earlier, line.getLast? = some feed) ∧ final.getLast? = list.getLast? := by
  induction list with
  | nil => contradiction
  | cons head rest ih =>
      by_cases last : rest = []
      · subst last
        exact ⟨[], [head], by simp [linesOf], by simp, rfl⟩
      · rcases ih last with ⟨earlier, final, split, ended, ends⟩
        have further : (head :: rest).getLast? = rest.getLast? := List.getLast?_cons_of_ne_nil last
        rw [linesOf, split, further]
        split
        next same =>
          refine ⟨[head] :: earlier, final, rfl, ?_, ends⟩
          exact List.forall_mem_cons.mpr ⟨by rw [same]; rfl, ended⟩
        next other =>
          cases earlier with
          | nil =>
              have filled : final ≠ [] := by
                rintro rfl
                exact last (List.getLast?_eq_none_iff.mp ends.symm)
              refine ⟨[], head :: final, rfl, by simp, ?_⟩
              rw [List.getLast?_cons_of_ne_nil filled, ends]
          | cons line earlier =>
              rcases List.forall_mem_cons.mp ended with ⟨first, others⟩
              refine ⟨(head :: line) :: earlier, final, rfl, ?_, ends⟩
              exact List.forall_mem_cons.mpr ⟨by simp [List.getLast?_cons, first], others⟩

/-- Codes are cut into lines where what they encode is, if only the line feed has a line feed in its
code and no code is empty. -/
theorem linesOf_flatMap {β : Type} [DecidableEq β] {code : α → List β} {byte : β}
    (same : code feed = [byte]) (nonempty : ∀ element ≠ feed, code element ≠ [])
    (unbroken : ∀ element ≠ feed, byte ∉ code element) (list : List α) :
    linesOf byte (list.flatMap code) = (linesOf feed list).map fun line => line.flatMap code := by
  induction list with
  | nil => rfl
  | cons head rest ih =>
      rw [List.flatMap_cons, linesOf]
      split
      next ends =>
        rw [ends, same, List.singleton_append, linesOf, if_pos rfl, ih]
        simp [same]
      next other =>
        rw [linesOf_append_of_notMem (nonempty head other) (unbroken head other), ih]
        cases linesOf feed rest <;> simp

end Cutting

namespace Bytes

def lines (bytes : Bytes) : List Bytes :=
  linesOf lineFeed bytes

@[simp] theorem lines_nil : lines [] = [] := rfl

theorem flatten_lines (bytes : Bytes) : bytes.lines.flatten = bytes :=
  flatten_linesOf bytes

theorem lines_of_unbroken {bytes : Bytes} (nonempty : bytes ≠ []) (unbroken : lineFeed ∉ bytes) :
    bytes.lines = [bytes] :=
  linesOf_of_notMem nonempty unbroken

theorem lines_append_lineFeed {start : Bytes} (unbroken : lineFeed ∉ start) (rest : Bytes) :
    lines (start ++ lineFeed :: rest) = (start ++ [lineFeed]) :: lines rest :=
  linesOf_append_feed unbroken rest

/-- Whether no line is left unfinished. -/
def endsLine (bytes : Bytes) : Bool :=
  bytes.getLast?.all (· == lineFeed)

theorem endsLine_of_unbroken {bytes : Bytes} (nonempty : bytes ≠ [])
    (unbroken : lineFeed ∉ bytes) : bytes.endsLine = false := by
  rw [endsLine, List.getLast?_eq_some_getLast nonempty, Option.all_some, beq_eq_false_iff_ne]
  intro same
  exact unbroken (same ▸ List.getLast_mem nonempty)

@[simp] theorem endsLine_append_lineFeed (start rest : Bytes) :
    endsLine (start ++ lineFeed :: rest) = endsLine rest := by
  rw [endsLine, endsLine, List.getLast?_append, List.getLast?_cons]
  cases rest.getLast? <;> simp

end Bytes

namespace Utf8

open Bytes (lineFeed)

/-- The code of a character beyond ASCII has none of the bytes of ASCII. -/
theorem le_of_mem_utf8EncodeChar {c : Char} {byte : UInt8} (beyond : 127 < c.toNat)
    (member : byte ∈ String.utf8EncodeChar c) : 128 ≤ byte.toNat := by
  rw [Char.toNat] at beyond
  rw [String.utf8EncodeChar, if_neg (Nat.not_le.mpr beyond)] at member
  split at member
  next =>
    simp only [List.mem_cons, List.not_mem_nil, or_false] at member
    rcases member with rfl | rfl <;> simp only [UInt8.toNat_ofNat'] <;> omega
  next =>
    split at member
    next =>
      simp only [List.mem_cons, List.not_mem_nil, or_false] at member
      rcases member with rfl | rfl | rfl <;> simp only [UInt8.toNat_ofNat'] <;> omega
    next =>
      simp only [List.mem_cons, List.not_mem_nil, or_false] at member
      rcases member with rfl | rfl | rfl | rfl <;> simp only [UInt8.toNat_ofNat'] <;> omega

@[simp] theorem utf8EncodeChar_lineFeed : String.utf8EncodeChar '\n' = [lineFeed] := by
  decide

theorem utf8EncodeChar_of_ascii {c : Char} (ascii : c.toNat ≤ 127) :
    String.utf8EncodeChar c = [UInt8.ofNat c.toNat] := by
  rw [Char.toNat] at ascii
  rw [String.utf8EncodeChar, if_pos ascii]
  rfl

/-- The byte of a character of ASCII is in no code but its own. -/
theorem notMem_utf8EncodeChar_of_ne {c other : Char} (ascii : c.toNat ≤ 127) (ne : other ≠ c) :
    UInt8.ofNat c.toNat ∉ String.utf8EncodeChar other := by
  intro member
  have byte : (UInt8.ofNat c.toNat).toNat = c.toNat := by
    rw [UInt8.toNat_ofNat', Nat.mod_eq_of_lt (by omega)]
  by_cases otherAscii : other.toNat ≤ 127
  · rw [utf8EncodeChar_of_ascii otherAscii, List.mem_singleton] at member
    have same := congrArg UInt8.toNat member
    rw [byte, UInt8.toNat_ofNat', Nat.mod_eq_of_lt (by omega)] at same
    exact ne (Char.toNat_inj.mp same.symm)
  · have large := le_of_mem_utf8EncodeChar (Nat.not_le.mp otherAscii) member
    omega

theorem mem_encode_iff {c : Char} (ascii : c.toNat ≤ 127) {text : String} :
    UInt8.ofNat c.toNat ∈ encode text ↔ c ∈ text.toList := by
  rw [encode, List.mem_flatMap]
  constructor
  · rintro ⟨other, inside, member⟩
    by_cases same : other = c
    · exact same ▸ inside
    · exact absurd member (notMem_utf8EncodeChar_of_ne ascii same)
  · intro inside
    refine ⟨c, inside, ?_⟩
    rw [utf8EncodeChar_of_ascii ascii, List.mem_singleton]

theorem lineFeed_notMem_utf8EncodeChar {c : Char} (other : c ≠ '\n') :
    lineFeed ∉ String.utf8EncodeChar c :=
  notMem_utf8EncodeChar_of_ne (show '\n'.toNat ≤ 127 by decide) other

theorem lineFeed_mem_encode_iff {text : String} :
    lineFeed ∈ encode text ↔ '\n' ∈ text.toList :=
  mem_encode_iff (show '\n'.toNat ≤ 127 by decide)

end Utf8

namespace Text

def lines (text : String) : List String :=
  (linesOf '\n' text.toList).map String.ofList

/-- The bytes of a text are cut into lines where the text is. -/
theorem lines_encode (text : String) :
    Bytes.lines (Utf8.encode text) = (lines text).map Utf8.encode := by
  have cut := linesOf_flatMap Utf8.utf8EncodeChar_lineFeed
    (fun c _ => String.utf8EncodeChar_ne_nil)
    (fun c other => Utf8.lineFeed_notMem_utf8EncodeChar other) text.toList
  rw [Utf8.encode, Bytes.lines, cut, lines, List.map_map]
  apply List.map_congr_left
  intro line _
  simp [Utf8.encode]

example : lines "a\n\nb" = ["a\n", "\n", "b"] := by decide

theorem lines_eq_concat {text : String} (nonempty : text.toList ≠ []) :
    ∃ earlier final, lines text = earlier ++ [final] ∧
      (∀ line ∈ earlier, line.toList.getLast? = some '\n') ∧
      final.toList.getLast? = text.toList.getLast? := by
  rcases linesOf_eq_concat nonempty with ⟨earlier, final, split, ended, ends⟩
  refine ⟨earlier.map String.ofList, String.ofList final, ?_, ?_, by simpa using ends⟩
  · rw [lines, split, List.map_append, List.map_singleton]
  · intro line member
    rcases List.mem_map.mp member with ⟨characters, inside, rfl⟩
    simpa using ended characters inside

/-- A line ends with a carriage return only if the text does. -/
theorem getLast?_ne_return_of_mem_lines {text line : String} (member : line ∈ lines text)
    (other : text.toList.getLast? ≠ some '\r') : line.toList.getLast? ≠ some '\r' := by
  have nonempty : text.toList ≠ [] := by
    intro empty
    rw [lines, empty] at member
    cases member
  rcases lines_eq_concat nonempty with ⟨earlier, final, split, ended, ends⟩
  rw [split, List.mem_append, List.mem_singleton] at member
  rcases member with inside | rfl
  · simp [ended line inside]
  · rwa [ends]

theorem lineFeed_mem_dropLast_encode {text : String} (inside : '\n' ∈ text.toList.dropLast) :
    Bytes.lineFeed ∈ (Utf8.encode text).dropLast := by
  cases List.eq_nil_or_concat text.toList with
  | inl empty =>
      rw [empty] at inside
      cases inside
  | inr split =>
      rcases split with ⟨start, final, whole⟩
      rw [List.concat_eq_append] at whole
      rw [whole, List.dropLast_concat] at inside
      rw [Utf8.encode, whole, List.flatMap_append, List.flatMap_singleton,
        List.dropLast_append_of_ne_nil String.utf8EncodeChar_ne_nil]
      apply List.mem_append_left
      exact List.mem_flatMap.mpr ⟨'\n', inside, by simp⟩

theorem lineFeed_mem_dropLast_of_mem_trimLineEnding {text : String}
    (left : '\n' ∈ (trimLineEnding text).toList) : '\n' ∈ text.toList.dropLast := by
  rw [toList_trimLineEnding] at left
  have kept : '\n' ∈ dropFinal '\n' text.toList := by
    cases dropFinal_eq_or '\r' (dropFinal '\n' text.toList) with
    | inl same => rwa [same] at left
    | inr longer =>
        rw [longer]
        exact List.mem_append_left _ left
  cases List.eq_nil_or_concat text.toList with
  | inl empty =>
      rw [empty] at kept
      cases kept
  | inr split =>
      rcases split with ⟨start, final, whole⟩
      rw [List.concat_eq_append] at whole
      rw [whole, List.dropLast_concat]
      by_cases same : final = '\n'
      · rwa [whole, same, dropFinal_concat_self] at kept
      · rw [whole, dropFinal_concat_of_ne same] at kept
        simpa [Ne.symm same] using kept

/-- A text is unbroken without its ending, if its bytes are a line. -/
theorem lineFeed_notMem_trimLineEnding {text : String} {bytes : Bytes}
    (line : Utf8.encode text ∈ bytes.lines) : '\n' ∉ (trimLineEnding text).toList := by
  intro left
  apply feed_notMem_dropLast_of_mem_linesOf line
  exact lineFeed_mem_dropLast_encode (lineFeed_mem_dropLast_of_mem_trimLineEnding left)

end Text

end ExpectationTable
