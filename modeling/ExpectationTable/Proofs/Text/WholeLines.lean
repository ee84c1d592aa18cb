import ExpectationTable.Proofs.Text.Lines

/-!
# Whole lines

A whole line has one line feed, at its end. All bytes are whole lines, as many as there are line
feeds, and an unbroken part after them. So lines are cut off in the same places whatever follows the
last line feed, and bytes that end a line can be cut into lines apart from what comes after them.
-/

namespace ExpectationTable.Bytes

/-- The bytes are one line with its line feed. -/
def IsWholeLine (bytes : Bytes) : Prop :=
  ∃ start, lineFeed ∉ start ∧ bytes = start ++ [lineFeed]

namespace IsWholeLine

variable {bytes part : Bytes}

theorem count_lineFeed (whole : bytes.IsWholeLine) : bytes.count lineFeed = 1 := by
  rcases whole with ⟨start, unbroken, rfl⟩
  rw [List.count_append, List.count_eq_zero.mpr unbroken, List.count_singleton_self]

/-- A beginning that is not all of a whole line has no line feed. -/
theorem lineFeed_notMem_of_prefix (whole : bytes.IsWholeLine) (beginning : part <+: bytes)
    (partly : part ≠ bytes) : lineFeed ∉ part := by
  rcases whole with ⟨start, unbroken, rfl⟩
  cases List.prefix_concat_iff.mp beginning with
  | inl same => contradiction
  | inr shorter =>
      intro member
      exact unbroken (shorter.mem member)

theorem encode_append_lineFeed {text : String} (unbroken : '\n' ∉ text.toList) :
    IsWholeLine (Utf8.encode (text ++ "\n")) := by
  refine ⟨Utf8.encode text, ?_, Utf8.encode_append text "\n"⟩
  intro member
  exact unbroken (Utf8.lineFeed_mem_encode_iff.mp member)

/-- Whole lines in front of other bytes are cut off as they are. -/
theorem lines_flatten_append {pieces : List Bytes} (whole : ∀ piece ∈ pieces, IsWholeLine piece)
    (rest : Bytes) : lines (pieces.flatten ++ rest) = pieces ++ lines rest := by
  induction pieces with
  | nil => rfl
  | cons piece pieces ih =>
      rw [List.forall_mem_cons] at whole
      rcases whole.1 with ⟨start, unbroken, rfl⟩
      rw [List.flatten_cons, List.append_assoc, List.append_assoc, List.singleton_append,
        lines_append_lineFeed unbroken, ih whole.2, List.cons_append]

theorem lines_flatten {pieces : List Bytes} (whole : ∀ piece ∈ pieces, IsWholeLine piece) :
    lines pieces.flatten = pieces := by
  have cut := lines_flatten_append whole []
  rwa [List.append_nil, lines_nil, List.append_nil] at cut

theorem count_lineFeed_flatten {pieces : List Bytes}
    (whole : ∀ piece ∈ pieces, IsWholeLine piece) :
    pieces.flatten.count lineFeed = pieces.length := by
  induction pieces with
  | nil => rfl
  | cons piece pieces ih =>
      rw [List.forall_mem_cons] at whole
      rw [List.flatten_cons, List.count_append, whole.1.count_lineFeed, ih whole.2,
        List.length_cons, Nat.add_comm]

end IsWholeLine

/-- Bytes are whole lines and an unbroken part after them. -/
theorem exists_wholeLines_append (bytes : Bytes) :
    ∃ (pieces : List Bytes) (part : Bytes), (∀ piece ∈ pieces, IsWholeLine piece) ∧
      lineFeed ∉ part ∧ bytes = pieces.flatten ++ part := by
  induction bytes with
  | nil => exact ⟨[], [], by simp, by simp, rfl⟩
  | cons byte rest ih =>
      rcases ih with ⟨pieces, part, whole, unbroken, rfl⟩
      by_cases ends : byte = lineFeed
      · subst ends
        refine ⟨[lineFeed] :: pieces, part, ?_, unbroken, rfl⟩
        exact List.forall_mem_cons.mpr ⟨⟨[], List.not_mem_nil, rfl⟩, whole⟩
      · cases pieces with
        | nil =>
            refine ⟨[], byte :: part, whole, ?_, rfl⟩
            rw [List.mem_cons, not_or]
            exact ⟨Ne.symm ends, unbroken⟩
        | cons first pieces =>
            rcases List.forall_mem_cons.mp whole with ⟨⟨start, clear, rfl⟩, others⟩
            refine ⟨(byte :: start ++ [lineFeed]) :: pieces, part, ?_, unbroken, rfl⟩
            refine List.forall_mem_cons.mpr ⟨⟨byte :: start, ?_, rfl⟩, others⟩
            rw [List.mem_cons, not_or]
            exact ⟨Ne.symm ends, clear⟩

/-- The whole lines of the bytes are their first lines, and the part after them, if there is one, is
the last. -/
theorem lines_wholeLines_append {pieces : List Bytes} {part : Bytes}
    (whole : ∀ piece ∈ pieces, IsWholeLine piece) (unbroken : lineFeed ∉ part) :
    lines (pieces.flatten ++ part) = pieces ++ if part = [] then [] else [part] := by
  rw [IsWholeLine.lines_flatten_append whole]
  split
  next empty => rw [empty, lines_nil]
  next nonempty => rw [lines_of_unbroken nonempty unbroken]

theorem isWholeLine_of_lines_eq {bytes line : Bytes} {first more : List Bytes}
    (cut : bytes.lines = first ++ line :: more) : ∀ piece ∈ first, IsWholeLine piece := by
  rcases exists_wholeLines_append bytes with ⟨pieces, part, whole, unbroken, rfl⟩
  rw [lines_wholeLines_append whole unbroken] at cut
  split at cut
  next =>
    intro piece member
    apply whole
    rw [List.append_nil] at cut
    exact cut ▸ List.mem_append_left _ member
  next =>
    have front : first ++ (line :: more).dropLast = pieces := by
      rw [← List.dropLast_append_of_ne_nil (List.cons_ne_nil line more), ← cut,
        List.dropLast_concat]
    intro piece member
    apply whole
    exact front ▸ List.mem_append_left _ member

/-- Bytes that end a line are cut into lines apart from what follows them. -/
theorem lines_append {first : Bytes} (ends : first.endsLine = true) (second : Bytes) :
    lines (first ++ second) = lines first ++ lines second := by
  rcases exists_wholeLines_append first with ⟨pieces, part, whole, unbroken, rfl⟩
  have nothing : part = [] := by
    apply Decidable.byContradiction
    intro nonempty
    have last : (pieces.flatten ++ part).getLast? = part.getLast? := by
      simp [List.getLast?_append, List.getLast?_eq_some_getLast nonempty]
    rw [endsLine, last, ← endsLine, endsLine_of_unbroken nonempty unbroken] at ends
    cases ends
  rw [nothing, List.append_nil, IsWholeLine.lines_flatten_append whole,
    IsWholeLine.lines_flatten whole]

end ExpectationTable.Bytes
