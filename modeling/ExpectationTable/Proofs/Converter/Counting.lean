import ExpectationTable.Proofs.Converter.Run
import ExpectationTable.Proofs.Expectation.Reading
import ExpectationTable.Proofs.Text.WholeLines

/-!
# Counting lines

Each line that is taken up is counted, and once more by its outcome if it could be written. What it
leaves in its sink holds one line feed if it was written in full, and none otherwise: entries and
diagnostics are single lines, and a failure stops in front of their end. So the counts of outcomes
are the counts of line feeds.
-/

namespace ExpectationTable

/-! ## Pieces within the first bytes -/

namespace Bytes

/-- How many of the pieces lie wholly within so many bytes when they are put together: those whose
end is not beyond them. -/
def countWithin (capacity : Nat) (pieces : List Bytes) : Nat :=
  (List.range pieces.length).countP fun index =>
    (pieces.take (index + 1)).flatten.length ≤ capacity

@[simp] theorem countWithin_nil (capacity : Nat) : countWithin capacity [] = 0 := rfl

theorem countWithin_cons (capacity : Nat) (piece : Bytes) (pieces : List Bytes) :
    countWithin capacity (piece :: pieces) =
      if piece.length ≤ capacity then countWithin (capacity - piece.length) pieces + 1 else 0 := by
  have beyond (index : Nat) : ((piece :: pieces).take (index + 1)).flatten.length =
      piece.length + (pieces.take index).flatten.length := by
    rw [List.take_succ_cons, List.flatten_cons, List.length_append]
  rw [countWithin, List.length_cons, List.range_succ_eq_map, List.countP_cons, List.countP_map]
  simp only [Function.comp_def, Nat.succ_eq_add_one, beyond, List.take_zero, List.flatten_nil,
    List.length_nil, Nat.add_zero, decide_eq_true_eq]
  split
  next fits =>
    rw [countWithin]
    congr 2
    funext index
    rw [decide_eq_decide]
    omega
  next exceeds =>
    rw [Nat.add_zero, List.countP_eq_zero]
    intro index _
    rw [decide_eq_true_eq]
    omega

example : countWithin 3 [[1, 2], [3], [4]] = 2 := by decide

/-- The line feeds among the first bytes of whole lines are as many as the lines that lie wholly
within them. -/
theorem count_lineFeed_take_flatten {pieces : List Bytes}
    (whole : ∀ piece ∈ pieces, IsWholeLine piece) (capacity : Nat) :
    (pieces.flatten.take capacity).count lineFeed = countWithin capacity pieces := by
  induction pieces generalizing capacity with
  | nil => simp
  | cons piece pieces ih =>
      rcases List.forall_mem_cons.mp whole with ⟨first, others⟩
      rw [List.flatten_cons, List.take_append, List.count_append, countWithin_cons]
      split
      next fits =>
        rw [List.take_of_length_le fits, first.count_lineFeed, ih others, Nat.add_comm]
      next exceeds =>
        have partly : piece.take capacity ≠ piece := by
          intro same
          have length := congrArg List.length same
          rw [List.length_take] at length
          omega
        have unbroken := first.lineFeed_notMem_of_prefix (List.take_prefix _ _) partly
        have nothing : capacity - piece.length = 0 := by omega
        rw [List.count_eq_zero.mpr unbroken, nothing, List.take_zero, List.count_nil]

end Bytes

theorem Expectation.WellFormed.isWholeLine_entryLine {expectation : Expectation}
    (formed : expectation.WellFormed) :
    Bytes.IsWholeLine (Utf8.encode expectation.entryLine) := by
  apply Bytes.IsWholeLine.encode_append_lineFeed
  have expected : '\n' ∉ expectation.expectedOrEmpty.toList := by
    cases present : expectation.expected with
    | none => simp [present]
    | some expected => simpa [present] using formed.expected_line expected present
  simp [entry, entryFragments, formed.value_line, formed.ending.lineFeed_notMem_typeName,
    formed.ending.lineFeed_notMem_sqlType, expected]

theorem Diagnostic.isWholeLine_line (style : Style) {text : String}
    (unbroken : '\n' ∉ text.toList) : Bytes.IsWholeLine (Utf8.encode (line style text)) := by
  have split : line style text = String.join (fragments style text).dropLast ++ "\n" := by
    cases style <;> simp [line, fragments, ← String.toList_inj]
  rw [split]
  apply Bytes.IsWholeLine.encode_append_lineFeed
  cases style <;>
    simp [fragments, lead, resetCode, boldCode, yellowCode, unbroken]

/-! ## Outcomes -/

namespace Handling

def isConverted : Handling → Bool
  | ⟨_, .ok .converted⟩ => true
  | _ => false

def isUnmatched : Handling → Bool
  | ⟨_, .ok .unmatched⟩ => true
  | _ => false

def isUnwritten : Handling → Bool
  | ⟨_, .error (.write _ _)⟩ => true
  | _ => false

variable {style : Diagnostic.Style} {handled : List Handling} {table diagnostics : Bytes}

theorem AllLeave.length_eq (leave : AllLeave style handled table diagnostics) :
    handled.length =
      handled.countP isConverted + handled.countP isUnmatched + handled.countP isUnwritten := by
  induction leave with
  | nil => rfl
  | cons first others ih =>
      rw [List.length_cons, ih, List.countP_cons, List.countP_cons, List.countP_cons]
      cases first <;> simp only [isConverted, isUnmatched, isUnwritten] <;> simp <;> omega

/-- The table has as many line feeds as there are entries. -/
theorem AllLeave.count_table (leave : AllLeave style handled table diagnostics) :
    table.count Bytes.lineFeed = handled.countP isConverted := by
  induction leave with
  | nil => rfl
  | cons first others ih =>
      rw [List.count_append, ih, Nat.add_comm, List.countP_cons]
      cases first with
      | entry read =>
          have whole := (Expectation.wellFormed_of_parse? read).isWholeLine_entryLine
          simp [whole.count_lineFeed, isConverted]
      | entryCut read beginning partly =>
          have whole := (Expectation.wellFormed_of_parse? read).isWholeLine_entryLine
          have unbroken := whole.lineFeed_notMem_of_prefix beginning partly
          simp [List.count_eq_zero.mpr unbroken, isConverted]
      | diagnostic unread => rfl
      | diagnosticCut unread beginning partly => rfl

/-- The diagnostics have as many line feeds as there are diagnostics, if the reported texts have
none of their own. -/
theorem AllLeave.count_diagnostics (leave : AllLeave style handled table diagnostics)
    (unbroken : ∀ handling ∈ handled, '\n' ∉ (Text.trimLineEnding handling.line).toList) :
    diagnostics.count Bytes.lineFeed = handled.countP isUnmatched := by
  induction leave with
  | nil => rfl
  | cons first others ih =>
      rw [List.forall_mem_cons] at unbroken
      rw [List.count_append, ih unbroken.2, Nat.add_comm, List.countP_cons]
      have whole := Diagnostic.isWholeLine_line style unbroken.1
      cases first with
      | entry read => rfl
      | entryCut read beginning partly => rfl
      | diagnostic unread => simp [whole.count_lineFeed, isUnmatched]
      | diagnosticCut unread beginning partly =>
          have unbroken := whole.lineFeed_notMem_of_prefix beginning partly
          simp [List.count_eq_zero.mpr unbroken, isUnmatched]

end Handling

theorem Source.lineFeed_notMem_of_readLine {source rest : Source} {text : String}
    (read : source.readLine = (.line text, rest)) :
    '\n' ∉ (Text.trimLineEnding text).toList := by
  rcases Source.deliveries_of_readLine_eq_line read with ⟨bytes, decoded, delivered⟩
  obtain rfl := Utf8.decode?_eq_some_iff.mp decoded
  have first : Delivery.line (Utf8.encode text) ∈ source.deliveries := by simp [delivered]
  rcases Source.exists_mem_lines_of_mem_deliveries first with ⟨all, line⟩
  exact Text.lineFeed_notMem_trimLineEnding line

/-! ## Counts of the converter -/

namespace Converter

/-- The counts rise by the lines that are taken up and by what came of them. -/
structure CountsUp (before : Converter) (handled : List Handling) (after : Converter) : Prop where
  lines : after.summary.lines = before.summary.lines + handled.length
  matched : after.summary.matched =
    before.summary.matched + handled.countP Handling.isConverted
  unmatched : after.summary.unmatched =
    before.summary.unmatched + handled.countP Handling.isUnmatched

/-- Counting is cumulative. A line that cannot be written is counted as a line only, and finishing
counts nothing. -/
theorem CountsUp.isCumulative : IsCumulative CountsUp where
  refl converter := ⟨rfl, rfl, rfl⟩
  line step := by cases step <;> exact ⟨rfl, rfl, rfl⟩
  trans first second := by
    constructor
    · rw [second.lines, first.lines, List.length_append, Nat.add_assoc]
    · rw [second.matched, first.matched, List.countP_append, Nat.add_assoc]
    · rw [second.unmatched, first.unmatched, List.countP_append, Nat.add_assoc]
  finish converter := by
    have kept := converter.finish_keeps.2.2.2
    constructor <;> rw [kept] <;> rfl

theorem Runs.unbroken {source : Source} {converter : Converter} {handled : List Handling}
    {conversion : Conversion} (run : Runs source converter handled conversion) :
    ∀ handling ∈ handled, '\n' ∉ (Text.trimLineEnding handling.line).toList := by
  induction run with
  | line read taken more ih =>
      exact List.forall_mem_cons.mpr ⟨Source.lineFeed_notMem_of_readLine read, ih⟩
  | unwritten read taken =>
      exact List.forall_mem_singleton.mpr (Source.lineFeed_notMem_of_readLine read)
  | unread read =>
      intro handling member
      cases member
  | ended read =>
      intro handling member
      cases member

end Converter

end ExpectationTable
