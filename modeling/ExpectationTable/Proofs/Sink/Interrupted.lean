import ExpectationTable.Proofs.Sink.Writing

/-!
# Writing to a sink that only interrupts

A writer that is interrupted tries again with the bytes that were not placed, and the interruptions
end. So a sink whose limit does nothing but interrupt takes all bytes in the end, each of them once,
however often and wherever in the bytes it interrupts.
-/

namespace ExpectationTable

namespace Sink

/-- A limit of the sink, if it has one, does nothing but interrupt. -/
def OnlyInterrupts (sink : Sink) : Prop :=
  ∀ limit ∈ sink.limit, limit.refusal.isInterruption = true

namespace OnlyInterrupts

variable {sink next : Sink} {bytes : Bytes}

theorem append (only : sink.OnlyInterrupts) (bytes : Bytes) : (sink.append bytes).OnlyInterrupts :=
  only

/-- An attempt to write to a sink that only interrupts places bytes or is interrupted. It never ends
the writing. -/
theorem write_cases (only : sink.OnlyInterrupts) (nonempty : bytes ≠ []) :
    (sink.write bytes).2.OnlyInterrupts ∧
      ((∃ count, (sink.write bytes).1 = .ok (count + 1)) ∨
        ∃ failure, (sink.write bytes).1 = .error failure ∧ failure.kind = .interrupted) := by
  have positive := List.length_pos_iff.mpr nonempty
  rw [write]
  split
  next =>
    refine ⟨only.append _, .inl ?_⟩
    obtain ⟨count, length⟩ := Nat.exists_eq_add_one.mpr positive
    exact ⟨count, congrArg Except.ok length⟩
  next limit active =>
    have interrupts : limit.refusal.isInterruption = true :=
      only limit (activeLimit?_eq_some_iff.mp active).1
    dsimp only
    split
    next full =>
      constructor
      · intro left isNext
        obtain rfl : limit.next = left := Option.some.inj isNext
        exact interrupts
      · right
        cases refusal : limit.refusal with
        | failing failure =>
            rw [refusal] at interrupts
            exact ⟨failure, rfl, eq_of_beq interrupts⟩
        | takingNothing =>
            rw [refusal] at interrupts
            cases interrupts
    next room =>
      refine ⟨only.append _, .inl ?_⟩
      obtain ⟨count, placed⟩ : ∃ count, min (limit.capacity - sink.size) bytes.length = count + 1 :=
        Nat.exists_eq_add_one.mpr (by omega)
      exact ⟨count, congrArg Except.ok placed⟩

/-- A sink that only interrupts takes all bytes in the end. -/
theorem writeAll_ok (only : sink.OnlyInterrupts) (bytes : Bytes) :
    (sink.writeAll bytes).1 = .ok () ∧ (sink.writeAll bytes).2.OnlyInterrupts := by
  fun_induction Sink.writeAll bytes sink with
  | case1 sink => exact ⟨rfl, only⟩
  | case2 bytes sink nonempty next attempt =>
      have attempts := only.write_cases nonempty
      simp [attempt] at attempts
  | case3 bytes sink nonempty count next attempt ih =>
      have attempts := only.write_cases nonempty
      rw [attempt] at attempts
      exact ih attempts.1
  | case4 bytes sink nonempty failure next attempt interrupted ih =>
      have attempts := only.write_cases nonempty
      rw [attempt] at attempts
      exact ih attempts.1
  | case5 bytes sink nonempty failure next attempt final =>
      have attempts := only.write_cases nonempty
      simp [attempt, final] at attempts

theorem writeFragments_ok (only : sink.OnlyInterrupts) (fragments : List String) :
    (sink.writeFragments fragments).1 = .ok () ∧
      (sink.writeFragments fragments).2.OnlyInterrupts := by
  induction fragments generalizing sink with
  | nil => exact ⟨rfl, only⟩
  | cons fragment fragments ih =>
      have first := only.writeAll_ok (Utf8.encode fragment)
      rw [writeFragments]
      split
      next between attempt =>
        rw [attempt] at first
        exact ih first.2
      next failure between attempt =>
        rw [attempt] at first
        cases first.1

theorem bytes_writeFragments (only : sink.OnlyInterrupts) (fragments : List String) :
    (sink.writeFragments fragments).2.bytes =
      sink.bytes ++ fragments.flatMap Utf8.encode := by
  rcases written : sink.writeFragments fragments with ⟨result, next⟩
  have succeeded := (only.writeFragments_ok fragments).1
  rw [written] at succeeded
  rcases exists_placed_of_writeFragments written with ⟨placed, added, all⟩
  obtain rfl : result = .ok () := succeeded
  obtain rfl : placed = fragments.flatMap Utf8.encode := all
  exact added

/-- Writing texts to a sink that only interrupts succeeds. It leaves a sink that only interrupts,
that flushes as before and that holds the texts. -/
theorem exists_writeFragments_eq (only : sink.OnlyInterrupts) (fragments : List String) :
    ∃ next, sink.writeFragments fragments = (.ok (), next) ∧ next.OnlyInterrupts ∧
      next.FlushesLike sink ∧ next.bytes = sink.bytes ++ fragments.flatMap Utf8.encode := by
  have written := only.writeFragments_ok fragments
  have added := only.bytes_writeFragments fragments
  rcases equation : sink.writeFragments fragments with ⟨result, next⟩
  rw [equation] at written added
  obtain rfl : result = .ok () := written.1
  exact ⟨next, rfl, written.2, flushesLike_of_writeFragments equation, added⟩

end OnlyInterrupts

/-! ## Sinks that differ in their interruptions -/

/-- The two sinks differ in nothing but in how often and at which size they interrupt. -/
structure UpToInterruptions (sink other : Sink) : Prop where
  bytes : sink.bytes = other.bytes
  flushesLike : sink.FlushesLike other
  onlyInterrupts : sink.OnlyInterrupts
  otherOnlyInterrupts : other.OnlyInterrupts

namespace UpToInterruptions

variable {sink other : Sink}

theorem writeFragments (alike : sink.UpToInterruptions other) (fragments : List String) :
    (sink.writeFragments fragments).1 = (other.writeFragments fragments).1 ∧
      (sink.writeFragments fragments).2.UpToInterruptions (other.writeFragments fragments).2 := by
  rcases alike.onlyInterrupts.exists_writeFragments_eq fragments with
    ⟨next, written, only, flushes, added⟩
  rcases alike.otherOnlyInterrupts.exists_writeFragments_eq fragments with
    ⟨otherNext, otherWritten, otherOnly, otherFlushes, otherAdded⟩
  rw [written, otherWritten]
  refine ⟨rfl, ?_, (flushes.trans alike.flushesLike).trans otherFlushes.symm, only, otherOnly⟩
  rw [added, otherAdded, alike.bytes]

theorem flush (alike : sink.UpToInterruptions other) :
    sink.flush.2.UpToInterruptions other.flush.2 := by
  refine ⟨?_, alike.flushesLike.flush.2, ?_, ?_⟩
  · rw [bytes_flush, bytes_flush, alike.bytes]
  · rw [OnlyInterrupts, limit_flush]
    exact alike.onlyInterrupts
  · rw [OnlyInterrupts, limit_flush]
    exact alike.otherOnlyInterrupts

end UpToInterruptions

end Sink

end ExpectationTable
