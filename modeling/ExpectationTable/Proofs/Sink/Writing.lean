import ExpectationTable.Sink

/-!
# What writing leaves in a sink

Whatever the faults of a sink are, writing only ever adds to what it holds. If writing succeeds, all
bytes were placed, once and in order. If it fails, a beginning of them was placed that is not all.
Interruptions and partial placements on the way leave no trace. This holds for a single text and for
texts that are written one after the other, where the first failure is the last attempt.
-/

namespace ExpectationTable

/-- How much was placed of what was offered: everything after a success, and after a failure a
beginning that is not everything. -/
def Placed {ε α : Type} (offered placed : Bytes) : Except ε α → Prop
  | .ok _ => placed = offered
  | .error _ => placed <+: offered ∧ placed ≠ offered

namespace Placed

variable {ε α : Type} {offered placed : Bytes} {result : Except ε α}

theorem append_left (before : Bytes) (written : Placed offered placed result) :
    Placed (before ++ offered) (before ++ placed) result := by
  cases result with
  | ok value => exact congrArg (before ++ ·) written
  | error error =>
      constructor
      · exact (List.prefix_append_right_inj before).mpr written.1
      · intro same
        exact written.2 (List.append_cancel_left same)

theorem append_right {error : ε} (written : Placed offered placed (.error error : Except ε α))
    (later : Bytes) : Placed (offered ++ later) placed (.error error : Except ε α) := by
  rcases written with ⟨beginning, partly⟩
  constructor
  · exact beginning.trans (List.prefix_append offered later)
  · intro same
    rw [same] at beginning
    have length := beginning.length_le
    rw [List.length_append] at length
    have nothing : later = [] := List.length_eq_zero_iff.mp (by omega)
    exact partly (by rw [same, nothing, List.append_nil])

end Placed

namespace Sink

variable {sink next : Sink} {bytes : Bytes}

@[simp] theorem append_nil (sink : Sink) : sink.append [] = sink := by
  simp [append]

@[simp] theorem append_append (first second : Bytes) (sink : Sink) :
    (sink.append first).append second = sink.append (first ++ second) := by
  simp [append, ← Array.toList_inj]

/-- An attempt to write adds as many of the bytes as it says, from the first on. -/
theorem bytes_write {count : Nat} (attempt : sink.write bytes = (.ok count, next)) :
    next.bytes = sink.bytes ++ bytes.take count := by
  rw [write] at attempt
  split at attempt
  next =>
    cases attempt
    simp
  next limit active =>
    dsimp only at attempt
    split at attempt
    next full =>
      cases refusal : limit.refusal with
      | failing failure => simp [Refusal.answer, refusal] at attempt
      | takingNothing =>
          simp only [Refusal.answer, refusal] at attempt
          cases attempt
          simp [Sink.bytes]
    next =>
      cases attempt
      rw [bytes_append]
      simp

theorem bytes_write_of_error {failure : Failure}
    (attempt : sink.write bytes = (.error failure, next)) : next.bytes = sink.bytes := by
  rw [write] at attempt
  split at attempt
  next => cases attempt
  next limit active =>
    dsimp only at attempt
    split at attempt
    next full =>
      rw [← (Prod.mk.inj attempt).2]
      rfl
    next => cases attempt

@[simp] theorem writeAll_nil (sink : Sink) : sink.writeAll [] = (.ok (), sink) := by
  rw [writeAll, if_pos rfl]

theorem writeAll_of_write_eq_ok {count : Nat} (nonempty : bytes ≠ [])
    (attempt : sink.write bytes = (.ok (count + 1), next)) :
    sink.writeAll bytes = next.writeAll (bytes.drop (count + 1)) := by
  rw [writeAll, if_neg nonempty]
  split <;> simp_all

theorem writeAll_of_write_eq_zero (nonempty : bytes ≠ [])
    (attempt : sink.write bytes = (.ok 0, next)) :
    sink.writeAll bytes = (.error .tookNothing, next) := by
  rw [writeAll, if_neg nonempty]
  split <;> simp_all

/-- An attempt that failed is the last, unless it was interrupted. -/
theorem writeAll_of_write_eq_error {failure : Failure} (nonempty : bytes ≠ [])
    (attempt : sink.write bytes = (.error failure, next)) :
    sink.writeAll bytes =
      if failure.kind = .interrupted then next.writeAll bytes else (.error failure, next) := by
  rw [writeAll, if_neg nonempty]
  split <;> simp_all

/-- Writing adds what was placed. -/
theorem writeAll_placed (bytes : Bytes) (sink : Sink) :
    ∃ placed, (sink.writeAll bytes).2.bytes = sink.bytes ++ placed ∧
      Placed bytes placed (sink.writeAll bytes).1 := by
  fun_induction writeAll bytes sink with
  | case1 sink => exact ⟨[], by simp, rfl⟩
  | case2 bytes sink nonempty next attempt =>
      refine ⟨[], by simpa using bytes_write attempt, List.nil_prefix, ?_⟩
      exact fun same => nonempty same.symm
  | case3 bytes sink nonempty count next attempt ih =>
      rcases ih with ⟨placed, added, written⟩
      refine ⟨bytes.take (count + 1) ++ placed, ?_, ?_⟩
      · rw [added, bytes_write attempt, List.append_assoc]
      · simpa using written.append_left (bytes.take (count + 1))
  | case4 bytes sink nonempty failure next attempt interrupted ih =>
      rw [bytes_write_of_error attempt] at ih
      exact ih
  | case5 bytes sink nonempty failure next attempt final =>
      refine ⟨[], by simpa using bytes_write_of_error attempt, List.nil_prefix, ?_⟩
      exact fun same => nonempty same.symm

theorem exists_placed_of_writeFragments {fragments : List String} {result : Except Failure Unit}
    (written : sink.writeFragments fragments = (result, next)) :
    ∃ placed, next.bytes = sink.bytes ++ placed ∧
      Placed (fragments.flatMap Utf8.encode) placed result := by
  induction fragments generalizing sink with
  | nil =>
      cases written
      exact ⟨[], by simp, rfl⟩
  | cons fragment fragments ih =>
      rcases writeAll_placed (Utf8.encode fragment) sink with ⟨start, added, first⟩
      rw [List.flatMap_cons]
      rw [writeFragments] at written
      split at written
      next between attempt =>
        rw [attempt] at added first
        obtain rfl : start = Utf8.encode fragment := first
        rcases ih written with ⟨placed, addedThen, others⟩
        refine ⟨Utf8.encode fragment ++ placed, ?_, others.append_left _⟩
        rw [addedThen, added, List.append_assoc]
      next failure between attempt =>
        rw [attempt] at added first
        cases written
        exact ⟨start, added, first.append_right _⟩

/-! ## What writing leaves alone -/

/-- The two sinks flush alike: as often so far, and with the same fault from here on. -/
structure FlushesLike (sink other : Sink) : Prop where
  flushes : sink.flushes = other.flushes
  flushFault : sink.flushFault = other.flushFault

theorem FlushesLike.symm (alike : sink.FlushesLike next) : next.FlushesLike sink :=
  ⟨alike.flushes.symm, alike.flushFault.symm⟩

theorem FlushesLike.trans {first second third : Sink} (left : first.FlushesLike second)
    (right : second.FlushesLike third) : first.FlushesLike third :=
  ⟨left.flushes.trans right.flushes, left.flushFault.trans right.flushFault⟩

/-- Sinks that flush alike both flush, or both fail to, and they flush alike after that. -/
theorem FlushesLike.flush {sink other : Sink} (alike : sink.FlushesLike other) :
    sink.flush.1 = other.flush.1 ∧ sink.flush.2.FlushesLike other.flush.2 := by
  rcases sink with ⟨contents, limit, flushFault, flushes⟩
  rcases other with ⟨otherContents, otherLimit, otherFault, otherFlushes⟩
  obtain ⟨rfl, rfl⟩ : flushes = otherFlushes ∧ flushFault = otherFault := ⟨alike.1, alike.2⟩
  cases flushFault with
  | none => exact ⟨rfl, rfl, rfl⟩
  | some fault =>
      simp only [Sink.flush]
      split
      next => exact ⟨rfl, rfl, rfl⟩
      next => exact ⟨rfl, rfl, rfl⟩

@[simp] theorem limit_flush (sink : Sink) : sink.flush.2.limit = sink.limit := by
  rw [flush]
  split
  next => rfl
  next fault => split <;> rfl

theorem flushesLike_of_write {answer : Except Failure Nat}
    (attempt : sink.write bytes = (answer, next)) : next.FlushesLike sink := by
  rw [write] at attempt
  split at attempt
  next =>
    cases attempt
    exact ⟨rfl, rfl⟩
  next limit active =>
    dsimp only at attempt
    split at attempt <;> cases attempt <;> exact ⟨rfl, rfl⟩

theorem flushesLike_writeAll (bytes : Bytes) (sink : Sink) :
    (sink.writeAll bytes).2.FlushesLike sink := by
  fun_induction writeAll bytes sink with
  | case1 sink => exact ⟨rfl, rfl⟩
  | case2 bytes sink nonempty next attempt => exact flushesLike_of_write attempt
  | case3 bytes sink nonempty count next attempt ih =>
      exact ih.trans (flushesLike_of_write attempt)
  | case4 bytes sink nonempty failure next attempt interrupted ih =>
      exact ih.trans (flushesLike_of_write attempt)
  | case5 bytes sink nonempty failure next attempt final => exact flushesLike_of_write attempt

theorem flushesLike_of_writeFragments {fragments : List String} {result : Except Failure Unit}
    (written : sink.writeFragments fragments = (result, next)) : next.FlushesLike sink := by
  induction fragments generalizing sink with
  | nil =>
      cases written
      exact ⟨rfl, rfl⟩
  | cons fragment fragments ih =>
      have first := sink.flushesLike_writeAll (Utf8.encode fragment)
      rw [writeFragments] at written
      split at written
      next between attempt =>
        rw [attempt] at first
        exact (ih written).trans first
      next failure between attempt =>
        rw [attempt] at first
        cases written
        exact first

/-! ## Sinks that flush -/

/-- No fault keeps the sink from flushing. -/
def Flushable (sink : Sink) : Prop :=
  ∀ fault ∈ sink.flushFault, fault.recurrence.isOver = true

namespace Flushable

variable {sink other : Sink}

theorem flush_eq (flushable : sink.Flushable) :
    sink.flush = (.ok (), { sink with flushes := sink.flushes + 1 }) := by
  rw [Sink.flush]
  split
  next => rfl
  next fault faulty => rw [if_pos (flushable fault faulty)]

theorem flush_ok (flushable : sink.Flushable) : sink.flush.1 = .ok () :=
  congrArg Prod.fst flushable.flush_eq

theorem of_flushesLike (flushable : sink.Flushable) (alike : other.FlushesLike sink) :
    other.Flushable := by
  intro fault faulty
  exact flushable fault (alike.flushFault ▸ faulty)

end Flushable

/-! ## Sinks that never fail -/

/-- No limit binds the sink, and no fault keeps it from flushing. -/
structure Reliable (sink : Sink) : Prop where
  unlimited : sink.activeLimit? = none
  flushable : sink.Flushable

theorem reliable_default : Reliable {} where
  unlimited := rfl
  flushable := by
    intro fault faulty
    cases faulty

namespace Reliable

variable (reliable : sink.Reliable)

include reliable

theorem append (bytes : Bytes) : (sink.append bytes).Reliable :=
  ⟨reliable.unlimited, reliable.flushable⟩

theorem write_eq (bytes : Bytes) : sink.write bytes = (.ok bytes.length, sink.append bytes) := by
  rw [write, reliable.unlimited]

/-- Everything can be written to a reliable sink. -/
theorem writeAll_eq (bytes : Bytes) : sink.writeAll bytes = (.ok (), sink.append bytes) := by
  by_cases empty : bytes = []
  · subst empty
    rw [writeAll, if_pos rfl, append_nil]
  · rw [writeAll, if_neg empty]
    split
    next next attempt =>
      rw [reliable.write_eq, Prod.mk.injEq, Except.ok.injEq, List.length_eq_zero_iff] at attempt
      exact absurd attempt.1 empty
    next count next attempt =>
      rw [reliable.write_eq, Prod.mk.injEq, Except.ok.injEq] at attempt
      rw [← Nat.succ_eq_add_one, ← attempt.1, ← attempt.2, List.drop_length, writeAll, if_pos rfl]
    next failure next attempt =>
      rw [reliable.write_eq] at attempt
      cases attempt

theorem writeFragments_eq (fragments : List String) :
    sink.writeFragments fragments =
      (.ok (), sink.append (fragments.flatMap Utf8.encode)) := by
  induction fragments generalizing sink with
  | nil => simp [writeFragments]
  | cons fragment fragments ih =>
      rw [writeFragments, reliable.writeAll_eq]
      dsimp only
      rw [ih (reliable.append _), append_append, List.flatMap_cons]

theorem flush_eq : sink.flush = (.ok (), { sink with flushes := sink.flushes + 1 }) :=
  reliable.flushable.flush_eq

theorem flush : sink.flush.2.Reliable := by
  rw [reliable.flush_eq]
  exact ⟨reliable.unlimited, reliable.flushable⟩

end Reliable

end Sink

end ExpectationTable
