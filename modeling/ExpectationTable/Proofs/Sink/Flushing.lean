import ExpectationTable.Proofs.Sink.Writing

/-!
# What flushing leaves alone

A sink that is flushed holds what it held and takes what it took. So sinks that only differ in how
they were flushed are the same to a writer, and as long as no fault keeps them from flushing they
are the same to all that is done with them but for the count of flushes.
-/

namespace ExpectationTable.Sink

/-- The two sinks take the same bytes: they hold the same so far, and have the same limit from here
on. -/
structure WritesLike (sink other : Sink) : Prop where
  contents : sink.contents = other.contents
  limit : sink.limit = other.limit

namespace WritesLike

variable {sink other next : Sink}

theorem bytes_eq (alike : sink.WritesLike other) : sink.bytes = other.bytes :=
  congrArg Array.toList alike.contents

theorem size_eq (alike : sink.WritesLike other) : sink.size = other.size :=
  congrArg Array.size alike.contents

theorem activeLimit?_eq (alike : sink.WritesLike other) :
    sink.activeLimit? = other.activeLimit? :=
  congrArg (Option.filter _) alike.limit

theorem append (alike : sink.WritesLike other) (bytes : Bytes) :
    (sink.append bytes).WritesLike (other.append bytes) := by
  refine ⟨?_, alike.limit⟩
  rw [Sink.append, Sink.append, alike.contents]

theorem exists_write_eq (alike : sink.WritesLike other) {bytes : Bytes}
    {answer : Except Failure Nat} (attempt : sink.write bytes = (answer, next)) :
    ∃ otherNext, other.write bytes = (answer, otherNext) ∧ next.WritesLike otherNext := by
  rw [write] at attempt
  rw [write, ← alike.activeLimit?_eq, ← alike.size_eq]
  split at attempt
  next =>
    cases attempt
    exact ⟨_, rfl, alike.append bytes⟩
  next limit active =>
    dsimp only at attempt ⊢
    split at attempt
    next full =>
      cases attempt
      exact ⟨_, if_pos full, alike.contents, rfl⟩
    next room =>
      cases attempt
      exact ⟨_, if_neg room, alike.append _⟩

/-- Sinks that write alike write any bytes alike. -/
theorem writeAll (alike : sink.WritesLike other) (bytes : Bytes) :
    (sink.writeAll bytes).1 = (other.writeAll bytes).1 ∧
      (sink.writeAll bytes).2.WritesLike (other.writeAll bytes).2 := by
  fun_induction Sink.writeAll bytes sink generalizing other with
  | case1 sink =>
      rw [writeAll_nil]
      exact ⟨rfl, alike⟩
  | case2 bytes sink nonempty next attempt =>
      rcases alike.exists_write_eq attempt with ⟨otherNext, otherAttempt, after⟩
      rw [writeAll_of_write_eq_zero nonempty otherAttempt]
      exact ⟨rfl, after⟩
  | case3 bytes sink nonempty count next attempt ih =>
      rcases alike.exists_write_eq attempt with ⟨otherNext, otherAttempt, after⟩
      rw [writeAll_of_write_eq_ok nonempty otherAttempt]
      exact ih after
  | case4 bytes sink nonempty failure next attempt interrupted ih =>
      rcases alike.exists_write_eq attempt with ⟨otherNext, otherAttempt, after⟩
      rw [writeAll_of_write_eq_error nonempty otherAttempt, if_pos interrupted]
      exact ih after
  | case5 bytes sink nonempty failure next attempt final =>
      rcases alike.exists_write_eq attempt with ⟨otherNext, otherAttempt, after⟩
      rw [writeAll_of_write_eq_error nonempty otherAttempt, if_neg final]
      exact ⟨rfl, after⟩

theorem writeFragments (alike : sink.WritesLike other) (fragments : List String) :
    (sink.writeFragments fragments).1 = (other.writeFragments fragments).1 ∧
      (sink.writeFragments fragments).2.WritesLike (other.writeFragments fragments).2 := by
  induction fragments generalizing sink other with
  | nil => exact ⟨rfl, alike⟩
  | cons fragment fragments ih =>
      have first := alike.writeAll (Utf8.encode fragment)
      rcases written : sink.writeAll (Utf8.encode fragment) with ⟨result, next⟩
      rcases otherWritten : other.writeAll (Utf8.encode fragment) with ⟨otherResult, otherNext⟩
      rw [written, otherWritten] at first
      obtain rfl : result = otherResult := first.1
      simp only [Sink.writeFragments, written, otherWritten]
      cases result with
      | ok => exact ih first.2
      | error failure => exact first

theorem of_flush (sink : Sink) : sink.flush.2.WritesLike sink := by
  rw [flush]
  split
  next => exact ⟨rfl, rfl⟩
  next => split <;> exact ⟨rfl, rfl⟩

end WritesLike

/-! ## Sinks that differ in their flushes -/

/-- The two sinks differ in nothing but in how often they were flushed, and nothing keeps them from
flushing. -/
structure UpToFlushes (sink other : Sink) : Prop where
  writesLike : sink.WritesLike other
  flushable : sink.Flushable
  otherFlushable : other.Flushable

namespace UpToFlushes

variable {sink other : Sink}

theorem writeFragments (alike : sink.UpToFlushes other) (fragments : List String) :
    (sink.writeFragments fragments).1 = (other.writeFragments fragments).1 ∧
      (sink.writeFragments fragments).2.UpToFlushes (other.writeFragments fragments).2 := by
  rcases alike.writesLike.writeFragments fragments with ⟨result, after⟩
  refine ⟨result, after, ?_, ?_⟩
  · exact alike.flushable.of_flushesLike (flushesLike_of_writeFragments rfl)
  · exact alike.otherFlushable.of_flushesLike (flushesLike_of_writeFragments rfl)

theorem of_flush (flushable : sink.Flushable) : sink.flush.2.UpToFlushes sink := by
  refine ⟨.of_flush sink, ?_, flushable⟩
  rw [flushable.flush_eq]
  exact flushable

theorem flush (alike : sink.UpToFlushes other) : sink.flush.2.UpToFlushes other.flush.2 := by
  rw [alike.flushable.flush_eq, alike.otherFlushable.flush_eq]
  exact ⟨⟨alike.writesLike.contents, alike.writesLike.limit⟩, alike.flushable,
    alike.otherFlushable⟩

end UpToFlushes

end ExpectationTable.Sink
