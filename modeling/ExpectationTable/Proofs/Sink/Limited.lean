import ExpectationTable.Proofs.Sink.Writing

/-!
# Writing to a sink that is limited for ever

A sink whose limit is never lifted takes as many bytes as it has room for and refuses all others. So
what is written to it is there if it fits, and otherwise its beginning, as far as there is room; and
once the sink is full, it stays as it is. A broken pipe is such a sink without any room. Beside a
reliable sink to which the same is written, a limited one holds the beginning of what that holds.
-/

namespace ExpectationTable

/-- What a writer that does not try again makes of a refusal. -/
def Refusal.failure : Refusal → Failure
  | .failing failure => failure
  | .takingNothing => .tookNothing

namespace Sink

/-- The sink has this limit for ever and does not go beyond it. -/
structure Capped (limit : Limit) (sink : Sink) : Prop where
  limited : sink.limit = some limit
  permanent : limit.recurrence = .always
  within : sink.size ≤ limit.capacity

@[simp] theorem size_append (bytes : Bytes) (sink : Sink) :
    (sink.append bytes).size = sink.size + bytes.length := by
  rw [← length_bytes, bytes_append, List.length_append, length_bytes]

namespace Capped

variable {limit : Limit} {sink : Sink}

theorem activeLimit?_eq (capped : sink.Capped limit) : sink.activeLimit? = some limit := by
  rw [activeLimit?_eq_some_iff, capped.permanent]
  exact ⟨capped.limited, rfl⟩

theorem next_eq (capped : sink.Capped limit) : limit.next = limit := by
  rcases limit with ⟨capacity, refusal, recurrence, ends⟩
  obtain rfl : recurrence = .always := capped.permanent
  rfl

theorem isInterruption_eq_false (capped : sink.Capped limit) :
    limit.refusal.isInterruption = false := by
  rw [← Bool.not_eq_true]
  intro interruption
  exact limit.interruptions_end interruption capped.permanent

theorem append {bytes : Bytes} (capped : sink.Capped limit)
    (fits : sink.size + bytes.length ≤ limit.capacity) : (sink.append bytes).Capped limit :=
  ⟨capped.limited, capped.permanent, by rwa [size_append]⟩

theorem append_take (capped : sink.Capped limit) (bytes : Bytes) :
    (sink.append (bytes.take (limit.capacity - sink.size))).Capped limit := by
  apply capped.append
  have within := capped.within
  rw [List.length_take]
  omega

/-- An attempt to write fills the room that there is, if there is any. -/
theorem write_eq (capped : sink.Capped limit) (bytes : Bytes) :
    sink.write bytes =
      if limit.capacity - sink.size = 0 then (limit.refusal.answer, sink)
      else
        (.ok (min (limit.capacity - sink.size) bytes.length),
          sink.append (bytes.take (limit.capacity - sink.size))) := by
  have unchanged : { sink with limit := some limit } = sink := by rw [← capped.limited]
  rw [write, capped.activeLimit?_eq]
  dsimp only
  rw [capped.next_eq, unchanged]

/-- A full sink refuses everything and stays as it is. -/
theorem writeAll_of_full {bytes : Bytes} (capped : sink.Capped limit)
    (full : limit.capacity - sink.size = 0) (nonempty : bytes ≠ []) :
    sink.writeAll bytes = (.error limit.refusal.failure, sink) := by
  have attempt := capped.write_eq bytes
  rw [if_pos full] at attempt
  cases refusal : limit.refusal with
  | takingNothing =>
      rw [refusal] at attempt
      exact writeAll_of_write_eq_zero nonempty attempt
  | failing failure =>
      have final : failure.kind ≠ .interrupted := by
        simpa [refusal, Refusal.isInterruption] using capped.isInterruption_eq_false
      rw [refusal] at attempt
      rw [writeAll_of_write_eq_error nonempty attempt, if_neg final, Refusal.failure]

/-- Bytes are written if there is room for them, and otherwise as many of them as there is room
for. -/
theorem writeAll_eq (capped : sink.Capped limit) (bytes : Bytes) :
    sink.writeAll bytes =
      if sink.size + bytes.length ≤ limit.capacity then (.ok (), sink.append bytes)
      else
        (.error limit.refusal.failure,
          sink.append (bytes.take (limit.capacity - sink.size))) := by
  by_cases empty : bytes = []
  · simp [empty, capped.within]
  have positive := List.length_pos_iff.mpr empty
  by_cases full : limit.capacity - sink.size = 0
  · rw [capped.writeAll_of_full full empty, if_neg (by omega), full, List.take_zero, append_nil]
  -- The first attempt places bytes, and as there is no room left after it or nothing to be written,
  -- a second one decides.
  obtain ⟨count, some⟩ : ∃ count, min (limit.capacity - sink.size) bytes.length = count + 1 :=
    Nat.exists_eq_add_one.mpr (by omega)
  have attempt := capped.write_eq bytes
  rw [if_neg full, some] at attempt
  rw [writeAll_of_write_eq_ok empty attempt]
  split
  next fits =>
    rw [List.drop_of_length_le (by omega), List.take_of_length_le (by omega), writeAll_nil]
  next exceeds =>
    apply (capped.append_take bytes).writeAll_of_full
    · rw [size_append, List.length_take]
      omega
    · rw [ne_eq, List.drop_eq_nil_iff]
      omega

theorem writeFragments_eq (capped : sink.Capped limit) (fragments : List String) :
    let bytes := fragments.flatMap Utf8.encode
    sink.writeFragments fragments =
      if sink.size + bytes.length ≤ limit.capacity then (.ok (), sink.append bytes)
      else
        (.error limit.refusal.failure,
          sink.append (bytes.take (limit.capacity - sink.size))) := by
  induction fragments generalizing sink with
  | nil => simp [writeFragments, capped.within]
  | cons fragment fragments ih =>
      dsimp only at ih ⊢
      rw [writeFragments, capped.writeAll_eq, List.flatMap_cons]
      by_cases fits : sink.size + (Utf8.encode fragment).length ≤ limit.capacity
      · have beginning : (Utf8.encode fragment ++ fragments.flatMap Utf8.encode).take
            (limit.capacity - sink.size) =
              Utf8.encode fragment ++ (fragments.flatMap Utf8.encode).take
                (limit.capacity - (sink.size + (Utf8.encode fragment).length)) := by
          rw [List.take_append, List.take_of_length_le (by omega), Nat.sub_sub]
        rw [if_pos fits]
        dsimp only
        rw [ih (capped.append fits), size_append, List.length_append, append_append, append_append,
          Nat.add_assoc, beginning]
      · rw [if_neg fits]
        dsimp only
        rw [if_neg (by rw [List.length_append]; omega),
          List.take_append_of_le_length (by omega)]

theorem writeFragments_of_full (capped : sink.Capped limit) (full : sink.size = limit.capacity)
    (fragments : List String) : (sink.writeFragments fragments).2 = sink := by
  rw [capped.writeFragments_eq, full]
  split
  next fits =>
    have nothing : fragments.flatMap Utf8.encode = [] := List.length_eq_zero_iff.mp (by omega)
    rw [nothing, append_nil]
  next => rw [Nat.sub_self, List.take_zero, append_nil]

theorem flush (capped : sink.Capped limit) : sink.flush.2.Capped limit := by
  refine ⟨sink.limit_flush.trans capped.limited, capped.permanent, ?_⟩
  rw [← length_bytes, bytes_flush, length_bytes]
  exact capped.within

end Capped

theorem exists_capped_broken :
    ∃ limit, broken.Capped limit ∧ limit.capacity = 0 ∧ limit.refusal = .failing .brokenPipe :=
  ⟨_, ⟨rfl, rfl, Nat.le_refl 0⟩, rfl, rfl⟩

theorem writeAll_broken {bytes : Bytes} (nonempty : bytes ≠ []) :
    broken.writeAll bytes = (.error .brokenPipe, broken) := by
  rcases exists_capped_broken with ⟨limit, capped, capacity, refusal⟩
  rw [capped.writeAll_of_full (by rw [capacity, Nat.zero_sub]) nonempty, refusal, Refusal.failure]

theorem writeFragments_broken {fragments : List String}
    (nonempty : fragments.flatMap Utf8.encode ≠ []) :
    broken.writeFragments fragments = (.error .brokenPipe, broken) := by
  rcases exists_capped_broken with ⟨limit, capped, capacity, refusal⟩
  have positive := List.length_pos_iff.mpr nonempty
  rw [capped.writeFragments_eq, capacity, refusal, if_neg (by omega), Nat.zero_sub, List.take_zero,
    append_nil, Refusal.failure]

/-! ## A limited sink beside a reliable one -/

/-- The same was written to both sinks, and there was room for it in the limited one. -/
structure InStep (limit : Limit) (limited free : Sink) : Prop where
  capped : limited.Capped limit
  reliable : free.Reliable
  bytes : limited.bytes = free.bytes
  flushesLike : limited.FlushesLike free

/-- The limited sink is full, and holds a beginning of what the other holds. -/
structure Cut (limit : Limit) (limited free : Sink) : Prop where
  capped : limited.Capped limit
  full : limited.size = limit.capacity
  beginning : limited.bytes <+: free.bytes

namespace InStep

variable {limit : Limit} {limited free : Sink}

/-- Texts are written to both sinks, or there is no room for them in the limited one, and they fill
it up. -/
theorem writeFragments (inStep : InStep limit limited free) (fragments : List String) :
    ((limited.writeFragments fragments).1 = (free.writeFragments fragments).1 ∧
        InStep limit (limited.writeFragments fragments).2 (free.writeFragments fragments).2) ∨
      (limited.writeFragments fragments).1 = .error limit.refusal.failure ∧
        Cut limit (limited.writeFragments fragments).2 (free.writeFragments fragments).2 := by
  have within := inStep.capped.within
  rw [inStep.capped.writeFragments_eq, inStep.reliable.writeFragments_eq]
  split
  next fits =>
    left
    refine ⟨rfl, inStep.capped.append fits, inStep.reliable.append _, ?_, ?_⟩
    · rw [bytes_append, bytes_append, inStep.bytes]
    · exact ⟨inStep.flushesLike.flushes, inStep.flushesLike.flushFault⟩
  next exceeds =>
    right
    refine ⟨rfl, inStep.capped.append_take _, ?_, ?_⟩
    · rw [size_append, List.length_take]
      omega
    · rw [bytes_append, bytes_append, inStep.bytes, List.prefix_append_right_inj]
      exact List.take_prefix _ _

theorem flush (inStep : InStep limit limited free) :
    InStep limit limited.flush.2 free.flush.2 := by
  refine ⟨inStep.capped.flush, inStep.reliable.flush, ?_, inStep.flushesLike.flush.2⟩
  rw [bytes_flush, bytes_flush, inStep.bytes]

/-- The limited sink holds as much of what the other holds as it has room for. -/
theorem bytes_eq_take (inStep : InStep limit limited free) :
    limited.bytes = free.bytes.take limit.capacity := by
  have within := inStep.capped.within
  rw [← inStep.bytes, List.take_of_length_le]
  exact within

end InStep

theorem Cut.flush {limit : Limit} {limited free : Sink} (cut : Cut limit limited free) :
    Cut limit limited.flush.2 free := by
  refine ⟨cut.capped.flush, ?_, ?_⟩
  · rw [← length_bytes, bytes_flush, length_bytes, cut.full]
  · rw [bytes_flush]
    exact cut.beginning

theorem Cut.bytes_eq_take {limit : Limit} {limited free : Sink} (cut : Cut limit limited free) :
    limited.bytes = free.bytes.take limit.capacity := by
  rw [← cut.full, ← length_bytes]
  exact List.prefix_iff_eq_take.mp cut.beginning

end Sink

end ExpectationTable
