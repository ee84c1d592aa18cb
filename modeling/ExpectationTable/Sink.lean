import ExpectationTable.Sink.Fault
import ExpectationTable.Bytes

/-!
# Sinks

A sink keeps the bytes that are written to it, as far as its faults let it. One attempt to write may
place only a part of the bytes; `writeAll` goes on until all are placed or the sink fails, and tries
again where it was interrupted. What was placed before a failure stays.
-/

namespace ExpectationTable

/-- A place that bytes are written to. -/
structure Sink where
  contents : Array UInt8 := #[]
  limit : Option Limit := none
  flushFault : Option FlushFault := none
  /-- How often the sink was asked to flush, whether it could or not. -/
  flushes : Nat := 0

namespace Sink

/-- A pipe that nobody reads any more. It refuses every write. -/
def broken : Sink where
  limit := some
    { capacity := 0
      refusal := .failing .brokenPipe
      recurrence := .always
      interruptions_end := by decide }

def bytes (sink : Sink) : Bytes :=
  sink.contents.toList

def size (sink : Sink) : Nat :=
  sink.contents.size

/-- The bytes that the sink holds from a position on. -/
def bytesFrom (start : Nat) (sink : Sink) : Bytes :=
  (sink.contents.extract start).toList

@[simp] theorem length_bytes (sink : Sink) : sink.bytes.length = sink.size := rfl

theorem bytesFrom_eq_drop (start : Nat) (sink : Sink) :
    sink.bytesFrom start = sink.bytes.drop start := by
  simp only [bytesFrom, bytes, Array.toList_extract, List.extract_eq_take_drop]
  exact List.take_of_length_le (by simp)

/-- The limit that still binds. -/
def activeLimit? (sink : Sink) : Option Limit :=
  sink.limit.filter fun limit => !limit.recurrence.isOver

def append (bytes : Bytes) (sink : Sink) : Sink :=
  { sink with contents := sink.contents ++ bytes }

@[simp] theorem bytes_append (bytes : Bytes) (sink : Sink) :
    (sink.append bytes).bytes = sink.bytes ++ bytes := by
  simp [Sink.bytes, append]

/-- One attempt to write: how many of the bytes were placed. A sink with room left takes what there
is room for. -/
def write (bytes : Bytes) (sink : Sink) : Except Failure Nat × Sink :=
  match sink.activeLimit? with
  | none => (.ok bytes.length, sink.append bytes)
  | some limit =>
      let room := limit.capacity - sink.size
      if room = 0 then (limit.refusal.answer, { sink with limit := some limit.next })
      else (.ok (min room bytes.length), sink.append (bytes.take room))

/-- How often the sink may still interrupt. -/
def patience (sink : Sink) : Nat :=
  match sink.activeLimit? with
  | some limit => limit.recurrence.remaining
  | none => 0

theorem activeLimit?_eq_some_iff {sink : Sink} {limit : Limit} :
    sink.activeLimit? = some limit ↔
      sink.limit = some limit ∧ limit.recurrence.isOver = false := by
  simp [activeLimit?, Option.filter_eq_some_iff]

theorem patience_write_ok {bytes : Bytes} {sink next : Sink} {placed : Nat}
    (attempt : sink.write bytes = (.ok (placed + 1), next)) : next.patience = sink.patience := by
  rw [write] at attempt
  split at attempt
  next =>
    obtain ⟨-, rfl⟩ := Prod.mk.inj attempt
    rfl
  next limit active =>
    dsimp only at attempt
    split at attempt
    next full =>
      obtain ⟨answered, -⟩ := Prod.mk.inj attempt
      cases refusal : limit.refusal <;> simp [Refusal.answer, refusal] at answered
    next =>
      obtain ⟨-, rfl⟩ := Prod.mk.inj attempt
      rfl

/-- Each interruption takes patience. -/
theorem patience_write_interrupted {bytes : Bytes} {sink next : Sink} {failure : Failure}
    (attempt : sink.write bytes = (.error failure, next))
    (interrupted : failure.kind = .interrupted) : next.patience < sink.patience := by
  rw [write] at attempt
  split at attempt
  next => cases (Prod.mk.inj attempt).1
  next limit active =>
    dsimp only at attempt
    split at attempt
    next full =>
      obtain ⟨answered, rfl⟩ := Prod.mk.inj attempt
      have interruption : limit.refusal.isInterruption = true := by
        cases refusal : limit.refusal <;> simp_all [Refusal.answer, Refusal.isInterruption]
      have closer := Recurrence.remaining_next_lt (limit.interruptions_end interruption)
        (activeLimit?_eq_some_iff.mp active).2
      have before : sink.patience = limit.recurrence.remaining := by simp [patience, active]
      have after : patience { sink with limit := some limit.next } ≤
          limit.recurrence.next.remaining := by
        rw [patience]
        split
        next left remains =>
          obtain ⟨same, -⟩ := activeLimit?_eq_some_iff.mp remains
          rw [← Option.some.inj same]
          exact Nat.le_refl _
        next => exact Nat.zero_le _
      omega
    next => cases (Prod.mk.inj attempt).1

/-- Writes all bytes, unless the sink fails or takes nothing. -/
def writeAll (bytes : Bytes) (sink : Sink) : Except Failure Unit × Sink :=
  if bytes = [] then (.ok (), sink)
  else
    match attempt : sink.write bytes with
    | (.ok 0, sink) => (.error .tookNothing, sink)
    | (.ok (placed + 1), sink) => writeAll (bytes.drop (placed + 1)) sink
    | (.error failure, sink) =>
        if failure.kind = .interrupted then writeAll bytes sink else (.error failure, sink)
termination_by sink.patience + bytes.length
decreasing_by
  · have placing := patience_write_ok attempt
    have nonempty : bytes.length ≠ 0 := by simpa
    simp only [List.length_drop]
    omega
  · have interrupted := patience_write_interrupted attempt ‹_›
    omega

/-- Writes texts one after the other, up to the first that cannot be written. -/
def writeFragments (fragments : List String) (sink : Sink) : Except Failure Unit × Sink :=
  match fragments with
  | [] => (.ok (), sink)
  | fragment :: fragments =>
      match sink.writeAll (Utf8.encode fragment) with
      | (.ok (), sink) => sink.writeFragments fragments
      | (.error failure, sink) => (.error failure, sink)

/-- Asks the sink to flush. It is not asked again if that is interrupted. -/
def flush (sink : Sink) : Except Failure Unit × Sink :=
  let flushed := { sink with flushes := sink.flushes + 1 }
  match sink.flushFault with
  | none => (.ok (), flushed)
  | some fault =>
      if fault.recurrence.isOver then (.ok (), flushed)
      else (.error fault.failure, { flushed with flushFault := some fault.next })

@[simp] theorem bytes_flush (sink : Sink) : sink.flush.2.bytes = sink.bytes := by
  rw [flush]
  split
  next => rfl
  next fault => split <;> rfl

@[simp] theorem flushes_flush (sink : Sink) : sink.flush.2.flushes = sink.flushes + 1 := by
  rw [flush]
  split
  next => rfl
  next fault => split <;> rfl

end Sink

end ExpectationTable
