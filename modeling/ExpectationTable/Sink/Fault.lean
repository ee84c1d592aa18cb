import ExpectationTable.Failure

/-!
# Faults of a sink

A sink may run full and it may fail to flush. Both faults strike a number of times or for ever, and
are over once they have struck that often.
-/

namespace ExpectationTable

/-- How often a fault is still to strike. -/
inductive Recurrence where
  | times (count : Nat)
  | always
  deriving DecidableEq

namespace Recurrence

/-- A fault that is over strikes no more. -/
def isOver : Recurrence → Bool
  | .times count => count == 0
  | .always => false

/-- What is left of a fault that has struck once more. -/
def next : Recurrence → Recurrence
  | .times count => .times (count - 1)
  | .always => .always

/-- How often a fault that ends is still to strike. -/
def remaining : Recurrence → Nat
  | .times count => count
  | .always => 0

@[simp] theorem next_eq_always {recurrence : Recurrence} :
    recurrence.next = .always ↔ recurrence = .always := by
  cases recurrence <;> simp [next]

/-- Each time that a fault strikes brings it nearer to its end, if it has one. -/
theorem remaining_next_lt {recurrence : Recurrence} (ends : recurrence ≠ .always)
    (strikes : recurrence.isOver = false) :
    recurrence.next.remaining < recurrence.remaining := by
  cases recurrence with
  | always => exact absurd rfl ends
  | times count =>
      have positive : count ≠ 0 := by simpa [isOver] using strikes
      simp only [next, remaining]
      omega

end Recurrence

/-- What a full sink answers to a write of which it can place no byte: a failure, or that it has
taken nothing. -/
inductive Refusal where
  | failing (failure : Failure)
  | takingNothing
  deriving DecidableEq

namespace Refusal

/-- How many bytes were taken, or the failure. -/
def answer : Refusal → Except Failure Nat
  | .failing failure => .error failure
  | .takingNothing => .ok 0

/-- Whether the writer will try again. -/
def isInterruption : Refusal → Bool
  | .failing failure => failure.kind == .interrupted
  | .takingNothing => false

end Refusal

/-- A sink that is limited takes bytes until it holds as many as it has room for. -/
structure Limit where
  capacity : Nat
  refusal : Refusal
  recurrence : Recurrence
  /-- A writer that is interrupted tries again, and so the interruptions have to end. -/
  interruptions_end : refusal.isInterruption = true → recurrence ≠ .always

def Limit.next (limit : Limit) : Limit where
  capacity := limit.capacity
  refusal := limit.refusal
  recurrence := limit.recurrence.next
  interruptions_end interruption always :=
    limit.interruptions_end interruption (Recurrence.next_eq_always.mp always)

/-- A sink with this fault fails when it is asked to flush. -/
structure FlushFault where
  failure : Failure
  recurrence : Recurrence

def FlushFault.next (fault : FlushFault) : FlushFault :=
  { fault with recurrence := fault.recurrence.next }

end ExpectationTable
