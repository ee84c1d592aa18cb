import ExpectationTable.Proofs.Source.Deliveries

/-!
# Steady sources

A steady source gives bytes up to its end, and nothing but interruptions comes in between. How its
bytes are divided into chunks does not matter: it delivers the lines of all its bytes put together.
So its bytes are all that there is to know about it, and a reading leaves a steady source again.
-/

namespace ExpectationTable

def Chunk.isSteady : Chunk → Bool
  | .bytes _ => true
  | .endOfInput => false
  | .failure cause => cause.kind == .interrupted

namespace Source

/-- The source neither fails nor is at an end before its last chunk. -/
def Steady (source : Source) : Prop :=
  ∀ chunk ∈ source, chunk.isSteady = true

instance (source : Source) : Decidable source.Steady :=
  inferInstanceAs (Decidable (∀ chunk ∈ source, chunk.isSteady = true))

def bytes : Source → Bytes
  | [] => []
  | .bytes first :: source => first ++ bytes source
  | .endOfInput :: source | .failure _ :: source => bytes source

@[simp] theorem bytes_map_bytes (chunks : List Bytes) :
    bytes (chunks.map .bytes) = chunks.flatten := by
  induction chunks with
  | nil => rfl
  | cons chunk chunks ih => simp [bytes, ih]

theorem steady_map_bytes (chunks : List Bytes) : Steady (chunks.map .bytes) := by
  intro chunk member
  rcases List.mem_map.mp member with ⟨bytes, _, rfl⟩
  rfl

namespace Steady

variable {source rest : Source}

/-- After the start of a line, a steady source delivers the lines that the start and its bytes make.
-/
theorem allDeliveries_prepend (steady : source.Steady) (start : Bytes) :
    Segment.allDeliveries (Segment.prepend start source.segments) =
      (Bytes.lines (start ++ source.bytes)).map .line := by
  induction source generalizing start with
  | nil =>
      simp [segments, bytes, Segment.prepend, Segment.deliveries, Segment.lines, Segment.last]
  | cons chunk source ih =>
      rcases List.forall_mem_cons.mp steady with ⟨first, others⟩
      cases chunk with
      | bytes bytes =>
          rw [segments, Segment.prepend_prepend, ih others, Source.bytes, List.append_assoc]
      | endOfInput => cases first
      | failure failure =>
          have interrupted : failure.kind = .interrupted := by simpa [Chunk.isSteady] using first
          rw [segments, if_pos interrupted, ih others, bytes]

/-- A steady source delivers the lines of its bytes. -/
theorem deliveries_eq (steady : source.Steady) :
    source.deliveries = (Bytes.lines source.bytes).map .line := by
  rw [deliveries, ← Segment.allDeliveries_prepend_nil, steady.allDeliveries_prepend,
    List.nil_append]

theorem bytes_eq_flatten {lines : List Bytes} (steady : source.Steady)
    (delivered : source.deliveries = lines.map .line) : source.bytes = lines.flatten := by
  rw [steady.deliveries_eq] at delivered
  have same := (List.map_inj_right fun _ _ => Delivery.line.inj).mp delivered
  rw [← same, Bytes.flatten_lines]

theorem bytes_eq {other : Source} (steady : source.Steady) (otherSteady : other.Steady)
    (same : other.deliveries = source.deliveries) : other.bytes = source.bytes := by
  rw [otherSteady.bytes_eq_flatten (same.trans steady.deliveries_eq), Bytes.flatten_lines]

theorem of_readBytes {answer : Except Failure Bytes} (steady : source.Steady)
    (read : source.readBytes = (answer, rest)) : rest.Steady := by
  induction source generalizing answer with
  | nil =>
      cases read
      exact steady
  | cons chunk source ih =>
      rcases List.forall_mem_cons.mp steady with ⟨first, others⟩
      cases chunk with
      | endOfInput => cases first
      | failure failure =>
          rw [readBytes] at read
          split at read
          next => exact ih others read
          next =>
            cases read
            exact others
      | bytes bytes =>
          rw [readBytes] at read
          split at read
          next =>
            cases read
            exact List.forall_mem_cons.mpr ⟨rfl, others⟩
          next =>
            split at read
            next continued =>
              cases read
              exact ih others continued
            next continued =>
              cases read
              exact ih others continued

theorem of_readLine {reading : Reading} (steady : source.Steady)
    (read : source.readLine = (reading, rest)) : rest.Steady := by
  rcases taken : source.readBytes with ⟨answer, after⟩
  have left := steady.of_readBytes taken
  rw [readLine, taken] at read
  cases answer with
  | error failure =>
      cases read
      exact left
  | ok line =>
      cases line with
      | nil =>
          cases read
          exact left
      | cons byte line =>
          dsimp only at read
          split at read <;> cases read <;> exact left

end Steady

theorem deliveries_map_bytes (chunks : List Bytes) :
    deliveries (chunks.map .bytes) = (Bytes.lines chunks.flatten).map .line := by
  rw [(steady_map_bytes chunks).deliveries_eq, bytes_map_bytes]

end Source

end ExpectationTable
