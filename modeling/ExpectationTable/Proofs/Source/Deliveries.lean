import ExpectationTable.Proofs.Text.Lines
import ExpectationTable.Source

/-!
# What a source delivers

The chunks of a source are cut into segments at its ends of input and at its failures, other than
interruptions. The bytes of a segment make lines, and the line that a failure leaves unfinished is
lost. So a source stands for a sequence of deliveries: lines, failures, and the ends of input that
finish no line. Each reading takes the first of them away and leaves the others, however the bytes
are divided into chunks.
-/

namespace ExpectationTable

namespace Bytes

theorem lineFeed_notMem_takeWhile (bytes : Bytes) :
    lineFeed ∉ bytes.takeWhile (· ≠ lineFeed) := by
  intro member
  have inside := List.all_eq_true.mp (List.all_takeWhile (p := (· ≠ lineFeed))) _ member
  simp at inside

/-- Where bytes are split, their first line ends. -/
theorem exists_of_splitAtLineFeed_eq_some {bytes line rest : Bytes}
    (split : bytes.splitAtLineFeed = (line, some rest)) :
    ∃ start, lineFeed ∉ start ∧ bytes = start ++ lineFeed :: rest ∧ line = start ++ [lineFeed] := by
  have whole := append_of_splitAtLineFeed_eq_some split
  rw [splitAtLineFeed] at split
  split at split
  next => cases split
  next byte after found =>
    cases split
    refine ⟨_, lineFeed_notMem_takeWhile bytes, ?_, rfl⟩
    simpa using whole.symm

theorem unbroken_of_splitAtLineFeed_eq_none {bytes start : Bytes}
    (split : bytes.splitAtLineFeed = (start, none)) : lineFeed ∉ bytes := by
  rw [splitAtLineFeed] at split
  split at split
  next found =>
    have whole := List.takeWhile_append_dropWhile (p := (· ≠ lineFeed)) (l := bytes)
    rw [found, List.append_nil] at whole
    exact whole ▸ lineFeed_notMem_takeWhile bytes
  next => cases split

end Bytes

/-! ## Segments -/

/-- What ends a segment of a source. -/
inductive Closing where
  | failure (failure : Failure)
  | endOfInput
  /-- There are no more chunks. -/
  | exhausted
  deriving DecidableEq

/-- A stretch of a source that is cut off by a failure or by an end of input. -/
structure Segment where
  bytes : Bytes
  closing : Closing
  deriving DecidableEq

/-- What a reader of lines is given. -/
inductive Delivery where
  | line (bytes : Bytes)
  | failure (failure : Failure)
  | endOfInput
  deriving DecidableEq

namespace Delivery

/-- What a reader makes of the delivery. -/
def reading : Delivery → Reading
  | .line bytes =>
      match Utf8.decode? bytes with
      | some text => .line text
      | none => .failed .illEncoded
  | .failure cause => .failed cause
  | .endOfInput => .endOfInput

/-- The delivery that gives a reader of bytes this answer. -/
def ofAnswer : Except Failure Bytes → Delivery
  | .error cause => .failure cause
  | .ok [] => .endOfInput
  | .ok bytes => .line bytes

end Delivery

namespace Segment

/-- The lines of the segment. An unfinished last line is lost to a failure, and to nothing else. -/
def lines (segment : Segment) : List Bytes :=
  match segment.closing with
  | .failure _ => segment.bytes.lines.filter (·.endsLine)
  | .endOfInput | .exhausted => segment.bytes.lines

/-- What is delivered after the lines: the failure, if there is one, and an end of input, unless it
has finished the last line. -/
def last (segment : Segment) : Option Delivery :=
  match segment.closing with
  | .failure failure => some (.failure failure)
  | .endOfInput => if segment.bytes.endsLine then some .endOfInput else none
  | .exhausted => none

/-- The lines and what comes after them. -/
def deliveries (segment : Segment) : List Delivery :=
  segment.lines.map .line ++ segment.last.toList

/-- Puts more bytes in front of segments. -/
def prepend (bytes : Bytes) : List Segment → List Segment
  | [] => [{ bytes, closing := .exhausted }]
  | segment :: more => { segment with bytes := bytes ++ segment.bytes } :: more

/-- What all segments deliver. -/
def allDeliveries (segments : List Segment) : List Delivery :=
  segments.flatMap deliveries

@[simp] theorem allDeliveries_nil : allDeliveries [] = [] := rfl

@[simp] theorem allDeliveries_cons (segment : Segment) (more : List Segment) :
    allDeliveries (segment :: more) = segment.deliveries ++ allDeliveries more := rfl

@[simp] theorem prepend_prepend (first second : Bytes) (segments : List Segment) :
    prepend first (prepend second segments) = prepend (first ++ second) segments := by
  cases segments <;> simp [prepend]

@[simp] theorem allDeliveries_prepend_nil (segments : List Segment) :
    allDeliveries (prepend [] segments) = allDeliveries segments := by
  cases segments <;> rfl

theorem deliveries_line {start : Bytes} (unbroken : Bytes.lineFeed ∉ start) (rest : Bytes)
    (closing : Closing) :
    deliveries { bytes := start ++ Bytes.lineFeed :: rest, closing } =
      .line (start ++ [Bytes.lineFeed]) :: deliveries { bytes := rest, closing } := by
  have finished : Bytes.endsLine (start ++ [Bytes.lineFeed]) = true :=
    Bytes.endsLine_append_lineFeed start []
  cases closing <;>
    simp [deliveries, lines, last, Bytes.lines_append_lineFeed unbroken, finished]

/-- A finished line in front of segments is delivered first. -/
theorem allDeliveries_prepend_line {start : Bytes} (unbroken : Bytes.lineFeed ∉ start)
    (rest : Bytes) (segments : List Segment) :
    allDeliveries (prepend (start ++ Bytes.lineFeed :: rest) segments) =
      .line (start ++ [Bytes.lineFeed]) :: allDeliveries (prepend rest segments) := by
  cases segments <;> simp [prepend, deliveries_line unbroken]

theorem deliveries_failure {start : Bytes} (unbroken : Bytes.lineFeed ∉ start)
    (failure : Failure) :
    deliveries { bytes := start, closing := .failure failure } = [.failure failure] := by
  by_cases empty : start = []
  · subst empty
    rfl
  · simp [deliveries, lines, last, Bytes.lines_of_unbroken empty unbroken,
      Bytes.endsLine_of_unbroken empty unbroken]

theorem deliveries_endOfInput {start : Bytes} (unbroken : Bytes.lineFeed ∉ start) :
    deliveries { bytes := start, closing := .endOfInput } = [.ofAnswer (.ok start)] := by
  by_cases empty : start = []
  · subst empty
    rfl
  · simp [deliveries, lines, last, Bytes.lines_of_unbroken empty unbroken,
      Bytes.endsLine_of_unbroken empty unbroken, Delivery.ofAnswer]

theorem deliveries_exhausted {start : Bytes} (nonempty : start ≠ [])
    (unbroken : Bytes.lineFeed ∉ start) :
    deliveries { bytes := start, closing := .exhausted } = [.ofAnswer (.ok start)] := by
  simp [deliveries, lines, last, Bytes.lines_of_unbroken nonempty unbroken, Delivery.ofAnswer]

end Segment

/-! ## Reading takes deliveries away -/

namespace Source

/-- The segments of a source. Interruptions do not cut. -/
def segments : Source → List Segment
  | [] => []
  | .endOfInput :: source => { bytes := [], closing := .endOfInput } :: segments source
  | .failure failure :: source =>
      if failure.kind = .interrupted then
        segments source
      else
        { bytes := [], closing := .failure failure } :: segments source
  | .bytes bytes :: source => Segment.prepend bytes (segments source)

/-- What the source delivers, in order. -/
def deliveries (source : Source) : List Delivery :=
  Segment.allDeliveries source.segments

@[simp] theorem deliveries_nil : deliveries [] = [] := rfl

/-- Reading bytes after the start of a line takes away the delivery that the start belongs to. Only
if there is no start and nothing is left is nothing delivered. -/
theorem allDeliveries_prepend_segments {source rest : Source} {start : Bytes}
    {answer : Except Failure Bytes} (unbroken : Bytes.lineFeed ∉ start)
    (read : source.readBytes = (answer, rest)) :
    Segment.allDeliveries (Segment.prepend start source.segments) =
        .ofAnswer (answer.map (start ++ ·)) :: rest.deliveries ∨
      Segment.allDeliveries (Segment.prepend start source.segments) = [] ∧
        start = [] ∧ answer = .ok [] ∧ rest = [] := by
  induction source generalizing start answer with
  | nil =>
      cases read
      by_cases empty : start = []
      · subst empty
        exact .inr ⟨rfl, rfl, rfl, rfl⟩
      · left
        simp [segments, Segment.prepend, Segment.deliveries_exhausted empty unbroken, Except.map]
  | cons chunk source ih =>
      cases chunk with
      | endOfInput =>
          cases read
          left
          simp [segments, Segment.prepend, Segment.deliveries_endOfInput unbroken, Except.map,
            deliveries]
      | failure failure =>
          rw [readBytes] at read
          rw [segments]
          split at read
          next interrupted =>
            rw [if_pos interrupted]
            exact ih unbroken read
          next final =>
            rw [if_neg final]
            cases read
            left
            simp [Segment.prepend, Segment.deliveries_failure unbroken, Except.map,
              Delivery.ofAnswer, deliveries]
      | bytes bytes =>
          rw [readBytes] at read
          rw [segments, Segment.prepend_prepend]
          split at read
          next line after split =>
            rcases Bytes.exists_of_splitAtLineFeed_eq_some split with ⟨part, unsplit, rfl, rfl⟩
            cases read
            left
            have whole : Bytes.lineFeed ∉ start ++ part := by simp [unbroken, unsplit]
            rw [← List.append_assoc, Segment.allDeliveries_prepend_line whole]
            simp [Except.map, Delivery.ofAnswer, deliveries, segments]
          next part split =>
            -- These bytes go on from the start, and the rest of the source goes on from both.
            obtain rfl := Bytes.eq_of_splitAtLineFeed_eq_none split
            have whole : Bytes.lineFeed ∉ start ++ bytes := by
              simp [unbroken, Bytes.unbroken_of_splitAtLineFeed_eq_none split]
            split at read
            next line after continued =>
              cases read
              rcases ih whole continued with delivered | ⟨nothing, empty, same, exhausted⟩
              · left
                rw [delivered]
                simp [Except.map]
              · right
                rcases List.append_eq_nil_iff.mp empty with ⟨rfl, rfl⟩
                exact ⟨nothing, rfl, same, exhausted⟩
            next failure after continued =>
              cases read
              rcases ih whole continued with delivered | ⟨-, -, same, -⟩
              · exact .inl delivered
              · cases same

/-- A reading gives what the first delivery says and leaves the others. Once everything is
delivered, a reading finds the end of the input and leaves nothing. -/
theorem readLine_cases (source : Source) :
    (source.deliveries = [] ∧ source.readLine = (.endOfInput, [])) ∨
      ∃ delivery rest, source.deliveries = delivery :: deliveries rest ∧
        source.readLine = (delivery.reading, rest) := by
  rcases read : source.readBytes with ⟨answer, rest⟩
  have taken := allDeliveries_prepend_segments List.not_mem_nil read
  rw [Segment.allDeliveries_prepend_nil] at taken
  rw [readLine, read]
  rcases taken with delivered | ⟨nothing, -, rfl, rfl⟩
  · right
    refine ⟨_, rest, delivered, ?_⟩
    cases answer with
    | error failure => rfl
    | ok line =>
        cases line with
        | nil => rfl
        | cons byte line =>
            simp only [Except.map, List.nil_append, Delivery.ofAnswer, Delivery.reading]
            cases Utf8.decode? (byte :: line) <;> rfl
  · exact .inl ⟨nothing, rfl⟩

variable {source rest : Source}

theorem deliveries_of_readLine_eq_line {text : String}
    (read : source.readLine = (.line text, rest)) :
    ∃ bytes, Utf8.decode? bytes = some text ∧
      source.deliveries = .line bytes :: rest.deliveries := by
  rcases source.readLine_cases with ⟨_, ended⟩ | ⟨delivery, after, delivered, taken⟩
  · cases ended.symm.trans read
  · rcases Prod.mk.inj (taken.symm.trans read) with ⟨same, rfl⟩
    cases delivery with
    | line bytes =>
        rw [Delivery.reading] at same
        split at same
        next found decoded =>
          cases same
          exact ⟨bytes, decoded, delivered⟩
        next => cases same
    | failure cause => cases same
    | endOfInput => cases same

/-- A failure to read was delivered, or bytes that are not well encoded. -/
theorem deliveries_of_readLine_eq_failed {failure : Failure}
    (read : source.readLine = (.failed failure, rest)) :
    source.deliveries = .failure failure :: rest.deliveries ∨
      ∃ bytes, Utf8.decode? bytes = none ∧ failure = .illEncoded ∧
        source.deliveries = .line bytes :: rest.deliveries := by
  rcases source.readLine_cases with ⟨_, ended⟩ | ⟨delivery, after, delivered, taken⟩
  · cases ended.symm.trans read
  · rcases Prod.mk.inj (taken.symm.trans read) with ⟨same, rfl⟩
    cases delivery with
    | line bytes =>
        rw [Delivery.reading] at same
        split at same
        next => cases same
        next undecoded =>
          cases same
          exact .inr ⟨bytes, undecoded, rfl, delivered⟩
    | failure cause =>
        cases same
        exact .inl delivered
    | endOfInput => cases same

theorem deliveries_of_readLine_eq_endOfInput (read : source.readLine = (.endOfInput, rest)) :
    source.deliveries = .endOfInput :: rest.deliveries ∨ source.deliveries = [] ∧ rest = [] := by
  rcases source.readLine_cases with ⟨nothing, ended⟩ | ⟨delivery, after, delivered, taken⟩
  · rcases Prod.mk.inj (ended.symm.trans read) with ⟨_, rfl⟩
    exact .inr ⟨nothing, rfl⟩
  · rcases Prod.mk.inj (taken.symm.trans read) with ⟨same, rfl⟩
    cases delivery with
    | line bytes =>
        rw [Delivery.reading] at same
        split at same <;> cases same
    | failure cause => cases same
    | endOfInput => exact .inl delivered

theorem exists_mem_lines_of_mem_deliveries {bytes : Bytes}
    (member : .line bytes ∈ source.deliveries) : ∃ all : Bytes, bytes ∈ all.lines := by
  rcases List.mem_flatMap.mp member with ⟨⟨all, closing⟩, _, inside⟩
  refine ⟨all, ?_⟩
  rw [Segment.deliveries, List.mem_append] at inside
  cases closing with
  | failure failure =>
      have line : bytes ∈ all.lines.filter (·.endsLine) := by
        simpa [Segment.lines, Segment.last] using inside
      exact (List.mem_filter.mp line).1
  | endOfInput =>
      cases ended : all.endsLine <;> simpa [Segment.lines, Segment.last, ended] using inside
  | exhausted => simpa [Segment.lines, Segment.last] using inside

/-- Sources that deliver the same are read the same, and what they leave delivers the same. -/
theorem exists_readLine_of_deliveries_eq {other : Source} {reading : Reading}
    (same : other.deliveries = source.deliveries) (read : source.readLine = (reading, rest)) :
    ∃ after, other.readLine = (reading, after) ∧ after.deliveries = rest.deliveries := by
  rcases source.readLine_cases with ⟨nothing, ended⟩ | ⟨delivery, left, delivered, taken⟩
  · rcases Prod.mk.inj (ended.symm.trans read) with ⟨rfl, rfl⟩
    rcases other.readLine_cases with ⟨_, otherEnded⟩ | ⟨_, _, otherDelivered, _⟩
    · exact ⟨[], otherEnded, rfl⟩
    · cases nothing.symm.trans (same.symm.trans otherDelivered)
  · rcases Prod.mk.inj (taken.symm.trans read) with ⟨rfl, rfl⟩
    rcases other.readLine_cases with ⟨nothing, _⟩ | ⟨_, otherLeft, otherDelivered, otherTaken⟩
    · cases nothing.symm.trans (same.trans delivered)
    · rcases List.cons.inj (otherDelivered.symm.trans (same.trans delivered)) with ⟨rfl, others⟩
      exact ⟨otherLeft, otherTaken, others⟩

/-- A reading that does not end the input is the same whatever is delivered later. -/
theorem exists_readLine_of_deliveries_append {other : Source} {later : List Delivery}
    {reading : Reading} (same : other.deliveries = source.deliveries ++ later)
    (read : source.readLine = (reading, rest)) (goesOn : reading ≠ .endOfInput) :
    ∃ after, other.readLine = (reading, after) ∧
      after.deliveries = rest.deliveries ++ later := by
  rcases source.readLine_cases with ⟨_, ended⟩ | ⟨delivery, left, delivered, taken⟩
  · cases ended.symm.trans read
    contradiction
  · rcases Prod.mk.inj (taken.symm.trans read) with ⟨rfl, rfl⟩
    rw [delivered, List.cons_append] at same
    rcases other.readLine_cases with ⟨nothing, _⟩ | ⟨_, otherLeft, otherDelivered, otherTaken⟩
    · cases nothing.symm.trans same
    · rcases List.cons.inj (otherDelivered.symm.trans same) with ⟨rfl, others⟩
      exact ⟨otherLeft, otherTaken, others⟩

end Source

end ExpectationTable
