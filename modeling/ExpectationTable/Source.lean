import ExpectationTable.Failure
import ExpectationTable.Bytes

/-!
# Sources

A source delivers its bytes in chunks, which need not end where lines end. A line reaches up to its
line feed, or to the end of the input if that comes first, and whether it is well encoded is judged
once it is complete. A failure that is no interruption loses the part of the line that had been
read; what comes after the failure can still be read.
-/

namespace ExpectationTable

/-- What one attempt to read from a source delivers. -/
inductive Chunk where
  | bytes (bytes : Bytes)
  | endOfInput
  | failure (failure : Failure)
  deriving DecidableEq

/-- What is still to be read, in the order of delivery. After the last chunk the input is at its
end. -/
abbrev Source := List Chunk

/-- What comes of reading a line. -/
inductive Reading where
  /-- The text still has its line feed, if it had one. -/
  | line (text : String)
  | endOfInput
  | failed (failure : Failure)
  deriving DecidableEq

namespace Source

/-- The bytes of the next line, with its line feed if it has one, and the rest of the source. There
are none at the end of the input. -/
def readBytes : Source → Except Failure Bytes × Source
  | [] => (.ok [], [])
  | .endOfInput :: source => (.ok [], source)
  | .failure failure :: source =>
      if failure.kind = .interrupted then readBytes source else (.error failure, source)
  | .bytes bytes :: source =>
      match bytes.splitAtLineFeed with
      | (line, some rest) => (.ok line, .bytes rest :: source)
      | (start, none) =>
          match readBytes source with
          | (.ok line, source) => (.ok (start ++ line), source)
          | (.error failure, source) => (.error failure, source)

def readLine (source : Source) : Reading × Source :=
  match source.readBytes with
  | (.error failure, source) => (.failed failure, source)
  | (.ok [], source) => (.endOfInput, source)
  | (.ok line, source) =>
      match Utf8.decode? line with
      | some text => (.line text, source)
      | none => (.failed .illEncoded, source)

/-- A bound on the number of readings that the source is good for. -/
def size : Source → Nat
  | [] => 0
  | .bytes bytes :: source => bytes.length + 1 + size source
  | .endOfInput :: source | .failure _ :: source => 1 + size source

theorem size_add_length_le_of_readBytes {source rest : Source} {line : Bytes}
    (read : source.readBytes = (.ok line, rest)) : rest.size + line.length ≤ source.size := by
  induction source generalizing line rest with
  | nil =>
      obtain ⟨taken, rfl⟩ := Prod.mk.inj read
      obtain rfl := Except.ok.inj taken
      exact Nat.le_refl _
  | cons chunk source ih =>
      cases chunk with
      | endOfInput =>
          obtain ⟨taken, rfl⟩ := Prod.mk.inj read
          obtain rfl := Except.ok.inj taken
          exact Nat.le_add_left _ _
      | failure failure =>
          rw [readBytes] at read
          split at read
          next => exact Nat.le_trans (ih read) (Nat.le_add_left _ _)
          next => cases (Prod.mk.inj read).1
      | bytes bytes =>
          rw [readBytes] at read
          split at read
          next first after split =>
            obtain ⟨taken, rfl⟩ := Prod.mk.inj read
            obtain rfl := Except.ok.inj taken
            have whole := congrArg List.length (Bytes.append_of_splitAtLineFeed_eq_some split)
            simp only [List.length_append] at whole
            simp only [size]
            omega
          next start split =>
            obtain rfl := Bytes.eq_of_splitAtLineFeed_eq_none split
            split at read
            next more after continued =>
              obtain ⟨taken, rfl⟩ := Prod.mk.inj read
              obtain rfl := Except.ok.inj taken
              have bound := ih continued
              simp only [size, List.length_append]
              omega
            next => cases (Prod.mk.inj read).1

/-- Reading a line makes a source smaller. -/
theorem size_lt_of_readLine {source rest : Source} {text : String}
    (read : source.readLine = (.line text, rest)) : rest.size < source.size := by
  rw [readLine] at read
  split at read
  next => cases (Prod.mk.inj read).1
  next => cases (Prod.mk.inj read).1
  next line after nonempty taken =>
    have bound := size_add_length_le_of_readBytes taken
    have positive : line.length ≠ 0 := fun empty =>
      nonempty (List.length_eq_zero_iff.mp empty)
    split at read
    next =>
      obtain ⟨-, rfl⟩ := Prod.mk.inj read
      omega
    next => cases (Prod.mk.inj read).1

end Source

end ExpectationTable
