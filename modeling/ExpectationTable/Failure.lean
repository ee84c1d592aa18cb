/-!
# Failures and conversion errors

What a source or a sink gives instead of an answer: the kind of failure and a text about it. Among
the kinds, an interruption stands apart. It says nothing about the data, and the attempt that met it
is made again.

A conversion error is what ends a conversion early. A line that is no expectation does not: it is
reported and counted. An input line that cannot be read does, and so does one that is not well
encoded, and an output stream that cannot be written.
-/

namespace ExpectationTable

/-- The kinds of failure. Only two of them make a difference: an interruption is not the end of an
attempt, and invalid data are reported as ill encoded. The others are kept for the user to see, and
`other` stands for all that have no name here. -/
inductive FailureKind where
  | notFound
  | permissionDenied
  | brokenPipe
  | wouldBlock
  | timedOut
  | interrupted
  | invalidData
  | unexpectedEnd
  | writeZero
  | isADirectory
  | other
  deriving DecidableEq

/-- A failure of a source or a sink. -/
structure Failure where
  kind : FailureKind
  message : String
  deriving DecidableEq

namespace Failure

/-- The failure of a sink that takes none of the bytes offered to it and gives no reason. -/
def tookNothing : Failure := ⟨.writeZero, "failed to write whole buffer"⟩

def brokenPipe : Failure := ⟨.brokenPipe, "Broken pipe (os error 32)"⟩

def isADirectory : Failure := ⟨.isADirectory, "Is a directory (os error 21)"⟩

/-- The failure to make text of bytes that are not well encoded. -/
def illEncoded : Failure := ⟨.invalidData, "stream did not contain valid UTF-8"⟩

end Failure

/-! ## Conversion errors -/

/-- The two streams that a conversion writes. -/
inductive Stream where
  | table
  | diagnostics
  deriving DecidableEq

def Stream.name : Stream → String
  | .table => "stdout"
  | .diagnostics => "stderr"

/-- Why a conversion ended before the end of its input. Lines are counted from one. -/
inductive ConversionError where
  | read (line : Nat) (cause : Failure)
  | illEncoded (line : Nat)
  | write (stream : Stream) (cause : Failure)
  deriving DecidableEq

namespace ConversionError

/-- The error for a line at which reading failed. Data that cannot be made sense of is a matter of
encoding, and the failure has nothing to add to that. -/
def ofReadFailure (line : Nat) (failure : Failure) : ConversionError :=
  if failure.kind = .invalidData then .illEncoded line else .read line failure

def message : ConversionError → String
  | .read line _ => s!"I/O error: failed to read input line {line}"
  | .illEncoded line => s!"I/O error: input line {line} is not valid UTF-8"
  | .write stream _ => s!"I/O error: failed to write to {stream.name}"

/-- A fixed name for the sort of error. -/
def code : ConversionError → String
  | .read .. => "convtab::io::read"
  | .illEncoded .. => "convtab::io::encoding"
  | .write .. => "convtab::io::write"

/-- Advice, for the errors that the user can mend in the input. -/
def help? : ConversionError → Option String
  | .illEncoded .. => some "expectation files must be UTF-8 encoded text"
  | .read .. | .write .. => none

def cause? : ConversionError → Option Failure
  | .read _ cause | .write _ cause => some cause
  | .illEncoded .. => none

end ConversionError

end ExpectationTable
