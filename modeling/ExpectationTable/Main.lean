import ExpectationTable.CommandLine.Run

/-!
# The program

Connects the converter to the standard streams. Input is read in blocks and converted line by line,
so that what is written for a line is out before the next line is taken up.
-/

namespace ExpectationTable.CommandLine

def blockSize : USize := 65536

/-- A failure of the system, with its number. -/
def numbered (kind : FailureKind) (details : String) (code : UInt32) : Failure :=
  ⟨kind, s!"{details} (os error {code})"⟩

/-- The failure that the system reports. -/
def failureOfSystem : IO.Error → Failure
  | .resourceVanished code details => numbered .brokenPipe details code
  | .inappropriateType _ code details => numbered .isADirectory details code
  | .interrupted _ code details => numbered .interrupted details code
  | .permissionDenied _ code details => numbered .permissionDenied details code
  | .noFileOrDirectory _ code details => numbered .notFound details code
  | .alreadyExists _ code details | .invalidArgument _ code details
  | .noSuchThing _ code details | .resourceExhausted _ code details
  | .hardwareFault code details | .illegalOperation code details
  | .otherError code details | .protocolError code details
  | .resourceBusy code details | .timeExpired code details
  | .unsatisfiedConstraints code details | .unsupportedOperation code details =>
      numbered .other details code
  | error => ⟨.other, toString error⟩

/-- Reads a block. It is empty at the end of the input. -/
def readBlock (input : IO.FS.Stream) : IO Chunk := do
  try
    let block ← input.read blockSize
    return if block.isEmpty then .endOfInput else .bytes block.toList
  catch error => return .failure (failureOfSystem error)

/-- Writes what a sink holds to a stream. -/
def passOn (sink : Sink) (stream : IO.FS.Stream) : IO (Except Failure Unit) := do
  if sink.contents.isEmpty then return .ok ()
  try
    stream.write ⟨sink.contents⟩
    stream.flush
    return .ok ()
  catch error => return .error (failureOfSystem error)

/-- Ends the program with the report of an error. -/
def reportOn (errors : IO.FS.Stream) (lettering : ConversionError.Lettering)
    (error : ConversionError) : IO ExitStatus := do
  match ← passOn (say (error.report lettering) {}) errors with
  | .ok () => return .conversionFailed
  | .error _ => return .reportFailed

/-- Converts a source and passes on what that has written. The exit status, if the program ends with
it, or else the converter with its sinks empty. -/
def convertPart (output errors : IO.FS.Stream) (lettering : ConversionError.Lettering)
    (source : Source) (converter : Converter) : IO (Except ExitStatus Converter) := do
  let ⟨result, ⟨table, diagnostics, style, summary⟩, _⟩ := converter.convert source
  if let .error failure ← passOn table output then
    return .error (← reportOn errors lettering (.write .table failure))
  if let .error failure ← passOn diagnostics errors then
    return .error (← reportOn errors lettering (.write .diagnostics failure))
  match result with
  | .ok _ => return .ok { table := {}, diagnostics := {}, style, summary }
  | .error error => return .error (← reportOn errors lettering error)

/-- Reads on until a line is complete, or its reading has failed. There is no more at the end of the
input. What was read beyond the line stays pending. -/
partial def nextPart (input : IO.FS.Stream) (pending : Bytes) : IO (Option (Source × Bytes)) := do
  match pending.splitAtLineFeed with
  | (line, some rest) => return some ([.bytes line], rest)
  | (start, none) =>
      match ← readBlock input with
      | .bytes block => nextPart input (start ++ block)
      | .endOfInput => return if start.isEmpty then none else some ([.bytes start], [])
      | .failure failure =>
          if failure.kind = .interrupted then nextPart input start
          else return some ([.bytes start, .failure failure], [])

partial def convertAll (input output errors : IO.FS.Stream)
    (lettering : ConversionError.Lettering) (pending : Bytes) (converter : Converter) :
    IO ExitStatus := do
  match ← nextPart input pending with
  | none => return .success
  | some (source, pending) =>
      match ← convertPart output errors lettering source converter with
      | .ok converter => convertAll input output errors lettering pending converter
      | .error status => return status

/-- The locale that decides on the encoding of texts: the first that is set of the one for all
purposes, the one for characters and the general one. -/
def readLocale : IO (Option String) := do
  return (← IO.getEnv "LC_ALL") <|> (← IO.getEnv "LC_CTYPE") <|> (← IO.getEnv "LANG")

/-- Looks at where errors go, and at the settings of the user. -/
def readEnvironment (errors : IO.FS.Stream) : IO Environment := do
  return {
    isTerminal := ← errors.isTty
    terminalKind := ← IO.getEnv "TERM"
    locale := ← readLocale
    declinesColour := (← IO.getEnv "NO_COLOR").isSome }

def runProgram (arguments : List String) : IO ExitStatus := do
  let output ← IO.getStdout
  let errors ← IO.getStderr
  let environment ← readEnvironment errors
  if Request.ofArguments arguments = .convert then
    let converter : Converter := { table := {}, diagnostics := {}, style := environment.style }
    convertAll (← IO.getStdin) output errors environment.lettering [] converter
  else
    let completion :=
      Invocation.run { arguments, input := [], output := {}, errors := {}, environment }
    discard <| passOn completion.output output
    discard <| passOn completion.errors errors
    return completion.status

end ExpectationTable.CommandLine

/-- Runs the program and leaves its exit status behind. -/
def main (arguments : List String) : IO UInt32 := do
  return (← ExpectationTable.CommandLine.runProgram arguments).code.toUInt32
