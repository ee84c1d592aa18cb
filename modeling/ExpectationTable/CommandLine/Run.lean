import ExpectationTable.CommandLine.Request
import ExpectationTable.Converter

/-!
# Running the program

A run takes the arguments and the three standard streams, and ends with an exit status and with what
it has written. The table goes to the output, diagnostics and the report of an error go to the
errors. A report that cannot be written changes the exit status; help and usage messages that cannot
be written are lost without a trace.

What a run knows about where its messages are read decides whether diagnostics are coloured, and
with which signs a report is drawn.
-/

namespace ExpectationTable

/-! ## Reports

How a conversion error is shown to the user: its code, and below that what went wrong, then what was
behind it and what can be done about it, as far as there is something to say. The signs in front are
drawn with lines where they can be shown, and otherwise with the nearest characters of ASCII.
-/

namespace ConversionError

/-- The signs that a report is drawn with. -/
inductive Lettering where
  | drawn
  | ascii
  deriving DecidableEq

namespace Lettering

/-- Whether a locale is for texts in UTF-8, which its last part says. -/
def isUtf8Locale (locale : String) : Bool :=
  let name := locale.toUpper
  name.endsWith "UTF8" || name.endsWith "UTF-8"

/-- A terminal has the drawn signs if the locale is for UTF-8, but for the system's own console,
which never has. Where there is no terminal they are taken to be read as they are meant. -/
def forTerminal (isTerminal : Bool) (terminalKind locale : Option String) : Lettering :=
  if isTerminal && (terminalKind = some "linux" || !locale.any isUtf8Locale) then .ascii else .drawn

/-- Stands before what went wrong. -/
def cross : Lettering → String
  | .drawn => "×"
  | .ascii => "x"

/-- Stands before what was behind it. -/
def arrow : Lettering → String
  | .drawn => "╰─▶"
  | .ascii => "`->"

end Lettering

/-- The report of the error. An empty line ends it. -/
def report (error : ConversionError) (lettering : Lettering) : String :=
  let cause := match error.cause? with
    | some failure => s!"  {lettering.arrow} {failure.message}\n"
    | none => ""
  let help := match error.help? with
    | some help => s!"  help: {help}\n"
    | none => ""
  s!"{error.code}\n\n  {lettering.cross} {error.message}\n{cause}{help}\n"

end ConversionError

namespace CommandLine

/-! ## The environment -/

/-- Where the messages of a run are read. A terminal has a kind, and the user may have set a locale
and may have asked for no colour. -/
structure Environment where
  isTerminal : Bool := false
  terminalKind : Option String := none
  locale : Option String := none
  declinesColour : Bool := false

namespace Environment

def style (environment : Environment) : Diagnostic.Style :=
  .forTerminal environment.isTerminal environment.terminalKind environment.declinesColour

def lettering (environment : Environment) : ConversionError.Lettering :=
  .forTerminal environment.isTerminal environment.terminalKind environment.locale

end Environment

/-! ## Runs -/

/-- How a run ends. -/
inductive ExitStatus where
  | success
  | conversionFailed
  | wrongUsage
  | reportFailed
  deriving DecidableEq

def ExitStatus.code : ExitStatus → UInt8
  | .success => 0
  | .conversionFailed => 1
  | .wrongUsage => 2
  | .reportFailed => 101

/-- What a run is given. -/
structure Invocation where
  arguments : List String
  input : Source
  output : Sink
  errors : Sink
  environment : Environment := {}

/-- What a run leaves behind. -/
structure Completion where
  status : ExitStatus
  output : Sink
  errors : Sink

/-- Writes as much of a text as the sink takes. -/
def say (text : String) (sink : Sink) : Sink :=
  (sink.writeAll (Utf8.encode text)).2

def Completion.ofError (error : ConversionError) (lettering : ConversionError.Lettering)
    (output errors : Sink) : Completion :=
  match errors.writeAll (Utf8.encode (error.report lettering)) with
  | (.ok (), errors) => ⟨.conversionFailed, output, errors⟩
  | (.error _, errors) => ⟨.reportFailed, output, errors⟩

def Invocation.convert (invocation : Invocation) : Completion :=
  let ⟨_, input, output, errors, environment⟩ := invocation
  let ⟨result, converter, _⟩ :=
    Converter.convert input { table := output, diagnostics := errors, style := environment.style }
  match result with
  | .ok _ => ⟨.success, converter.table, converter.diagnostics⟩
  | .error error =>
      .ofError error environment.lettering converter.table converter.diagnostics

/-- Does what the command line asks for. -/
def Invocation.run (invocation : Invocation) : Completion :=
  match Request.ofArguments invocation.arguments with
  | .convert => invocation.convert
  | .briefHelp => ⟨.success, say briefHelpText invocation.output, invocation.errors⟩
  | .fullHelp => ⟨.success, say fullHelpText invocation.output, invocation.errors⟩
  | .version => ⟨.success, say versionText invocation.output, invocation.errors⟩
  | .refuse error => ⟨.wrongUsage, invocation.output, say error.message invocation.errors⟩

end CommandLine

end ExpectationTable
