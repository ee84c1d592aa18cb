import ExpectationTable.Text.ControlSequence

/-!
# Command lines

The program takes its lines from its standard input, and so there is nothing to be said on its
command line but a wish for help or for the version. Arguments are read from left to right and the
first of them decides. Only a first `--`, which marks the end of the options, is passed over, and
nothing may come after it.
-/

namespace ExpectationTable.CommandLine

/-- What is wrong with a command line. -/
inductive UsageError where
  | unexpectedArgument (argument : String)
  | unexpectedValue (value option : String)
  deriving DecidableEq

/-- What a command line asks for. -/
inductive Request where
  | convert
  | briefHelp
  | fullHelp
  | version
  | refuse (error : UsageError)
  deriving DecidableEq

/-- What is wrong, in a few words. -/
def UsageError.fault : UsageError → String
  | .unexpectedArgument argument => s!"unexpected argument '{Text.quoted argument}' found"
  | .unexpectedValue value option =>
      s!"unexpected value '{Text.quoted value}' for '{option}' found; no more were expected"

/-- The use that the user may have meant. It has the option that was found, if that is known. -/
def UsageError.usage : UsageError → String
  | .unexpectedArgument _ => "convtab"
  | .unexpectedValue _ option => s!"convtab {option}"

def UsageError.message (error : UsageError) : String :=
  s!"error: {error.fault}\n\nUsage: {error.usage}\n\nFor more information, try '--help'.\n"

namespace Request

/-- The request that an option of one letter makes. The letters that follow in the same argument
come too late. -/
def ofLetter : Char → Request
  | 'h' => .briefHelp
  | 'V' => .version
  | letter => .refuse (.unexpectedArgument (String.ofList ['-', letter]))

def ofName? : String → Option Request
  | "help" => some .fullHelp
  | "version" => some .version
  | _ => none

/-- The request that a long option makes, without its dashes. No option takes a value, which would
follow after an equals sign. -/
def ofLongOption (option : List Char) : Request :=
  let name := String.ofList (option.takeWhile (· ≠ '='))
  match ofName? name, option.dropWhile (· ≠ '=') with
  | none, _ => .refuse (.unexpectedArgument ("--" ++ name))
  | some request, [] => request
  | some _, _ :: value => .refuse (.unexpectedValue (String.ofList value) ("--" ++ name))

def ofArgument (argument : String) : Request :=
  match argument.toList with
  | '-' :: '-' :: option => ofLongOption option
  | '-' :: letter :: _ => ofLetter letter
  | _ => .refuse (.unexpectedArgument argument)

def ofArguments : List String → Request
  | [] => .convert
  | argument :: arguments =>
      if argument = "--" then
        match arguments with
        | [] => .convert
        | argument :: _ => .refuse (.unexpectedArgument argument)
      else ofArgument argument

end Request

/-! ## Help and version

What the program says about itself. The brief help sums it up in a sentence; the full help says what
a line looks like and what becomes of it.
-/

def ofLines (lines : List String) : String :=
  String.join (lines.map fun line => line ++ "\n")

def versionText : String :=
  ofLines ["convtab 0.1.0"]

def briefHelpText : String :=
  ofLines [
    "Convert result-conversion expectation lines into C++ test table entries.",
    "",
    "Usage: convtab",
    "",
    "Options:",
    "  -h, --help     Print help (see more with '--help')",
    "  -V, --version  Print version"]

/-- The answer to a long wish for help. -/
def fullHelpText : String :=
  ofLines [
    "Reads lines like `'true' (boolean) as SQL_C_SBIGINT: 1` from stdin and writes " ++
      "`\x7b std::make_tuple(\"true\", \"boolean\", \"SQL_C_SBIGINT\"), \"1\" \x7d,` to stdout. " ++
      "Lines that do not match are reported on stderr and skipped.",
    "",
    "Usage: convtab",
    "",
    "Options:",
    "  -h, --help",
    "          Print help (see a summary with '-h')",
    "",
    "  -V, --version",
    "          Print version"]

end ExpectationTable.CommandLine
