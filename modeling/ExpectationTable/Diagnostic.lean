/-!
# Diagnostics

A line that is no expectation is reported on a line of its own: a fixed lead, a space and the text
of the line. In the coloured style the lead, and nothing else, is set in bold yellow.
-/

namespace ExpectationTable.Diagnostic

/-- How diagnostics are set. -/
inductive Style where
  | plain
  | coloured
  deriving DecidableEq

/-- Colour is for terminals. It needs one of a known kind that can show it, and the user may have
asked for none. -/
def Style.forTerminal (isTerminal : Bool) (terminalKind : Option String) (declined : Bool) :
    Style :=
  match terminalKind with
  | some kind => if isTerminal && kind ≠ "dumb" && !declined then .coloured else .plain
  | none => .plain

/-- What each diagnostic begins with. -/
def lead : String := "Did not match line:"

def resetCode : String := "\x1b[0m"

def boldCode : String := "\x1b[1m"

def yellowCode : String := "\x1b[33m"

/-- The pieces of the diagnostic for a text, in the order in which they are written. -/
def fragments (style : Style) (text : String) : List String :=
  match style with
  | .plain => [lead, " ", text, "\n"]
  | .coloured => [resetCode, boldCode, yellowCode, lead, resetCode, " ", text, "\n"]

end ExpectationTable.Diagnostic
