import Rollcall.CommandLine
import Rollcall.Console.Terminal
import Rollcall.Execution

/-!
# The standard toolkit

What the commands of the program are built on.
-/

namespace Rollcall

/-- A fault of the settings on a line. -/
def Fault.line (f : Fault) : String :=
  ".".intercalate f.path ++ ": " ++ f.cause.message

/-- The report of the faults of some settings. -/
def Fault.report (faults : List Fault) : String :=
  "\n".intercalate (faults.map Fault.line)

/-- The toolkit that prints on the terminal, with the way in which the faults of an environment are reported. -/
def Toolkit.standard (report : Environment → List Fault → String) : Toolkit where
  readOpening := Opening.ofWords
  readInvocation := Invocation.ofWords
  readSettings e :=
    match e.settings with
    | .good settings => .ok settings
    | .bad faults => .error (report e faults)
  console := .terminal

end Rollcall
