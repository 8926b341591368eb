import Rollcall.Text.Quoted

/-!
# Thresholds

The names by which it is said from which level on events are shown.  Two pairs of names mean the same.
-/

namespace Rollcall

/-- A threshold by its name. -/
inductive Threshold where
  | critical
  | fatal
  | error
  | warn
  | warning
  | info
  | debug
  | notSet
deriving DecidableEq, Repr, Inhabited

namespace Threshold

/-- The name of a threshold. -/
def name : Threshold → String
  | .critical => "CRITICAL"
  | .fatal => "FATAL"
  | .error => "ERROR"
  | .warn => "WARN"
  | .warning => "WARNING"
  | .info => "INFO"
  | .debug => "DEBUG"
  | .notSet => "NOTSET"

/-- The least rank of the events that are shown. -/
def rank : Threshold → Nat
  | .critical => 50
  | .fatal => 50
  | .error => 40
  | .warn => 30
  | .warning => 30
  | .info => 20
  | .debug => 10
  | .notSet => 0

/-- All thresholds. -/
def all : List Threshold :=
  [.critical, .fatal, .error, .warn, .warning, .info, .debug, .notSet]

/-- The threshold of a name, which has to be spelled exactly. -/
def ofName? (name : String) : Option Threshold :=
  all.find? fun t => t.name == name

/-- The message for a name that no threshold has. -/
def unknownMessage (name : String) : String :=
  "Unknown level: " ++ Text.quoted name

end Threshold

end Rollcall
