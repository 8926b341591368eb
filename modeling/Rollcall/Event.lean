/-!
# Events

What the audit reports about its own progress.  Every event has a level and a message.
-/

namespace Rollcall

/-- How much an event matters. -/
inductive Level where
  | debug
  | info
  | warning
  | error
  | critical
deriving DecidableEq, Repr, Inhabited

namespace Level

/-- The word for a level. -/
def label : Level → String
  | .debug => "DEBUG"
  | .info => "INFO"
  | .warning => "WARNING"
  | .error => "ERROR"
  | .critical => "CRITICAL"

/-- The rank of a level: an event is shown when its rank is at least the threshold. -/
def rank : Level → Nat
  | .debug => 10
  | .info => 20
  | .warning => 30
  | .error => 40
  | .critical => 50

end Level

/-- Something that happened while a program was loaded or audited. -/
inductive Event where
  | syntaxErrors (path : String)
  | duplicateDeclarations (fullName : String)
  | loaded (files declarations : Nat) (assembly : String)
  | notReferenced (typeName assembly : String)
  | skippedCandidate (name : String)
  | registryChosen (fullName : String)
  | noRegistry (assembly : String)
  | cancelled (assembly : String)
  | checked (assembly : String) (findings : Nat)
deriving DecidableEq, Repr, Inhabited

namespace Event

/-- The level of an event. -/
def level : Event → Level
  | .syntaxErrors _ => .debug
  | .duplicateDeclarations _ => .warning
  | .loaded .. => .info
  | .notReferenced .. => .debug
  | .skippedCandidate _ => .debug
  | .registryChosen _ => .info
  | .noRegistry _ => .info
  | .cancelled _ => .info
  | .checked .. => .info

/-- The message of an event. -/
def message : Event → String
  | .syntaxErrors path => "Syntax errors in " ++ path ++ "; continuing with a partial tree"
  | .duplicateDeclarations fullName =>
    "Duplicate declarations of " ++ fullName ++ "; its declarations will not be checked"
  | .loaded files declarations assembly =>
    "Loaded " ++ toString files ++ " file(s), " ++ toString declarations ++ " type declaration(s) into " ++ assembly
  | .notReferenced typeName assembly => typeName ++ " is not referenced by " ++ assembly
  | .skippedCandidate name => "Skipping " ++ name ++ ": not declared in a conventional namespace"
  | .registryChosen fullName => "Using " ++ fullName ++ " as serialization registry"
  | .noRegistry assembly => "No serialization registry in " ++ assembly ++ "; nothing to check"
  | .cancelled assembly => "Analysis of " ++ assembly ++ " cancelled"
  | .checked assembly findings => "Checked " ++ assembly ++ ": " ++ toString findings ++ " finding(s)"

end Event

end Rollcall
