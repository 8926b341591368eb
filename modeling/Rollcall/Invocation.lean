/-!
# Invocations

What a command line asks for.  Options that belong to every command stand before the name of the command, and the words
behind it are for the command itself.
-/

namespace Rollcall

/-- Why a command line is not carried out. -/
inductive Refusal where
  | help
  | misuse
deriving DecidableEq, Repr, Inhabited

/-- The commands. -/
inductive CommandName where
  | check
  | registry
  | solution
deriving DecidableEq, Repr, Inhabited

/-- A command line up to the name of its command. -/
structure Opening where
  isVerbose : Bool
  command : CommandName
  /-- The words behind the name of the command. -/
  words : List String
deriving DecidableEq, Repr, Inhabited

/-- How findings are printed. -/
inductive OutputFormat where
  | table
  | text
  | json
deriving DecidableEq, Repr, Inhabited

/-- A command with what it is told. -/
inductive Invocation where
  | check (paths : List String) (assembly : Option String) (format : OutputFormat) (isStrict : Bool)
  | registry (paths : List String) (assembly : Option String)
  | solution (root : String) (isStrict : Bool)
deriving DecidableEq, Repr, Inhabited

end Rollcall
