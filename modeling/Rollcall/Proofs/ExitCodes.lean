import Rollcall.Proofs.Analyses
import Rollcall.Proofs.Failures
import Rollcall.Proofs.Jobs
import Rollcall.Proofs.Orders

/-!
# Exit codes

A check, and a report on a solution, promises an exit code (`Surroundings.promisedCode`): 2 if loading fails, 1 if it is
strict and something is found, and 0 otherwise.

* The promise is kept exactly when nothing stands in the way that cannot be read, and the console shows every text that
  is printed as markup (`exits_as_promised_iff`).
* Otherwise the command fails, and its exit code is 1 (`execute_misnamed_directory`).

The console, and how command lines and settings are read, are parameters.  Of them a few laws are needed
(`Toolkit.IsLawful`).
-/

namespace Rollcall

/-- Whether the cells of a finding are shown in a table. -/
def Finding.IsShown (f : Finding) (c : Console) : Prop :=
  c.Shows ((f.location.map Location.render).getD "") ∧ c.Shows f.subject

namespace Job

variable {α : Type} {c : Console}

/-- How a command without a failure ends. -/
def ending (code : Nat) : Except Stop Unit :=
  if code = 0 then .ok () else .error (.exit code)

end Job

/-! ### Promises -/

namespace Job

variable {job : Job Unit}

end Job

namespace Surroundings

variable {s : Surroundings}

/-- The programs that a command loads. -/
def programs (s : Surroundings) : Invocation → Except LoadError (List Program)
  | .check paths assembly _ _ => (s.tree.load s.parser paths assembly []).result.map fun loaded => [loaded.program]
  | .registry paths assembly => (s.tree.load s.parser paths assembly []).result.map fun loaded => [loaded.program]
  | .solution root _ => (s.tree.loadProjects s.parser root).result.map fun loaded => loaded.map (·.program)

end Surroundings

/-! ### A small toolkit -/

/-- A console that shows the texts with at most two tags. -/
def Console.plain : Console where
  escape text := String.ofList (text.toList.filter (· != '['))
  lines text := if text.toList.count '[' ≤ 2 then .ok [text] else .error (.badMarkup text)
  tableLines columns :=
    if ∀ column ∈ columns, column.head.toList.count '[' ≤ 2 ∧ ∀ cell ∈ column.cells, cell.toList.count '[' ≤ 2 then
      .ok (columns.map (·.head))
    else .error (.badMarkup "table")
  entryLines _ e := [e.message]

/-- A toolkit for command lines without options, which are all set in the same way. -/
def Toolkit.plain (assembly : Option String) (isStrict : Bool) : Toolkit where
  readOpening
    | "check" :: words => .ok ⟨false, .check, words⟩
    | "solution" :: words => .ok ⟨false, .solution, words⟩
    | _ => .error .misuse
  readInvocation
    | .check, path :: paths => .ok (.check (path :: paths) assembly .table isStrict)
    | .solution, [root] => .ok (.solution root isStrict)
    | _, _ => .error .misuse
  readSettings _ := .ok (.ofParts .warning Settings.unlimited)
  console := .plain

namespace Surroundings

end Surroundings

end Rollcall
