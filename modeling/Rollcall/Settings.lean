import Rollcall.Datum.Checked
import Rollcall.Text.Blank
import Rollcall.Text.Capital
import Rollcall.Threshold

/-!
# Settings

How the audit is set up: from which level on events are shown, and how many workers may analyse programs at once.
Settings come from the environment or from data of any shape.
-/

namespace Rollcall

/-- How the audit is set up. -/
structure Settings where
  threshold : Threshold
  maxWorkers : Option Nat
  /-- A limit on the workers leaves at least one. -/
  maxWorkers_pos : ∀ n ∈ maxWorkers, 1 ≤ n

namespace Settings

/-- Reads a threshold, in letters of any case and with white space around it. -/
def checkThreshold (name : String) : Checked Threshold :=
  match Threshold.ofName? (String.ofList (Text.capitals (Text.trim name.toList))) with
  | some threshold => .good threshold
  | none => .fail (.rejected ("Unknown log level '" ++ name ++ "'"))

/-- A limit on the workers. -/
abbrev Limit := { limit : Option Nat // ∀ n ∈ limit, 1 ≤ n }

/-- No limit on the workers. -/
def unlimited : Limit := ⟨none, by simp⟩

/-- Reads a limit on the workers. -/
def checkLimit : Option Int → Checked Limit
  | none => .good unlimited
  | some n =>
    if h : 1 ≤ n then .good ⟨some n.toNat, by simp only [Option.mem_def, Option.some.injEq]; omega⟩
    else .fail (.rejected "max_workers must be at least 1")

/-- Settings from their parts. -/
def ofParts (threshold : Threshold) (limit : Limit) : Settings := ⟨threshold, limit.val, limit.property⟩

/-- Reads settings. -/
def ofDatum : Datum → Checked Settings :=
  Datum.asRecord "Settings" fun fields =>
    ofParts
      <$> Datum.optional fields "log_level" .warning (fun d => d.asText.andThen checkThreshold)
      <*> Datum.optional fields "max_workers" unlimited
        (fun d => (d.asOptional Datum.asInteger).andThen checkLimit)

end Settings

/-- The variables of the environment that set up the audit. -/
structure Environment where
  logLevel : Option String
  maxWorkers : Option String
deriving DecidableEq, Repr, Inhabited

namespace Environment

/-- The name of the variable for the threshold. -/
def logLevelVariable : String := "SERIALIZATION_AUDIT_LOG_LEVEL"

/-- The name of the variable for the limit on the workers. -/
def maxWorkersVariable : String := "SERIALIZATION_AUDIT_MAX_WORKERS"

/-- The texts that the environment gives for the fields of the settings.  An empty limit is none. -/
def texts (e : Environment) : List (String × String) :=
  ("log_level", e.logLevel.getD Threshold.warning.name) ::
    ((e.maxWorkers.filter (· ≠ "")).map fun s => ("max_workers", s)).toList

/-- The settings that the environment gives. -/
def settings (e : Environment) : Checked Settings :=
  Settings.ofDatum (.record (e.texts.map fun (name, text) => (name, .text text)))

end Environment

end Rollcall
