import Rollcall.Analysis
import Rollcall.Datum.Document
import Rollcall.Interchange
import Rollcall.Invocation
import Rollcall.Job
import Rollcall.Loading
import Rollcall.Settings

/-!
# Execution of commands

A command line is carried out on a file tree under an environment: it prints text, logs events, and ends with an exit
code.

* Exit code 0 means that the command did its work; 1 that it is strict and found something, that there is no registry
  to show, or that it failed in a way it does not expect; 2 that it could not start, since the command line, the
  configuration or the sources are bad.
* A bad configuration is reported before the words behind the name of the command are looked at.
-/

namespace Rollcall

/-- What commands are built on: how command lines and settings are read, and the console. -/
structure Toolkit where
  /-- Reads a command line up to the name of its command. -/
  readOpening : List String → Except Refusal Opening
  /-- Reads the words behind the name of a command. -/
  readInvocation : CommandName → List String → Except Refusal Invocation
  /-- The settings that the environment gives, or a report of what is wrong with them. -/
  readSettings : Environment → Except String Settings
  console : Console

/-- Where a command runs. -/
structure Surroundings where
  tree : FileTree
  parser : Source → Node
  environment : Environment
  toolkit : Toolkit

/-- What a command did. -/
structure Outcome where
  exitCode : Nat
  /-- The lines of its output. -/
  output : List String
  /-- The lines of what it says beside its output. -/
  notice : List String
  failure : Option Failure
deriving DecidableEq, Repr, Inhabited

/-- Whether an error says that something is not there. -/
def LoadError.isNotFound : LoadError → Bool
  | .pathNotFound _ => true
  | .directoryNotFound _ => true
  | _ => false

/-- Whether an error is about the arguments and not about reading files. -/
def LoadError.isBadArgument : LoadError → Bool
  | .isDirectory _ => false
  | .notPermitted _ => false
  | .nameTooLong _ => false
  | _ => true

namespace Job

section Printing

variable (c : Console)

/-- Ends the command because of bad input. -/
def refuse {α : Type} (message : String) : Job α := do
  printMarkup c ("[red]" ++ c.escape message ++ "[/red]")
  throw (.exit 2)

/-- Logs what loading reported, and ends the command if it failed: with a message for the errors that are `expected`. -/
def loaded {α : Type} (threshold : Threshold) (expected : LoadError → Bool) (trial : Trial α) : Job α := do
  log c threshold trial.events
  match trial.result with
  | .ok a => pure a
  | .error e => if expected e then refuse c e.message else throw (.failure (.load e))

/-! ### Findings -/

/-- The columns of a table of findings with their rules. -/
def findingColumns (findings : List (Finding × Rule)) : List Console.Column :=
  [⟨"location", findings.map fun (f, _) => (f.location.map Location.render).getD ""⟩,
    ⟨"rule", findings.map fun (_, rule) => rule.id⟩,
    ⟨"severity", findings.map fun (_, rule) => rule.severity.label⟩,
    ⟨"type", findings.map fun (f, _) => f.subject⟩]

/-- Prints findings as a table, with the message of their rule. -/
def printFindings (findings : List Finding) : Job Unit := do
  printTable c (findingColumns (findings.filterMap fun f => f.rule?.map fun rule => (f, rule)))
  match findings.head?.bind Finding.rule? with
  | some rule => printMarkup c (c.escape rule.message)
  | none => pure ()
  printMarkup c ("(" ++ toString findings.length ++ " findings)")

/-- The result of a check as a record. -/
def checkRecord (p : Program) (registry : Option Symbol) (findings : List Finding) : Datum :=
  .record [("assembly", .text p.assembly),
    ("registry", (registry.map fun s => Datum.text s.fullName).getD .null),
    ("findings", .list (findings.map Finding.datum))]

/-- Says that a program has no registry. -/
def printNoRegistry (p : Program) : Job Unit :=
  printMarkup c ("[yellow]No serialization registry found in " ++ p.assembly ++ ".[/yellow]")

/-- Prints the findings of a program in some format. -/
def printCheck (p : Program) (registry : Option Symbol) (findings : List Finding) : OutputFormat → Job Unit
  | .json => printPlain (checkRecord p registry findings).indented
  | .text => (findings.filterMap Finding.render?).forM printPlain
  | .table => do
    if registry.isNone then printNoRegistry c p
    printFindings c findings

/-- Ends a strict command that found something. -/
def judge (isStrict : Bool) (findings : List Finding) : Job Unit :=
  if isStrict && !findings.isEmpty then throw (.exit 1) else pure ()

/-- Ends the command because of a bad configuration. -/
def refuseSettings (report : String) : Job Unit := do
  printMarkup c ("[red]Invalid configuration: " ++ c.escape report ++ "[/red]")
  throw (.exit 2)

end Printing

/-! ### Commands -/

variable (s : Surroundings) (threshold : Threshold)

/-- Loads the program that some paths stand for. -/
def loadProgram (paths : List String) (assembly : Option String) : Job Program := do
  return (← loaded s.toolkit.console threshold LoadError.isBadArgument (s.tree.load s.parser paths assembly [])).program

/-- Reports the models that are not registered. -/
def check (paths : List String) (assembly : Option String) (format : OutputFormat) (isStrict : Bool) :
    Job Unit := do
  let p ← loadProgram s threshold paths assembly
  let (a, run) := (Analysis.new .byConvention).run p (none : Option (Reporter Unit)) none
  log s.toolkit.console threshold run.events
  printCheck s.toolkit.console p (a.found.bind (·.registry)) run.findings format
  judge isStrict run.findings

/-- What an attribute registers, as it is shown. -/
def entryText (a : Attribute) : String :=
  match a.arguments.head? with
  | some (.type symbol) => symbol.fullName
  | some (.constant (.text value)) => Text.quoted value
  | some (.constant (.flag value)) => if value then "True" else "False"
  | some (.constant (.number value)) => toString value
  | some .unknown => "None"
  | none => "None"

/-- Shows the registry and what it registers. -/
def registry (paths : List String) (assembly : Option String) : Job Unit := do
  let p ← loadProgram s threshold paths assembly
  let (_, found, events) := (Analysis.new .byConvention).ensure p
  log s.toolkit.console threshold events
  match found.registry with
  | none => do
    printNoRegistry s.toolkit.console p
    throw (.exit 1)
  | some symbol => do
    printMarkup s.toolkit.console ("[green]Registry[/green] " ++ symbol.fullName)
    printTable s.toolkit.console [⟨"registered type", found.entries.map entryText⟩]
    printMarkup s.toolkit.console ("(" ++ toString found.entries.length ++ " entries)")

/-- Reports the models of every project below a directory. -/
def solution (root : String) (isStrict : Bool) : Job Unit := do
  let programs := (← loaded s.toolkit.console threshold LoadError.isNotFound (s.tree.loadProjects s.parser root)).map (·.program)
  if programs.isEmpty then
    printMarkup s.toolkit.console ("[yellow]No .csproj projects found under " ++ root ++ ".[/yellow]")
  else
    let runs := Program.analyzeAll programs none
    log s.toolkit.console threshold (runs.flatMap (·.events))
    (programs.zip runs).forM fun (p, run) => do
      printMarkup s.toolkit.console ("[bold]" ++ p.assembly ++ "[/bold]")
      printFindings s.toolkit.console run.findings
    judge isStrict (runs.flatMap (·.findings))

/-- Carries out a command. -/
def perform : Invocation → Job Unit
  | .check paths assembly format isStrict => check s threshold paths assembly format isStrict
  | .registry paths assembly => registry s threshold paths assembly
  | .solution root isStrict => solution s threshold root isStrict

/-- What a job did. -/
def outcome (job : Job Unit) : Outcome :=
  match job.run.run ⟨[], false⟩ with
  | (.ok (), screen) => ⟨0, screen.lines, [], none⟩
  | (.error (.exit code), screen) => ⟨code, screen.lines, [], none⟩
  | (.error (.failure cause), screen) => ⟨1, screen.lines, [cause.message], some cause⟩

end Job

/-! ### Command lines -/

/-- How command lines are written. -/
def usage : List String :=
  ["Usage: rollcall [-v] check PATHS... [--assembly-name NAME] [--format table|text|json] [--strict]",
    "       rollcall [-v] registry PATHS... [--assembly-name NAME]",
    "       rollcall [-v] solution ROOT [--strict]"]

/-- What happens to a command line that is not carried out. -/
def Refusal.outcome : Refusal → Outcome
  | .help => ⟨0, usage, [], none⟩
  | .misuse => ⟨2, [], usage, none⟩

namespace Surroundings

/-- Carries out a command line. -/
def execute (s : Surroundings) (words : List String) : Outcome :=
  match s.toolkit.readOpening words with
  | .error refusal => refusal.outcome
  | .ok opening =>
    match s.toolkit.readSettings s.environment with
    | .error report => Job.outcome (Job.refuseSettings s.toolkit.console report)
    | .ok settings =>
      match s.toolkit.readInvocation opening.command opening.words with
      | .error refusal => refusal.outcome
      | .ok invocation =>
        Job.outcome (Job.perform s (if opening.isVerbose then .info else settings.threshold) invocation)

end Surroundings

end Rollcall
