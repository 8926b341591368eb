import Rollcall.Analysis

/-!
# Sessions

A session builds programs step by step and questions them.  Its programs, symbols, sites and analyses are numbered from
zero in the order in which they are made, and a command refers to them by number.

* The serial number of a symbol or a site is its number in the session, so two of them are the same only if they
  were made by the same command, whatever their names.
* A command that cannot be carried out changes nothing, and the next one is carried out (`Session.step`).
* Some commands open a page of the log.  A page holds the events from its command up to the next one that opens a page
  (`Session.pages`).
-/

namespace Rollcall

/-- An argument of an attribute as a command gives it. -/
inductive GivenArgument where
  | type (symbol : Nat)
  | constant (value : Constant)
  | unknown
deriving DecidableEq, Repr, Inhabited

/-- An attribute as a command gives it. -/
structure GivenAttribute where
  type : Option String
  arguments : List GivenArgument
deriving DecidableEq, Repr, Inhabited

/-- How an analysis of a session finds the registry. -/
inductive GivenLocator where
  | byConvention
  | fixed (registry : Option Nat)
deriving DecidableEq, Repr, Inhabited

/-- What a new site looks like. -/
structure SiteDraft where
  kind : TypeKind
  name : String
  attributeNames : List String
  location : Option Location
  isGenerated : Bool
deriving DecidableEq, Repr, Inhabited

/-- A question about one program. -/
inductive Question where
  | resolve (fullName : String)
  | lookup (fullName : String)
  | declaredNames
  | sites
  | baseOf (symbol : Nat)
  | attributesOf (symbol : Nat)
  | symbolOf (site : Nat)
  | inherits (symbol base : Nat)
  | entriesOf (symbol : Nat)
  | locate
  | checkSite (site : Nat) (entries : List GivenAttribute)
  | analyze (cancelAfter : Option Nat)
  | registryOfMany (readers : Nat)
deriving DecidableEq, Repr, Inhabited

/-- A command of a session. -/
inductive Command where
  | newProgram (assembly : String)
  | newSymbol (fullName : String) (kind : TypeKind)
  | addExternal (program : Nat) (fullName : String) (kind : TypeKind) (base : Option Nat)
  | declare (program : Nat) (fullName : String) (kind : TypeKind) (location : Option Location) (base : Option Nat)
      (attributes : List GivenAttribute)
  | setBase (program symbol : Nat) (base : Option Nat)
  | setAttributes (program symbol : Nat) (attributes : List GivenAttribute)
  | newSite (draft : SiteDraft)
  /-- Makes a site and adds it to a program. -/
  | addNewSite (program : Nat) (draft : SiteDraft) (symbol : Option Nat)
  | addSite (program site : Nat) (symbol : Option Nat)
  | ask (program : Nat) (question : Question)
  | same (first second : Option Nat)
  | isMarked (site : Nat)
  | isRegistered (symbol : Nat) (entries : List GivenAttribute)
  | newAnalysis (program : Nat) (locator : GivenLocator)
  | registry (analysis : Nat)
  | entries (analysis : Nat)
  | check (analysis site : Nat)
  | run (analysis : Nat) (cancelAfter : Option Nat) (isReported : Bool)
  | locatorCalls (analysis : Nat)
  | reported
  | analyzeAll (programs : List Nat) (workers : Option Int) (cancelAfter : Option Nat) (isReported : Bool)
deriving DecidableEq, Repr, Inhabited

/-- What a command answers. -/
inductive Reply where
  | done
  | number (value : Nat)
  | flag (value : Bool)
  | names (values : List String)
  | symbol (value : Option Symbol)
  | sites (values : List Site)
  | attributes (values : List Attribute)
  | finding (value : Option Finding)
  | findings (values : List Finding)
  | findingsPerProgram (values : List (List Finding))
  /-- The registry, at the head of a log page. -/
  | located (registry : Option Symbol)
  /-- The findings of a run, at the head of a log page. -/
  | ran (findings : List Finding)
  /-- How often the registry was looked for, and what each reader was told. -/
  | readings (calls : Nat) (values : List (Option Symbol))
  | foreignSymbol
  | tooFewWorkers
  /-- The command refers to something that the session does not hold. -/
  | nothingSuch
deriving DecidableEq, Repr, Inhabited

/-- Whether a reply opens a page of the log. -/
def Reply.opensPage : Reply → Bool
  | .located _ => true
  | .ran _ => true
  | _ => false

/-- What a session holds. -/
structure Session where
  programs : List Program
  symbols : List Symbol
  sites : List Site
  /-- The analyses with the numbers of their programs. -/
  analyses : List (Nat × Analysis)
  reported : List Finding
deriving Inhabited

/-- The session after a command, with the reply and what happened. -/
structure Step where
  session : Session
  reply : Reply
  events : List Event
deriving Inhabited

namespace Session

/-- The session in which nothing has been made. -/
def empty : Session := ⟨[], [], [], [], []⟩

/-! ### References -/

/-- The symbol that a number refers to, where there may be none. -/
def optionalSymbol? (s : Session) : Option Nat → Option (Option Symbol)
  | none => some none
  | some n => (s.symbols[n]?).map some

/-- The argument that a command gives. -/
def argument? (s : Session) : GivenArgument → Option Argument
  | .type n => (s.symbols[n]?).map .type
  | .constant value => some (.constant value)
  | .unknown => some .unknown

/-- The attribute that a command gives. -/
def attribute? (s : Session) (a : GivenAttribute) : Option Attribute := do
  return ⟨a.type, ← a.arguments.mapM s.argument?⟩

/-- The locator that a command gives. -/
def locator? (s : Session) : GivenLocator → Option Locator
  | .byConvention => some .byConvention
  | .fixed registry => (s.optionalSymbol? registry).map .fixed

/-! ### Changes -/

/-- Puts a program in the place of another. -/
def putProgram (s : Session) (n : Nat) (p : Program) : Session :=
  { s with programs := s.programs.set n p }

/-- Puts an analysis in the place of another of the same program. -/
def putAnalysis (s : Session) (n program : Nat) (a : Analysis) : Session :=
  { s with analyses := s.analyses.set n (program, a) }

/-- Keeps a new symbol. -/
def addSymbol (s : Session) (fullName : String) (kind : TypeKind) (location : Option Location) : Session × Symbol :=
  let symbol : Symbol := ⟨s.symbols.length, fullName, kind, location⟩
  ({ s with symbols := s.symbols ++ [symbol] }, symbol)

/-- Keeps a new site. -/
def addDraft (s : Session) (d : SiteDraft) : Session × Site :=
  let site : Site := ⟨s.sites.length, d.kind, d.name, d.attributeNames, d.location, d.isGenerated⟩
  ({ s with sites := s.sites ++ [site] }, site)

/-- The reporter of the session, if a command wants one. -/
def reporter? (s : Session) (isReported : Bool) : Option (Reporter (List Finding)) :=
  if isReported then some (.collecting s.reported) else none

/-- Keeps what the reporter of the session was told. -/
def keepReport (s : Session) (reporter : Option (Reporter (List Finding))) : Session :=
  { s with reported := (reporter.map (·.state)).getD s.reported }

/-- A reply that leaves the session as it is. -/
def answer (s : Session) (reply : Reply) : Step := ⟨s, reply, []⟩

/-! ### Commands -/

/-- What `readers` that share one new analysis are told about the registry. -/
def readRegistry (p : Program) : (readers : Nat) → Analysis → List (Option Symbol) × Analysis × List Event
  | 0, a => ([], a, [])
  | readers + 1, a =>
    let (a, found, events) := a.ensure p
    let (values, a, later) := readRegistry p readers a
    (found.registry :: values, a, events ++ later)

/-- The reply to a question about a program and what happened on the way. -/
def replyTo? (s : Session) (p : Program) : Question → Option (Reply × List Event)
  | .resolve fullName => some (.symbol (p.resolve? fullName), [])
  | .lookup fullName => some (.symbol (p.lookup? fullName), [])
  | .declaredNames => some (.names p.declaredNames, [])
  | .sites => some (.sites p.sites, [])
  | .baseOf n => do return (.symbol (p.baseOf? (← s.symbols[n]?)), [])
  | .attributesOf n => do return (.attributes (p.attributesOf (← s.symbols[n]?)), [])
  | .symbolOf n => do return (.symbol (p.symbolOf? (← s.sites[n]?)), [])
  | .inherits n base => do return (.flag (p.inherits (← s.symbols[n]?) (← s.symbols[base]?)), [])
  | .entriesOf n => do return (.attributes (p.entriesOf (← s.symbols[n]?)), [])
  | .locate => let (registry, events) := p.locate; some (.located registry, events)
  | .checkSite n entries => do
    return (.finding (p.checkSite (← entries.mapM s.attribute?) (← s.sites[n]?)), [])
  | .analyze cancelAfter =>
    let run := p.analyze (cancelAfter.map Cancellation.after)
    some (.findings run.findings, run.events)
  | .registryOfMany readers =>
    let (values, a, events) := readRegistry p readers (Analysis.new .byConvention)
    some (.readings a.calls values, events)

/-- Carries out a command.  There is no result if the command refers to something that the session does not hold. -/
def step? (s : Session) : Command → Option Step
  | .newProgram assembly =>
    some ⟨{ s with programs := s.programs ++ [Program.empty assembly] }, .number s.programs.length, []⟩
  | .newSymbol fullName kind =>
    let (s, symbol) := s.addSymbol fullName kind none
    some (s.answer (.symbol symbol))
  | .addExternal n fullName kind base => do
    let p ← s.programs[n]?
    let base ← s.optionalSymbol? base
    let (s, symbol) := s.addSymbol fullName kind none
    return (s.putProgram n (p.addExternal symbol base)).answer (.symbol symbol)
  | .declare n fullName kind location base attributes => do
    let p ← s.programs[n]?
    let base ← s.optionalSymbol? base
    let attributes ← attributes.mapM s.attribute?
    let (s, symbol) := s.addSymbol fullName kind location
    return (s.putProgram n (p.declare symbol base attributes)).answer (.symbol symbol)
  | .setBase n symbol base => do
    let p ← s.programs[n]?
    match p.setBase? (← s.symbols[symbol]?) (← s.optionalSymbol? base) with
    | some p => return (s.putProgram n p).answer .done
    | none => return s.answer .foreignSymbol
  | .setAttributes n symbol attributes => do
    let p ← s.programs[n]?
    match p.setAttributes? (← s.symbols[symbol]?) (← attributes.mapM s.attribute?) with
    | some p => return (s.putProgram n p).answer .done
    | none => return s.answer .foreignSymbol
  | .newSite draft =>
    let (s, site) := s.addDraft draft
    some (s.answer (.number site.serial))
  | .addNewSite n draft symbol => do
    let p ← s.programs[n]?
    let symbol ← s.optionalSymbol? symbol
    let (s, site) := s.addDraft draft
    return (s.putProgram n (p.addSite site symbol)).answer (.number site.serial)
  | .addSite n site symbol => do
    let p ← s.programs[n]?
    let site ← s.sites[site]?
    return (s.putProgram n (p.addSite site (← s.optionalSymbol? symbol))).answer (.number site.serial)
  | .ask n question => do
    let (reply, events) ← s.replyTo? (← s.programs[n]?) question
    return ⟨s, reply, events⟩
  | .same first second => do
    match ← s.optionalSymbol? first, ← s.optionalSymbol? second with
    | some a, some b => return s.answer (.flag (a.same b))
    | _, _ => return s.answer (.flag false)
  | .isMarked n => do return s.answer (.flag (← s.sites[n]?).isMarked)
  | .isRegistered n entries => do
    return s.answer (.flag (Rollcall.isRegistered (← entries.mapM s.attribute?) (← s.symbols[n]?)))
  | .newAnalysis n locator => do
    let a := Analysis.new (← s.locator? locator)
    return ⟨{ s with analyses := s.analyses ++ [(n, a)] }, .number s.analyses.length, []⟩
  | .registry n => do
    let (program, a) ← s.analyses[n]?
    let (a, found, events) := a.ensure (← s.programs[program]?)
    return ⟨s.putAnalysis n program a, .symbol found.registry, events⟩
  | .entries n => do
    let (program, a) ← s.analyses[n]?
    let (a, found, events) := a.ensure (← s.programs[program]?)
    return ⟨s.putAnalysis n program a, .attributes found.entries, events⟩
  | .check n site => do
    let (program, a) ← s.analyses[n]?
    let (a, finding, events) := a.check (← s.programs[program]?) (← s.sites[site]?)
    return ⟨s.putAnalysis n program a, .finding finding, events⟩
  | .run n cancelAfter isReported => do
    let (program, a) ← s.analyses[n]?
    let (a, run) := a.run (← s.programs[program]?) (s.reporter? isReported) (cancelAfter.map Cancellation.after)
    return ⟨(s.putAnalysis n program a).keepReport run.reporter, .ran run.findings, run.events⟩
  | .locatorCalls n => do return s.answer (.number (← s.analyses[n]?).2.calls)
  | .reported => some (s.answer (.findings s.reported))
  | .analyzeAll numbers workers cancelAfter isReported => do
    let programs ← numbers.mapM fun n => s.programs[n]?
    if Program.enoughWorkers workers programs then
      let (runs, reporter) := Program.analyzeAllFor programs (s.reporter? isReported)
        (cancelAfter.map Cancellation.after)
      return ⟨s.keepReport reporter, .findingsPerProgram (runs.map (·.findings)), runs.flatMap (·.events)⟩
    else return s.answer .tooFewWorkers

/-- Carries out a command. -/
def step (s : Session) (command : Command) : Step :=
  (s.step? command).getD (s.answer .nothingSuch)

/-- The replies to commands that are carried out in order, each with the events of its own. -/
def play (s : Session) : List Command → List (Reply × List Event)
  | [] => []
  | command :: commands =>
    let step := s.step command
    (step.reply, step.events) :: step.session.play commands

/-- The events up to the first reply that opens a page. -/
def untilNextPage : List (Reply × List Event) → List Event
  | [] => []
  | (reply, events) :: rest => if reply.opensPage then [] else events ++ untilNextPage rest

/-- The replies, each with the events from its command up to the next that opens a page. -/
def pages : List (Reply × List Event) → List (Reply × List Event)
  | [] => []
  | (reply, events) :: rest => (reply, events ++ untilNextPage rest) :: pages rest

end Session

end Rollcall
