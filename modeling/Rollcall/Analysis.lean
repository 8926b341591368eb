import Rollcall.Finding
import Rollcall.Registry

/-!
# Analyses

An analysis looks for the registry of its program once, when it is first needed, and keeps what it found: later changes
of the program change neither the registry nor its entries.  A run checks the sites of the program in order until its
cancellation token says to stop, and tells its reporter every finding as soon as there is one.
-/

namespace Rollcall

/-- What a look-up of the registry found. -/
structure Lookup where
  registry : Option Symbol
  entries : List Attribute
deriving DecidableEq, Repr, Inhabited

/-- How an analysis finds the registry. -/
structure Locator where
  /-- The registry that a call gives for a program, and what happens on the way.  Calls are counted from zero, and no two
  of them need to agree. -/
  locate : (call : Nat) → Program → Option Symbol × List Event

namespace Locator

/-- Finds the registry by convention. -/
def byConvention : Locator := ⟨fun _ p => p.locate⟩

/-- Gives the same registry for every program. -/
def fixed (registry : Option Symbol) : Locator := ⟨fun _ _ => (registry, [])⟩

instance : Inhabited Locator := ⟨byConvention⟩

end Locator

/-- What a registry registers. -/
def Lookup.of (p : Program) (registry : Option Symbol) : Lookup :=
  ⟨registry, (registry.map p.entriesOf).getD []⟩

/-- A cancellation token: its answers in order, and how often it was asked. -/
structure Cancellation where
  answers : Nat → Bool
  asked : Nat

namespace Cancellation

/-- The token that lets `n` questions pass and then cancels. -/
def after (n : Nat) : Cancellation := ⟨fun i => n ≤ i, 0⟩

/-- The answer to the next question. -/
def isSet (c : Cancellation) : Bool := c.answers c.asked

/-- The token after one more question. -/
def ask (c : Cancellation) : Cancellation := { c with asked := c.asked + 1 }

end Cancellation

/-- Somebody who is told findings, one after the other. -/
structure Reporter (σ : Type) where
  state : σ
  tell : σ → Finding → σ

namespace Reporter

/-- The reporter after one more finding. -/
def report {σ : Type} (r : Reporter σ) (f : Finding) : Reporter σ := { r with state := r.tell r.state f }

/-- The reporter that keeps all findings. -/
def collecting (findings : List Finding) : Reporter (List Finding) := ⟨findings, fun fs f => fs ++ [f]⟩

end Reporter

/-- An analysis of one program. -/
structure Analysis where
  locator : Locator
  /-- What the look-up found, once it was made. -/
  found : Option Lookup
  /-- How often the locator was called. -/
  calls : Nat
deriving Inhabited

/-- What a run found, and what became of its reporter and its token. -/
structure Run (σ : Type) where
  findings : List Finding
  events : List Event
  reporter : Option (Reporter σ)
  cancellation : Option Cancellation

namespace Analysis

/-- An analysis that has not looked for the registry yet. -/
def new (locator : Locator) : Analysis := ⟨locator, none, 0⟩

/-- What the look-up found, which is made now if it was not made before. -/
def ensure (a : Analysis) (p : Program) : Analysis × Lookup × List Event :=
  match a.found with
  | some found => (a, found, [])
  | none =>
    let (registry, events) := a.locator.locate a.calls p
    let found := Lookup.of p registry
    ({ a with found := some found, calls := a.calls + 1 }, found, events)

/-- The finding for a site, given what the look-up found. -/
def findingAt (p : Program) (found : Lookup) (site : Site) : Option Finding :=
  if site.isGenerated || found.registry.isNone then none else p.checkSite found.entries site

/-- Checks one site.  A generated site is not worth a look-up. -/
def check (a : Analysis) (p : Program) (site : Site) : Analysis × Option Finding × List Event :=
  if site.isGenerated then (a, none, [])
  else
    let (a, found, events) := a.ensure p
    (a, findingAt p found site, events)

/-- What a run has done so far. -/
structure Progress (σ : Type) where
  analysis : Analysis
  findings : List Finding
  events : List Event
  reporter : Option (Reporter σ)

namespace Progress

variable {σ : Type}

/-- Checks a site, and keeps and reports the finding if there is one. -/
def visit (w : Progress σ) (p : Program) (site : Site) : Progress σ :=
  let (analysis, finding, events) := w.analysis.check p site
  match finding with
  | none => { w with analysis, events := w.events ++ events }
  | some f => ⟨analysis, w.findings ++ [f], w.events ++ events, w.reporter.map (·.report f)⟩

/-- Visits sites in order.  The token is asked before each of them, and the first time it is set ends the visits. -/
def visitAll (p : Program) :
    List Site → Progress σ → Option Cancellation → Progress σ × Option Cancellation
  | [], w, token => (w, token)
  | site :: sites, w, token =>
    if token.any (·.isSet) then ({ w with events := w.events ++ [.cancelled p.assembly] }, token.map (·.ask))
    else visitAll p sites (w.visit p site) (token.map (·.ask))

end Progress

/-- Checks all sites of a program. -/
def run {σ : Type} (a : Analysis) (p : Program) (reporter : Option (Reporter σ)) (token : Option Cancellation) :
    Analysis × Run σ :=
  let (a, found, located) := a.ensure p
  match found.registry with
  | none => (a, ⟨[], located ++ [.noRegistry p.assembly], reporter, token⟩)
  | some _ =>
    let (w, token) := Progress.visitAll p p.sites ⟨a, [], located, reporter⟩ token
    (w.analysis, ⟨w.findings, w.events ++ [.checked p.assembly w.findings.length], w.reporter, token⟩)

end Analysis

namespace Program

/-- A fresh analysis of a program that tells a reporter what it finds. -/
def analyzeFor {σ : Type} (p : Program) (reporter : Option (Reporter σ)) (token : Option Cancellation) : Run σ :=
  ((Analysis.new .byConvention).run p reporter token).2

/-- A fresh analysis of a program. -/
def analyze (p : Program) (token : Option Cancellation) : Run Unit :=
  p.analyzeFor none token

/-- Analyses of several programs, one after the other, that share a reporter and a token. -/
def analyzeAllFor {σ : Type} :
    List Program → Option (Reporter σ) → Option Cancellation → List (Run σ) × Option (Reporter σ)
  | [], reporter, _ => ([], reporter)
  | p :: programs, reporter, token =>
    let run := p.analyzeFor reporter token
    let (runs, reporter) := analyzeAllFor programs run.reporter run.cancellation
    (run :: runs, reporter)

/-- Analyses of several programs, one after the other, that share a token. -/
def analyzeAll (programs : List Program) (token : Option Cancellation) : List (Run Unit) :=
  (analyzeAllFor programs none token).1

/-- Whether a number of workers is enough: with nothing to do any number is, and a number that is not given is. -/
def enoughWorkers (workers : Option Int) (programs : List Program) : Bool :=
  programs.isEmpty || workers.all (1 ≤ ·)

/-- Analyses by at most `workers` workers.  There is no result if there is something to do and nobody to do it. -/
def analyzeWith (workers : Option Int) (programs : List Program) (token : Option Cancellation) :
    Option (List (Run Unit)) :=
  if enoughWorkers workers programs then some (analyzeAll programs token) else none

end Program

end Rollcall
