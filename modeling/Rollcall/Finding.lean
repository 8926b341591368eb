import Rollcall.Location
import Rollcall.Program.Basic

/-!
# Findings

A finding says that a marked record is not registered.  It refers to its rule by the rule's identifier; `Finding.rule?`
knows no rule for an identifier that is not in use.
-/

namespace Rollcall

/-- How serious a finding is. -/
inductive Severity where
  | error
  | warning
  | info
deriving DecidableEq, Repr, Inhabited

/-- The word for a severity. -/
def Severity.label : Severity → String
  | .error => "error"
  | .warning => "warning"
  | .info => "info"

/-- What a finding means. -/
structure Rule where
  id : String
  title : String
  message : String
  category : String
  severity : Severity
  isEnabledByDefault : Bool
deriving DecidableEq, Repr, Inhabited

/-- A record marked as a serialization model has to be registered. -/
def Rule.unregisteredModel : Rule where
  id := "CRY001"
  title := "Classes marked with SerializationModel also require a JsonSerializable notation " ++
    "on the JsonSerializationContext implementation"
  message := "Classes marked with [SerializationModel] also require a JsonSerializable notation " ++
    "on the JsonSerializationContext implementation"
  category := "Serialization"
  severity := .warning
  isEnabledByDefault := true

/-- The rules in use. -/
def Rule.all : List Rule := [Rule.unregisteredModel]

/-- A model without a registration. -/
structure Finding where
  ruleId : String
  subject : String
  location : Option Location
deriving DecidableEq, Repr, Inhabited

namespace Finding

/-- The rule of a finding. -/
def rule? (f : Finding) : Option Rule :=
  Rule.all.find? fun r => r.id == f.ruleId

/-- Where a finding is, as it is shown. -/
def whereabouts (f : Finding) : String :=
  match f.location with
  | some l => l.render
  | none => "<unknown>"

/-- A finding as one line of text under its rule. -/
def line (f : Finding) (rule : Rule) : String :=
  f.whereabouts ++ ": " ++ rule.severity.label ++ " " ++ rule.id ++ ": " ++ f.subject ++ ": " ++ rule.message

/-- A finding as one line of text, if its rule is known. -/
def render? (f : Finding) : Option String :=
  f.rule?.map f.line

end Finding

/-! ### The check of one site -/

/-- The attribute name that marks a model.  It is compared as written. -/
def modelMarker : String := "SerializationModel"

/-- Whether a site carries the marker. -/
def Site.isMarked (s : Site) : Bool :=
  s.attributeNames.contains modelMarker

/-- Whether an attribute registers a type: its first argument is that very type. -/
def Attribute.registers (a : Attribute) (s : Symbol) : Bool :=
  match a.arguments with
  | .type t :: _ => t.same s
  | _ => false

/-- Whether one of the entries registers a type. -/
def isRegistered (entries : List Attribute) (s : Symbol) : Bool :=
  entries.any (·.registers s)

/-- The finding for a marked record that no entry registers. -/
def Program.checkSite (p : Program) (entries : List Attribute) (site : Site) : Option Finding :=
  if site.kind == .recordType && site.isMarked then
    match p.symbolOf? site with
    | some symbol =>
      if isRegistered entries symbol then none
      else some ⟨Rule.unregisteredModel.id, symbol.fullName, site.location⟩
    | none => none
  else none

end Rollcall
