import Rollcall.Event
import Rollcall.Program.Basic

/-!
# The registry

A program's registry is the type that lists the models known to the serializer.  No contract fixes its name, so it is
found by convention: a type whose name ends in `SourceGenerationContext`, declared in the assembly's root or
`Converters` namespace, that derives from `JsonSerializerContext` and carries a `JsonSerializable` attribute.  The
first such type in the order of declared names is taken.
-/

namespace Rollcall

/-- The type from which registries derive. -/
def registryBase : String := "System.Text.Json.Serialization.JsonSerializerContext"

/-- The attribute type that registers a model. -/
def registrationAttribute : String := "System.Text.Json.Serialization.JsonSerializableAttribute"

/-- How the names of registries end. -/
def registryEnding : String := "SourceGenerationContext"

namespace Program

/-- The types of a program that were not seen yet. -/
def unseen (p : Program) (seen : List Nat) : List TypeRecord :=
  p.records.filter fun r => !seen.contains r.symbol.serial

theorem unseen_cons (p : Program) (seen : List Nat) (serial : Nat) :
    p.unseen (serial :: seen) = (p.unseen seen).filter fun r => r.symbol.serial != serial := by
  rw [unseen, unseen, List.filter_filter]
  refine List.filter_congr fun r _ => ?_
  rw [List.contains_cons, Bool.not_or]
  rfl

/-- A step to the base uses up a type that was not seen yet, since only the program's own types have a base. -/
theorem length_unseen_lt {p : Program} {seen : List Nat} {s base : Symbol} (hs : s.serial ∉ seen)
    (hbase : p.baseOf? s = some base) : (p.unseen (s.serial :: seen)).length < (p.unseen seen).length := by
  obtain ⟨r, hr, -⟩ := Option.bind_eq_some_iff.mp hbase
  have hsame := serial_of_record? hr
  have hmem : r ∈ p.unseen seen := by
    rw [unseen, List.mem_filter]
    exact ⟨List.mem_of_find?_eq_some hr, by simpa [hsame] using hs⟩
  rw [unseen_cons]
  exact List.length_filter_lt_length_iff_exists.mpr ⟨r, hmem, by simp [hsame]⟩

/-- Whether a walk along the bases that has come to `current` meets `base`.  The walk ends where there is no base and where
it comes back to a type that it has seen, so bases may form a circle.  It keeps the serial numbers of the types seen. -/
def meets (p : Program) (base : Symbol) (seen : List Nat) (current : Option Symbol) : Bool :=
  match current with
  | none => false
  | some s =>
    if s.serial ∈ seen then false
    else if s.same base then true
    else p.meets base (s.serial :: seen) (p.baseOf? s)
termination_by (p.unseen seen).length + current.toList.length
decreasing_by
  next hs _ =>
  cases hbase : p.baseOf? s with
  | none =>
    rw [unseen_cons]
    exact Nat.add_lt_add_of_le_of_lt (List.length_filter_le _ _) Nat.zero_lt_one
  | some b => exact Nat.add_lt_add_right (length_unseen_lt hs hbase) 1

/-- Whether `base` is reached from `s` by steps to the base. -/
def inherits (p : Program) (s base : Symbol) : Bool :=
  p.meets base [] (p.baseOf? s)

/-- The attributes by which a type registers models. -/
def entriesOf (p : Program) (s : Symbol) : List Attribute :=
  (p.attributesOf s).filter fun a => a.type == some registrationAttribute

/-- The full names under which a registry of some simple name may be declared, in the order in which they are
tried. -/
def registryNames (p : Program) (name : String) : List String :=
  [p.assembly ++ ".Converters." ++ name, p.assembly ++ "." ++ name]

/-- The type declared under the first registry name that is declared. -/
def registryCandidate? (p : Program) (name : String) : Option Symbol :=
  (p.registryNames name).findSome? p.lookup?

/-- Whether a type can be the registry. -/
def qualifies (p : Program) (base candidate : Symbol) : Bool :=
  p.inherits candidate base && !(p.entriesOf candidate).isEmpty

/-- The simple names that a registry may have. -/
def registryLikeNames (p : Program) : List String :=
  p.declaredNames.filter fun name => registryEnding.toList.isSuffixOf name.toList

/-- Looks for the registry among types with the given simple names. -/
def locateAmong (p : Program) (base : Symbol) : List String → Option Symbol × List Event
  | [] => (none, [])
  | name :: names =>
    match p.registryCandidate? name with
    | none =>
      let (found, events) := p.locateAmong base names
      (found, .skippedCandidate name :: events)
    | some candidate =>
      if p.qualifies base candidate then (some candidate, [.registryChosen candidate.fullName])
      else p.locateAmong base names

/-- Looks for the registry of a program. -/
def locate (p : Program) : Option Symbol × List Event :=
  match p.resolve? registryBase with
  | none => (none, [.notReferenced registryBase p.assembly])
  | some base => p.locateAmong base p.registryLikeNames

/-- The registry of a program. -/
def registry? (p : Program) : Option Symbol :=
  p.locate.1

end Program

end Rollcall
