import Rollcall.Syntax.Directive

/-!
# Scopes

What a written name may refer to where it stands: the namespace and the types around it, the namespaces opened by using
directives and the aliases.  Aliases keep the order in which they first appear, and the last target given to an alias
is the one that holds.
-/

namespace Rollcall

/-- Aliases with their targets, one entry for each alias. -/
structure Aliases where
  entries : List (String × String)
deriving DecidableEq, Repr, Inhabited

namespace Aliases

/-- No alias. -/
def empty : Aliases := ⟨[]⟩

/-- The entries after an alias is given a target: a known alias keeps its place. -/
def putEntry (name target : String) : List (String × String) → List (String × String)
  | [] => [(name, target)]
  | (n, t) :: rest => if n = name then (n, target) :: rest else (n, t) :: putEntry name target rest

/-- Gives an alias a target. -/
def put (a : Aliases) (name target : String) : Aliases :=
  ⟨putEntry name target a.entries⟩

/-- Gives several aliases their targets, in order. -/
def putAll (a : Aliases) (pairs : List (String × String)) : Aliases :=
  pairs.foldl (fun a (name, target) => a.put name target) a

/-- The target of an alias. -/
def target? (a : Aliases) (name : String) : Option String :=
  a.entries.lookup name

private theorem lookup_putEntry (name target n : String) (entries : List (String × String)) :
    (putEntry name target entries).lookup n = if n = name then some target else entries.lookup n := by
  induction entries with
  | nil =>
    by_cases h : n = name
    · simp [putEntry, h]
    · have hb : (n == name) = false := beq_eq_false_iff_ne.2 h
      simp [putEntry, List.lookup_cons, h, hb]
  | cons e entries ih =>
    obtain ⟨m, t⟩ := e
    by_cases hn : n = m
    · by_cases hm : m = name <;> simp [putEntry, hn, hm]
    · have hb : (n == m) = false := beq_eq_false_iff_ne.2 hn
      by_cases hm : m = name
      · subst hm
        simp [putEntry, List.lookup_cons, hn, hb]
      · simp [putEntry, List.lookup_cons, hm, hb, ih]

@[simp] theorem target?_empty (n : String) : empty.target? n = none := rfl

theorem target?_put (a : Aliases) (name target n : String) :
    (a.put name target).target? n = if n = name then some target else a.target? n :=
  lookup_putEntry name target n a.entries

end Aliases

/-- What surrounds a written name. -/
structure Scope where
  /-- The dotted name of the namespace, empty for the global one. -/
  space : String
  /-- The full names of the types around, outermost first. -/
  containers : List String
  usings : List String
  aliases : Aliases
deriving DecidableEq, Repr, Inhabited

namespace Scope

/-- The scope in which nothing is known. -/
def empty : Scope := ⟨"", [], [], Aliases.empty⟩

/-- The scope with more opened namespaces and aliases. -/
def withUsings (s : Scope) (usings : List String) (aliases : Aliases) : Scope :=
  { s with usings := s.usings ++ usings, aliases := s.aliases.putAll aliases.entries }

/-- The scope inside a namespace. -/
def enterNamespace (s : Scope) (name : String) : Scope :=
  { s with space := TypeName.qualify s.space name }

/-- The scope inside a type. -/
def enterType (s : Scope) (fullName : String) : Scope :=
  { s with containers := s.containers ++ [fullName] }

/-- What precedes the name of a type declared here: the innermost type around it, else the namespace. -/
def qualifier (s : Scope) : String :=
  s.containers.getLast?.getD s.space

/-- The namespaces that directives open; an empty name opens nothing. -/
def openedBy (directives : List Directive) : List String :=
  directives.filterMap fun d =>
    match d.brings with
    | .openNamespace name => if name = "" then none else some name
    | _ => none

/-- The aliases that directives introduce. -/
def aliasesOf (directives : List Directive) : Aliases :=
  Aliases.empty.putAll <| directives.filterMap fun d =>
    match d.brings with
    | .aliasFor name target => some (name, target)
    | _ => none

/-- The scope behind the directives of a file or namespace body; global directives have no effect where they
stand. -/
def withDirectives (s : Scope) (directives : List Directive) : Scope :=
  let own := directives.filter fun d => !d.isGlobal
  s.withUsings (openedBy own) (aliasesOf own)

/-- The scope that the global directives of all files give to every file.  A namespace is opened once. -/
def ofGlobals (directives : List Directive) : Scope :=
  let globals := directives.filter fun d => d.isGlobal
  { empty with usings := (openedBy globals).eraseDups, aliases := aliasesOf globals }

end Scope

end Rollcall
