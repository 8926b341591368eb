import Rollcall.Discovery
import Rollcall.Generated
import Rollcall.Program.Binding
import Rollcall.Registry

/-!
# Loading programs

A program is loaded from the sources that some paths stand for.  The global using directives of all files apply to
every file.  The types of the serialization framework are known to the program when one of its sources names their
namespace.

What loading reports is kept also when it fails.
-/

namespace Rollcall

/-- A source file with its syntax tree. -/
structure ParsedFile where
  path : Path
  isGenerated : Bool
  bytes : ByteArray
  tree : Node

/-- A computation that reports events and may fail. -/
structure Trial (α : Type) where
  events : List Event
  result : Except LoadError α

namespace Trial

/-- A computation that reports nothing. -/
def ofResult {α : Type} (result : Except LoadError α) : Trial α := ⟨[], result⟩

/-- One computation after another; a failure ends it. -/
def andThen {α β : Type} (first : Trial α) (next : α → Trial β) : Trial β :=
  match first.result with
  | .error e => ⟨first.events, .error e⟩
  | .ok a => ⟨first.events ++ (next a).events, (next a).result⟩

instance : Monad Trial where
  pure a := ⟨[], .ok a⟩
  bind := andThen

/-- Reports events. -/
def report (events : List Event) : Trial Unit := ⟨events, .ok ()⟩

end Trial

/-- A program with the paths of its sources. -/
structure LoadedProgram where
  files : List Path
  program : Program

/-- The namespace of the serialization framework. -/
def frameworkNamespace : String := "System.Text.Json.Serialization"

/-- The framework types that a program may refer to. -/
def frameworkTypes : List String := [registryBase, registrationAttribute]

namespace Program

/-- Whether a source names the namespace of the serialization framework. -/
def namesFramework (bytes : ByteArray) : Bool :=
  Text.occurs frameworkNamespace.toUTF8.data.toList bytes.data.toList

/-- The declarations of all files, under the global directives of all of them. -/
def declarationsOf (files : List ParsedFile) : List Declaration :=
  let outlines := files.map fun f => (f, Outline.ofNode f.tree)
  let root := Scope.ofGlobals (outlines.flatMap fun (_, outline) => outline.directives)
  outlines.flatMap fun (f, outline) => Declaration.ofOutline ⟨f.path.render, f.isGenerated⟩ root outline

/-- The program that knows only the framework types, or none. -/
def withFramework (assembly : String) (isReferenced : Bool) : Program :=
  if isReferenced then
    frameworkTypes.zipIdx.foldl
      (fun p (fullName, serial) => p.addExternal ⟨serial, fullName, .classType, none⟩ none) (empty assembly)
  else empty assembly

/-- The program that parsed files make up. -/
def ofFiles (assembly : String) (files : List ParsedFile) : Program × List Event :=
  let declarations := declarationsOf files
  let (program, events) := (withFramework assembly (files.any fun f => namesFramework f.bytes)).bind declarations
  (program, events ++ [.loaded files.length declarations.length assembly])

end Program

namespace FileTree

/-- Reads and parses a source. -/
def parse (t : FileTree) (parser : Source → Node) (path : Path) : Trial ParsedFile := do
  let bytes ← Trial.ofResult (t.read path)
  let tree := parser ⟨bytes⟩
  Trial.report (if tree.hasError then [.syntaxErrors path.render] else [])
  return { path, bytes, tree, isGenerated := Generated.isGenerated path.name bytes.data.toList }

/-- Loads the program that some arguments stand for.  An assembly name that is missing or empty is guessed. -/
def load (t : FileTree) (parser : Source → Node) (arguments : List String) (assembly : Option String)
    (exclude : List Path) : Trial LoadedProgram := do
  let files ← Trial.ofResult (t.discover arguments exclude)
  let assembly ← match assembly with
    | some name => if name = "" then Trial.ofResult (t.assemblyName arguments) else pure name
    | none => Trial.ofResult (t.assemblyName arguments)
  let parsed ← files.mapM (t.parse parser)
  let (program, events) := Program.ofFiles assembly parsed
  Trial.report events
  return { files, program }

/-- Loads every project below a directory.  The sources of a project inside another belong to the inner one only. -/
def loadProjects (t : FileTree) (parser : Source → Node) (directory : String) : Trial (List LoadedProgram) := do
  let projects ← Trial.ofResult (t.projects directory)
  projects.mapM fun project => t.load parser [project.render] none (nestedIn project projects)

end FileTree

end Rollcall
