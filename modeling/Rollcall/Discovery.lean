import Rollcall.FileTree
import Rollcall.LoadError
import Rollcall.Text.Blank
import Rollcall.Text.Utf8

/-!
# Discovery

Which files make up a program, which directories hold projects, and what an assembly is called.  Build output, that is
everything inside a directory named `bin` or `obj` below the searched one, is skipped.  An entry is taken by its name
alone, so a directory named like a source is taken too.

A search opens every directory below the searched one, those of the build output too, and fails at one whose path is
too long.
-/

namespace Rollcall

namespace FileTree

/-- The directories whose contents are skipped. -/
def skippedDirectories : List String := ["bin", "obj"]

/-- Whether an entry at a relative location lies in a skipped directory. -/
def isSkipped (relative : List String) : Bool :=
  relative.dropLast.any skippedDirectories.contains

/-- The entries below a directory whose names have an ending and that are not skipped. -/
def matching (t : FileTree) (location : List String) (ending : String) : List (List String) :=
  (t.allBelow location).filter fun relative =>
    ending.toList.isSuffixOf (relative.getLastD "").toList && !isSkipped relative

/-- The directories below a directory whose paths are too long to open them.  A directory comes before those inside
it; apart from that, the order in which a file system lists them is not fixed. -/
def tooLongBelow (t : FileTree) (directory : Path) (location : List String) : List Path :=
  let directories := (t.allBelow location).filter fun relative => t.isDirectory (location ++ relative)
  (directories.map directory.below).filter fun p => maxPathSize < p.render.utf8ByteSize

/-- Opens every directory below a directory. -/
def openAll (t : FileTree) (directory : Path) (location : List String) : Except LoadError Unit :=
  match t.tooLongBelow directory location with
  | [] => .ok ()
  | p :: _ => .error (.nameTooLong p)

/-- The sources below a directory in the order of their paths, without those below an excluded path. -/
def sourcesBelow (t : FileTree) (directory : Path) (location : List String) (excluded : List Path) : List Path :=
  let candidates := (t.matching location ".cs").map directory.below
  let kept := candidates.filter fun p => !excluded.any fun e => (t.resolve p).isUnder e
  kept.mergeSort Path.before

/-- The extension of sources, whatever its case.  No character outside ASCII has a lower case in it. -/
def isSourceExtension (extension : String) : Bool :=
  extension.toList.map Char.toLower == ".cs".toList

/-- The location of a path, if something stands there. -/
def locate? (t : FileTree) (path : Path) : Except LoadError (Option (List String)) :=
  match t.locate path with
  | .found location => .ok (some location)
  | .missing => .ok none
  | .tooLong => .error (.nameTooLong path)

/-- The absolute path of a path, which must not hold a null character. -/
def resolve? (t : FileTree) (path : Path) : Except LoadError Path :=
  if path.hasNull then .error .nullCharacter else .ok (t.resolve path)

/-- The sources that one argument stands for: a directory for the sources below it, a source for itself. -/
def sourcesOf (t : FileTree) (excluded : List Path) (argument : String) : Except LoadError (List Path) := do
  let path := Path.ofString argument
  match ← t.locate? path with
  | none => throw (.pathNotFound argument)
  | some location =>
    if t.isDirectory location then
      t.openAll path location
      return t.sourcesBelow path location excluded
    else if isSourceExtension path.extension then return [path]
    else throw (.unsupportedExtension path.extension)

/-- The sources that some arguments stand for, each path once.  The first bad argument decides the error. -/
def discover (t : FileTree) (arguments : List String) (exclude : List Path) : Except LoadError (List Path) := do
  let excluded ← exclude.mapM t.resolve?
  let sources ← arguments.mapM (t.sourcesOf excluded)
  return sources.flatten.eraseDups

/-! ### Projects -/

/-- The ending of project files. -/
def projectEnding : String := ".csproj"

/-- The directories below a directory that hold a project file, in the order of their paths. -/
def projects (t : FileTree) (directory : String) : Except LoadError (List Path) := do
  let path := Path.ofString directory
  match (← t.locate? path).filter t.isDirectory with
  | none => throw (.directoryNotFound directory)
  | some location =>
    t.openAll path location
    let holders := (t.matching location projectEnding).map fun relative => (path.below relative).parent
    return holders.eraseDups.mergeSort Path.before

/-- The projects inside another project. -/
def nestedIn (project : Path) (projects : List Path) : List Path :=
  projects.filter fun other => other != project && other.isUnder project

/-! ### Assembly names -/

/-- The assembly name that a text starts with behind its opening tag. -/
def tagValue? (cs : List Char) : Option (List Char) :=
  let cs := cs.dropWhile Text.isBlank
  let value := cs.takeWhile fun c => c != '<' && !Text.isBlank c
  let rest := (cs.drop value.length).dropWhile Text.isBlank
  if value.isEmpty || !"</AssemblyName>".toList.isPrefixOf rest then none else some value

/-- The first assembly name in a project file. -/
def assemblyTag? : List Char → Option (List Char)
  | [] => none
  | c :: cs => ((Text.afterStart? "<AssemblyName>".toList (c :: cs)).bind tagValue?) <|> assemblyTag? cs

/-- The project files that stand directly in a directory, in the order of their names. -/
def projectFiles (t : FileTree) (directory : Path) : List Path :=
  let direct := (t.allBelow directory.parts).filter fun relative =>
    relative.length == 1 && projectEnding.toList.isSuffixOf (relative.getLastD "").toList
  (if t.isDirectory directory.parts then direct.map directory.below else []).mergeSort Path.before

/-- The bytes of a file. -/
def read (t : FileTree) (path : Path) : Except LoadError ByteArray := do
  match (← t.locate? path).bind t.entry? with
  | some (.file bytes) => return bytes
  | some .directory => throw (.isDirectory path)
  | some .locked => throw (.notPermitted path)
  | none => throw (.pathNotFound path.render)

/-- The assembly name for some arguments: that of the project file next to the first one, else the project file's own
name, else the name of the directory. -/
def assemblyName (t : FileTree) (arguments : List String) : Except LoadError String := do
  match arguments with
  | [] => throw .noPaths
  | first :: _ =>
    let path ← t.resolve? (Path.ofString first)
    let isDirectory := ((← t.locate? path).map t.isDirectory).getD false
    let directory := if isDirectory then path else path.parent
    match t.projectFiles directory with
    | [] => return directory.name
    | project :: _ =>
      let bytes ← t.read project
      match assemblyTag? (Text.decode bytes.data.toList) with
      | some value => return String.ofList value
      | none => return project.stem

end FileTree

end Rollcall
