import Rollcall.Archive
import Rollcall.Standard
import Rollcall.Syntax.Reader

/-!
# The command line

The program takes the files of the working directory as a tape archive from its standard input:

    tar -cf - . | rollcall check MyApp
-/

namespace Rollcall

/-- Reads a stream to its end. -/
partial def readAll (input : IO.FS.Stream) (before : ByteArray) : IO ByteArray := do
  let bytes ← input.read 65536
  if bytes.isEmpty then return before else readAll input (before ++ bytes)

/-- The files of the working directory. -/
def readTree : IO FileTree := do
  let directory := Path.ofString ((← IO.getEnv "PWD").getD "/")
  return Archive.read directory.parts (← readAll (← IO.getStdin) ByteArray.empty)

/-- The variables that set up the program. -/
def readEnvironment : IO Environment := do
  return ⟨← IO.getEnv Environment.logLevelVariable, ← IO.getEnv Environment.maxWorkersVariable⟩

/-- Carries out a command line and prints what it says.  One that names no command needs no files. -/
def runWords (words : List String) : IO UInt32 := do
  let toolkit := Toolkit.standard fun _ faults => Fault.report faults
  let tree ← match toolkit.readOpening words with
    | .ok _ => readTree
    | .error _ => pure (FileTree.empty [])
  let outcome := (Surroundings.mk tree Reader.read (← readEnvironment) toolkit).execute words
  outcome.output.forM IO.println
  outcome.notice.forM IO.eprintln
  return outcome.exitCode.toUInt32

end Rollcall

def main (words : List String) : IO UInt32 :=
  Rollcall.runWords words
