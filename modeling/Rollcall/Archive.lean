import Rollcall.FileTree
import Rollcall.Text.Utf8

/-!
# Archives

A file tree can be read from a tape archive.  An archive is a row of blocks of 512 bytes: every entry has a header block
and as many blocks as its contents need, and a block of zeros ends the archive.  Directories and files are taken,
all else is passed over.  A name that does not fit a header comes as the contents of an entry before it.
-/

namespace Rollcall.Archive

/-- The size of a block. -/
def blockSize : Nat := 512

/-- The part of an archive from `start` on that is `length` bytes long. -/
def slice (archive : ByteArray) (start length : Nat) : ByteArray :=
  archive.extract start (start + length)

/-- The text of a field, which a zero byte ends. -/
def fieldText (archive : ByteArray) (start length : Nat) : String :=
  String.ofList (Text.decode ((slice archive start length).data.toList.takeWhile (· != 0)))

/-- The number in a field, written in octal digits. -/
def fieldNumber (archive : ByteArray) (start length : Nat) : Nat :=
  (fieldText archive start length).toList.foldl
    (fun n c => if '0' ≤ c && c ≤ '7' then 8 * n + (c.toNat - '0'.toNat) else n) 0

/-- The header of an entry. -/
structure Header where
  name : String
  size : Nat
  kind : UInt8

/-- Reads the header that starts at some byte. -/
def header (archive : ByteArray) (start : Nat) : Header :=
  let front := fieldText archive (start + 345) 155
  let name := fieldText archive start 100
  { name := if front = "" then name else front ++ "/" ++ name
    size := fieldNumber archive (start + 124) 12
    kind := ((slice archive (start + 156) 1).data.toList.head?).getD 0 }

/-- The number of bytes in the blocks of some contents. -/
def paddedSize (size : Nat) : Nat :=
  (size + blockSize - 1) / blockSize * blockSize

/-- Adds the entries from `start` on to a tree.  The next entry has the name `given`, if there is one. -/
def readFrom (archive : ByteArray) (tree : FileTree) (given : Option String) (start : Nat) : FileTree :=
  if start + blockSize ≤ archive.size then
    let h := header archive start
    let contents := slice archive (start + blockSize) h.size
    let next := start + blockSize + paddedSize h.size
    let path := Path.ofString (given.getD h.name)
    if h.name = "" then tree
    else if h.kind = 'L'.toUInt8 then
      readFrom archive tree (some (fieldText archive (start + blockSize) h.size)) next
    else if h.kind = '5'.toUInt8 then readFrom archive (tree.insert path .directory) none next
    else if h.kind = '0'.toUInt8 || h.kind = 0 then readFrom archive (tree.insert path (.file contents)) none next
    else readFrom archive tree given next
  else tree
termination_by archive.size - start
decreasing_by all_goals simp only [blockSize] at *; omega

/-- The file tree that an archive holds, below a working directory. -/
def read (workingDirectory : List String) (archive : ByteArray) : FileTree :=
  readFrom archive (FileTree.empty workingDirectory) none 0

end Rollcall.Archive
