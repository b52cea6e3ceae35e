import CommandGrammar.Config.Files
import CommandGrammar.Text.Pieces

/-!
# File trees

A file system in memory. It answers for every path: it follows the path step by step from its root,
and only a directory can be stepped through.
-/

set_option autoImplicit false

namespace CommandGrammar

namespace FileFault

def notDirectory : FileFault := ⟨"Not a directory (os error 20)"⟩

def isDirectory : FileFault := ⟨"Is a directory (os error 21)"⟩

def nameTooLong : FileFault := ⟨"File name too long (os error 36)"⟩

def nulInPath : FileFault := ⟨"file name contained an unexpected NUL byte"⟩

end FileFault

/-- What makes a path name no file, whatever files there are: a null character, or more than 4095
bytes. -/
def pathFault? (path : String) : Option FileFault :=
  if path.toList.contains '\x00' then some .nulInPath
  else if path.utf8ByteSize > 4095 then some .nameTooLong
  else none

/-- Paths from the root, each with the bytes of a file, or with nothing for a directory. The
directories on the way to them are there too. -/
structure FileTree where
  entries : List (List String × Option (List UInt8))
  deriving DecidableEq, Repr

namespace FileTree

def entryAt (t : FileTree) (path : List String) : Option (Option (List UInt8)) :=
  match t.entries.lookup path with
  | some entry => some entry
  | none =>
    if path.isEmpty || t.entries.any fun entry => path.isPrefixOf entry.1 then some none else none

def follow (t : FileTree) : List String → List String → Lookup
  | here, [] =>
    match t.entryAt here with
    | some (some bytes) => .file bytes
    | some none => .unreadable .isDirectory
    | none => .missing .notFound
  | here, step :: rest =>
    match t.entryAt here with
    | some none =>
      if step = "" || step = "." then follow t here rest
      else if step = ".." then follow t here.dropLast rest
      else if step.utf8ByteSize > 255 then .missing .nameTooLong
      else follow t (here ++ [step]) rest
    | some (some _) => .missing .notDirectory
    | none => .missing .notFound

def files (t : FileTree) : Files := fun path =>
  match pathFault? path with
  | some error => .missing error
  | none => t.follow [] ((Text.pieces '/' path.toList).map String.ofList)

end FileTree

end CommandGrammar
