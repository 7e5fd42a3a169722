import Highlighter.File.Tree

/-!
# File systems

A tree of files and the folder in it that programs work in: a path begins there, unless it begins
at the root. These are the operations that the programs need.
-/

namespace Highlighter

/-- A tree of files, and the names of the working folder. -/
structure FileSystem where
  tree : FileTree
  workingFolder : List FileName

namespace FileSystem

/-- The file system in which there is nothing but the working folder. -/
def inFolder (names : List FileName) : FileSystem :=
  ⟨names.foldr (fun name t => .folder [(name, t)]) .empty, names⟩

/-- How many bytes a path may have. -/
def longestPath : Nat := 4095

/-- Why no operation accepts a path, if there is a reason. -/
def refusal? (p : Path) : Option FileError :=
  if p.bytes.contains 0 then some .nulInName
  else if longestPath < p.bytes.length then some .nameTooLong
  else none

/-- The names of the folder that a path begins in, the last one first. -/
def origin (s : FileSystem) (p : Path) : List FileName :=
  if p.isAbsolute then [] else s.workingFolder.reverse

/-- The names that a path stands for. The empty path stands for nothing. -/
def names (s : FileSystem) (p : Path) : Except FileError (List FileName) :=
  match refusal? p with
  | some e => .error e
  | none => if p.bytes.isEmpty then .error .notFound else s.tree.resolve (s.origin p) p.pieces

/-- What is found at a path. -/
def at? (s : FileSystem) (p : Path) : Except FileError FileTree := do s.tree.find (← s.names p)

/-- The content of the file at a path. -/
def contentAt (s : FileSystem) (p : Path) : Except FileError Bytes := do
  match ← s.at? p with
  | .file content => .ok content
  | .folder _ => .error .isFolder

/-- The names in the folder at a path. -/
def list (s : FileSystem) (p : Path) : Except FileError (List FileName) := do
  match ← s.at? p with
  | .file _ => .error .notFolder
  | .folder entries => .ok (entries.map (·.1))

/-- There is a file at the path. -/
def isFileAt (s : FileSystem) (p : Path) : Bool :=
  match s.at? p with
  | .ok (.file _) => true
  | _ => false

/-- There is something at the path. -/
def isPresent (s : FileSystem) (p : Path) : Bool :=
  match s.at? p with
  | .ok _ => true
  | .error _ => false

/-- The file system with a file at a path. A path with a slash at its end is for a folder, even if
there is none. -/
def store (s : FileSystem) (p : Path) (content : Bytes) : Except FileError FileSystem :=
  if p.bytes.getLast? == some Path.slash && (refusal? p).isNone then do
    let above := (p.pieces.reverse.dropWhile (·.isEmpty)).tail.reverse
    let _ ← s.tree.resolve (s.origin p) (above ++ [[]])
    .error .isFolder
  else do return { s with tree := ← s.tree.put (← s.names p) content }

/-- The file system with folders all along a path. -/
def makeFolders (s : FileSystem) (p : Path) : Except FileError FileSystem :=
  match refusal? p with
  | some e => .error e
  | none => do
    let pieces := p.pieces.filter fun piece => !Path.isHere piece
    return { s with tree := ← s.tree.makeAlong false (s.origin p) pieces }

/-- Every file below the working folder, with the path to it. -/
def files (s : FileSystem) : List (Path × Bytes) :=
  match s.tree.find s.workingFolder with
  | .ok t => t.files ⟨[]⟩
  | .error _ => []

end FileSystem
end Highlighter
