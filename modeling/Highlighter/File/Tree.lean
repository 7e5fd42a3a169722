import Highlighter.File.Path

/-!
# Trees of files

Files and folders as a value, what is found and put under lists of names in them, and the errors
that this ends in.
-/

namespace Highlighter

/-- Why an operation on files failed. -/
inductive FileError where
  | notFound
  | alreadyExists
  | notFolder
  | isFolder
  | notText
  | nameTooLong
  | nulInName
  /-- Anything else, in the words of the system. -/
  | other (message : String)
  deriving DecidableEq

/-- The words for an error. -/
def FileError.message : FileError → String
  | notFound => "No such file or directory (os error 2)"
  | alreadyExists => "File exists (os error 17)"
  | notFolder => "Not a directory (os error 20)"
  | isFolder => "Is a directory (os error 21)"
  | notText => "stream did not contain valid UTF-8"
  | nameTooLong => "File name too long (os error 36)"
  | nulInName => "file name contained an unexpected NUL byte"
  | other message => message

/-- A file with its content, or a folder with its entries. -/
inductive FileTree where
  | file (content : Bytes)
  | folder (entries : List (FileName × FileTree))

namespace FileTree

/-- The folder without entries. -/
def empty : FileTree := folder []

instance : Inhabited FileTree := ⟨empty⟩

/-- It is a folder. -/
def isFolder : FileTree → Bool
  | folder _ => true
  | file _ => false

/-- How many bytes a name may have. -/
def longestName : Nat := 255

/-- What is found under a name. -/
def entry (entries : List (FileName × FileTree)) (name : FileName) : Except FileError FileTree :=
  if longestName < name.length then .error .nameTooLong
  else
    match entries.lookup name with
    | some t => .ok t
    | none => .error .notFound

/-- What is found under a list of names. -/
def find : List FileName → FileTree → Except FileError FileTree
  | [], t => .ok t
  | _ :: _, file _ => .error .notFolder
  | name :: names, folder entries => do find names (← entry entries name)

/-- The entries with the one of a name set. -/
def setEntry (entries : List (FileName × FileTree)) (name : FileName) (t : FileTree) :
    List (FileName × FileTree) :=
  if entries.any (·.1 == name) then entries.map fun e => if e.1 == name then (name, t) else e
  else entries ++ [(name, t)]

/-- The names that the parts of a path stand for, from the folder with the names `above`, the last
one first. A part that names what is before it, or leads up from it, needs a folder there; the
root is above itself. -/
def resolve (t : FileTree) : (above : List FileName) → List Bytes → Except FileError (List FileName)
  | above, [] => .ok above.reverse
  | above, piece :: pieces =>
    if Path.isHere piece || Path.isUp piece then
      match t.find above.reverse with
      | .error e => .error e
      | .ok (file _) => .error .notFolder
      | .ok (folder _) => t.resolve (if Path.isUp piece then above.tail else above) pieces
    else t.resolve (piece :: above) pieces

/-- The tree with something new at the end of a list of names; what leads there has to be there. -/
def place (new : FileTree) : List FileName → FileTree → Except FileError FileTree
  | [], _ => .ok new
  | _ :: _, file _ => .error .notFolder
  | [name], folder entries =>
    if longestName < name.length then .error .nameTooLong
    else .ok (folder (setEntry entries name new))
  | name :: names, folder entries => do
    return folder (setEntry entries name (← place new names (← entry entries name)))

/-- The tree with a file at the end of a list of names, where there may be another file before. -/
def put (t : FileTree) (names : List FileName) (content : Bytes) : Except FileError FileTree :=
  match t.find names with
  | .ok (folder _) => .error .isFolder
  | .ok (file _) | .error .notFound => place (file content) names t
  | .error e => .error e

/-- The tree with folders along the parts of a path, from the folder with the names `above`. A
file in the way is a wrong folder to go into, but behind a folder that is new it is a folder that
exists already. -/
def makeAlong (t : FileTree) (new : Bool) (above : List FileName) :
    List Bytes → Except FileError FileTree
  | [] => .ok t
  | piece :: pieces =>
    if Path.isUp piece then t.makeAlong new above.tail pieces
    else
      let names := (piece :: above).reverse
      match t.find names with
      | .ok (folder _) => t.makeAlong new (piece :: above) pieces
      | .ok (file _) => .error (if new || pieces.isEmpty then .alreadyExists else .notFolder)
      | .error .notFound => do
        let t ← place empty names t
        t.makeAlong true (piece :: above) pieces
      | .error e => .error e

mutual

/-- Every file of the tree, with the path to it from `root`. -/
def files (root : Path) : FileTree → List (Path × Bytes)
  | file content => [(root, content)]
  | folder entries => filesIn root entries

/-- Every file of some entries. -/
def filesIn (root : Path) : List (FileName × FileTree) → List (Path × Bytes)
  | [] => []
  | entry :: entries => filesAt root entry ++ filesIn root entries

/-- Every file of one entry. -/
def filesAt (root : Path) : FileName × FileTree → List (Path × Bytes)
  | (name, t) => files (root.join name) t

end

end FileTree
end Highlighter
