import Highlighter.Text.Utf8

/-!
# Paths

A path is a list of bytes in which slashes part the names. Names are any other bytes, so a path need
not be text; it is shown with replacement characters where it is none.
-/

namespace Highlighter

/-- A name in a folder. -/
abbrev FileName := Bytes

/-- The place of a file or folder. -/
structure Path where
  bytes : Bytes
  deriving DecidableEq

namespace Path

/-- The byte between names. -/
def slash : UInt8 := 0x2F

/-- The byte before an extension. -/
def dot : UInt8 := 0x2E

/-- The path that a string spells. -/
def ofString (s : String) : Path := ⟨Utf8.ofString s⟩

/-- The path as it is shown. -/
def shown (p : Path) : String := Utf8.toStringLossy p.bytes

/-- The parts between slashes, the empty ones included. -/
def pieces (p : Path) : List Bytes := p.bytes.splitOn slash

/-- The part is empty or a single dot, and so names what is before it. -/
def isHere (piece : Bytes) : Bool := piece.isEmpty || piece == [dot]

/-- The part leads up. -/
def isUp (piece : Bytes) : Bool := piece == [dot, dot]

/-- The path begins at the root. -/
def isAbsolute (p : Path) : Bool := p.bytes.head? == some slash

/-- The last part, without those at the end that name what is before them, unless it leads up. -/
def fileName? (p : Path) : Option FileName :=
  match p.pieces.reverse.dropWhile isHere with
  | name :: _ => if isUp name then none else some name
  | [] => none

/-- What follows the last dot of a name. A name whose only dot comes first has no extension. -/
def extensionOf? (name : FileName) : Option Bytes :=
  let after := (name.reverse.takeWhile (· != dot)).reverse
  let before := name.take (name.length - after.length - 1)
  if name.contains dot && !before.isEmpty then some after else none

/-- The extension of the file name. -/
def extension? (p : Path) : Option Bytes := p.fileName?.bind extensionOf?

/-- Puts slashes between parts. -/
def ofPieces (pieces : List Bytes) : Path := ⟨[slash].intercalate pieces⟩

/-- The path of the folder that the last part is in. The root and the empty path are in none. -/
def parent? (p : Path) : Option Path :=
  match p.pieces.reverse.dropWhile isHere with
  | [] => if p.pieces.head? = some [dot] then some ⟨[]⟩ else none
  | _ :: above =>
    let folder := above.dropWhile isHere
    if !folder.isEmpty then some (ofPieces folder.reverse)
    else
      match above.getLast? with
      | none => some ⟨[]⟩
      | some first => if first.isEmpty then some ⟨[slash]⟩ else some ⟨[dot]⟩

/-- The path of a name in a folder. -/
def join (p : Path) (name : FileName) : Path :=
  if p.bytes.isEmpty || p.bytes.getLast? == some slash then ⟨p.bytes ++ name⟩
  else ⟨p.bytes ++ slash :: name⟩

/-- The path with some bytes behind it. -/
def append (p : Path) (ending : String) : Path := ⟨p.bytes ++ Utf8.ofString ending⟩

end Path
end Highlighter
