import Highlighter.PartialMap
import Highlighter.File.Path
import Highlighter.Language.Basic
import Highlighter.Scan
import Highlighter.Text.Basic

/-!
# The registry of grammars

Grammars in the order of registration, found by name and by file extension, both without regard to
case. A grammar replaces the one of the same name, and an extension belongs to the grammar that
asked for it last.
-/

namespace Highlighter

/-- A registered grammar and the extensions that belong to it. -/
structure Registry.Entry where
  grammar : Grammar
  extensions : List String
  deriving DecidableEq

/-- Grammars in order, with the places at which names and extensions are found. -/
structure Registry where
  entries : List Registry.Entry
  placeOfName : PartialMap String Nat
  placeOfExtension : PartialMap String Nat

namespace Registry

/-- The registry without grammars. -/
def empty : Registry := ⟨[], .empty, .empty⟩

/-- The form in which extensions are compared: small letters, without dots in front. -/
def normalExtension (ext : String) : String :=
  Unicode.lowercase (String.ofList (ext.toList.dropWhile (· == '.')))

/-- Gives an extension to the entry at a place and takes it from the one that had it. -/
def claim (place : Nat) (r : Registry) (ext : String) : Registry :=
  { r with
    placeOfExtension := r.placeOfExtension.insert ext place
    entries :=
      match r.placeOfExtension ext with
      | none => r.entries
      | some owner =>
        if owner = place then r.entries
        else
          r.entries.modify owner fun e =>
            { e with extensions := e.extensions.filter (· != ext) } }

/-- Gives extensions to the entry at a place, which has no others then. -/
def settle (r : Registry) (place : Nat) (exts : List String) : Registry :=
  let r := exts.foldl (claim place) r
  { r with entries := r.entries.modify place fun e => { e with extensions := exts } }

/-- Puts a new entry behind the others. -/
def append (r : Registry) (key : String) (g : Grammar) (exts : List String) : Registry :=
  let place := r.entries.length
  settle
    { r with
      entries := r.entries ++ [⟨g, []⟩]
      placeOfName := r.placeOfName.insert key place }
    place exts

/-- Puts a grammar in the place of another one. It keeps the extensions unless it brings its own. -/
def replace (r : Registry) (place : Nat) (g : Grammar) (exts : List String) : Registry :=
  let old := ((r.entries[place]?).map (·.extensions)).getD []
  let entries := r.entries.modify place fun e => { e with grammar := g }
  if exts.isEmpty then settle { r with entries := entries } place old
  else
    let dropped := old.filter fun e => r.placeOfExtension e = some place
    settle
      { r with entries := entries, placeOfExtension := r.placeOfExtension.eraseAll dropped }
      place exts

/-- Adds a grammar with some extensions. -/
def register (r : Registry) (g : Grammar) (extensions : List String) : Registry :=
  let key := Unicode.lowercase g.name
  let exts := extensions.map normalExtension
  match r.placeOfName key with
  | some place => r.replace place g exts
  | none => r.append key g exts

/-- The registry of the built-in languages. A grammar that is refused is left out. -/
def builtin : Registry :=
  Language.all.foldl
    (fun r l =>
      match l.builder.build with
      | .ok g => r.register g l.extensions
      | .error _ => r)
    empty

/-- The grammar of a name. -/
def byName? (r : Registry) (name : String) : Option Grammar :=
  (r.placeOfName (Unicode.lowercase name)).bind fun place =>
    (r.entries[place]?).map (·.grammar)

/-- The grammar of an extension. -/
def forExtension? (r : Registry) (ext : String) : Option Grammar :=
  (r.placeOfExtension (normalExtension ext)).bind fun place =>
    (r.entries[place]?).map (·.grammar)

/-- The grammar of the extension of a path. -/
def forPath? (r : Registry) (p : Path) : Option Grammar :=
  (p.extension?.bind Utf8.toString?).bind r.forExtension?

/-- The names of the grammars, in order. -/
def names (r : Registry) : List String := r.entries.map (·.grammar.name)

/-- The number of grammars. -/
def size (r : Registry) : Nat := r.entries.length

/-- The text with the markup of a language. Plain text, and the text of a language without a
grammar, is left as it is. -/
def highlight (r : Registry) (text language : String) : String :=
  if Ascii.sameIgnoringCase language Language.plainText.name then text
  else
    match r.byName? language with
    | some g => g.highlight text
    | none => text

/-- What the catalog says about a grammar. -/
structure Summary where
  name : String
  extensions : List String
  ignoreCase : Bool
  states : Nat
  keywords : Nat
  deriving DecidableEq

/-- The summary of an entry. -/
def Entry.summary (e : Entry) : Summary where
  name := e.grammar.name
  extensions := e.extensions
  ignoreCase := e.grammar.keywords.ignoreCase
  states := e.grammar.reachable.length
  keywords := e.grammar.keywords.wordCount

/-- The summaries of the grammars, in order. -/
def catalog (r : Registry) : List Summary := r.entries.map (·.summary)

end Registry
end Highlighter
