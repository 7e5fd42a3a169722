import Highlighter.Keyword.WordSet
import Highlighter.Markup
import Highlighter.Unicode.Classes
import Highlighter.Unicode.Lowercase

/-!
# The keyword overlay

Plain text is cut into identifier runs, as long as they can be, and other characters. A run that
is a keyword is wrapped in a span of its class; the first set that knows the word, in the order of
declaration, gives the class. Runs do not overlap, so a word is wrapped once, and never as a part
of a longer identifier.
-/

namespace Highlighter

/-- Words that share a class. `words` keeps them as they were spelled, `keys` as they are looked
up. -/
structure KeywordSet where
  className : String
  words : WordSet
  keys : WordSet
  deriving DecidableEq

/-- The form under which a word is looked up. -/
def lookupKey (ignoreCase : Bool) (word : String) : String :=
  if ignoreCase then Unicode.lowercase word else word

namespace KeywordSet

/-- The set of a class, still without words. -/
def empty (className : String) : KeywordSet := ⟨className, .empty, .empty⟩

/-- The set with some more words. -/
def add (ignoreCase : Bool) (words : List String) (s : KeywordSet) : KeywordSet :=
  { s with
    words := s.words.insertMany words
    keys := s.keys.insertMany (words.map (lookupKey ignoreCase)) }

/-- The set with the keys that its words have under the given case rule. -/
def rekey (ignoreCase : Bool) (s : KeywordSet) : KeywordSet :=
  { s with keys := s.words.map (lookupKey ignoreCase) }

end KeywordSet

/-- The keyword sets of a grammar, in order of declaration, and what counts as an identifier. -/
structure Overlay where
  sets : List KeywordSet
  ignoreCase : Bool
  extraIdentChars : String
  deriving DecidableEq

namespace Overlay

/-- The overlay that marks nothing. -/
def empty : Overlay := ⟨[], false, ""⟩

instance : Inhabited Overlay := ⟨empty⟩

/-- The number of words over all sets, as spelled. -/
def wordCount (k : Overlay) : Nat := k.sets.foldl (fun n s => n + s.words.size) 0

/-- Adds words to the set of a class, which is put behind the others if there is none yet. -/
def addTo (ignoreCase : Bool) (className : String) (words : List String) :
    List KeywordSet → List KeywordSet
  | [] => [(KeywordSet.empty className).add ignoreCase words]
  | s :: sets =>
    if s.className = className then s.add ignoreCase words :: sets
    else s :: addTo ignoreCase className words sets

/-- The overlay with words added to a class. -/
def addWords (k : Overlay) (className : String) (words : List String) : Overlay :=
  { k with sets := addTo k.ignoreCase className words k.sets }

/-- The overlay without keyword sets. -/
def clearSets (k : Overlay) : Overlay := { k with sets := [] }

/-- The overlay with its case rule set. The keys of all words are made anew when the rule
changes. -/
def setIgnoreCase (k : Overlay) (on : Bool) : Overlay :=
  if on = k.ignoreCase then k
  else { k with ignoreCase := on, sets := k.sets.map (·.rekey on) }

/-- The overlay with other extra identifier characters. -/
def setExtraIdentChars (k : Overlay) (chars : String) : Overlay :=
  { k with extraIdentChars := chars }

/-- Letters and digits of every script, the underscore and the extra characters make up
identifiers. -/
def isIdentChar (k : Overlay) (c : Char) : Bool :=
  Unicode.isAlphanumeric c || c == '_' || k.extraIdentChars.toList.contains c

/-- The class of the first set that knows the word. -/
def classify (k : Overlay) (word : String) : Option String :=
  let key := lookupKey k.ignoreCase word
  (k.sets.find? fun s => decide (key ∈ s.keys)).map (·.className)

/-- A run of identifier characters as it is written. -/
def markWord (k : Overlay) (word : List Char) : List Char :=
  match k.classify (String.ofList word) with
  | some className => Span.wrap className word
  | none => word

/-- Writes the run at hand, if there is one, behind `done`. Both are newest first. -/
def closeRun (k : Overlay) (done run : List Char) : List Char :=
  if run.isEmpty then done else (k.markWord run.reverse).reverse ++ done

/-- Goes on marking: `done` is what was written so far and `run` the identifier characters just
before the text, both newest first. -/
def markFrom (k : Overlay) (done run : List Char) : List Char → List Char
  | [] => (k.closeRun done run).reverse
  | c :: rest =>
    if k.isIdentChar c then markFrom k done (c :: run) rest
    else markFrom k (c :: k.closeRun done run) [] rest

/-- The text with every known word wrapped. Without keyword sets there is nothing to look for. -/
def mark (k : Overlay) (text : List Char) : List Char :=
  if k.sets.isEmpty then text else k.markFrom [] [] text

end Overlay
end Highlighter
