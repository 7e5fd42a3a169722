import Std.Data.ExtTreeSet

/-!
# Sets of words

A finite set of words in the order of code points. Sets with the same words are the same set,
whatever the order in which the words came. Main statements: what `insertMany`, `ofList` and `map`
hold.
-/

namespace Highlighter

/-- A set of words. -/
abbrev WordSet := Std.ExtTreeSet String

namespace WordSet

/-- The set without words. -/
def empty : WordSet := ∅

/-- The set of the words of a list. -/
def ofList (words : List String) : WordSet := Std.ExtTreeSet.ofList words

/-- The images of the words of a set. -/
def map (f : String → String) (ws : WordSet) : WordSet := ofList (ws.toList.map f)

/-- The empty set has no word. -/
@[simp] theorem not_mem_empty {v : String} : v ∉ empty := by simp [empty]

/-- A set has the words that were added and those that were there. -/
theorem mem_insertMany {v : String} {ws : WordSet} {words : List String} :
    v ∈ ws.insertMany words ↔ v ∈ ws ∨ v ∈ words := by
  simp [Std.ExtTreeSet.mem_insertMany_list]

/-- The set of a list has its words. -/
@[simp] theorem mem_ofList {v : String} {words : List String} : v ∈ ofList words ↔ v ∈ words := by
  simp [ofList, Std.ExtTreeSet.mem_ofList]

/-- A mapped set has the images of the words. -/
@[simp] theorem mem_map {v : String} {f : String → String} {ws : WordSet} :
    v ∈ ws.map f ↔ ∃ w ∈ ws, f w = v := by
  simp [map]

/-- Listing the words of a set and collecting them again changes nothing. -/
@[simp] theorem ofList_toList (ws : WordSet) : ofList ws.toList = ws :=
  Std.ExtTreeSet.ext_mem fun w => by simp

end WordSet
end Highlighter
