import Mathlib.Tactic.Lemma
import Mathlib.Data.List.Nodup
import Highlighter.Keyword.Overlay

/-!
# Keyword sets and their keys

Whatever is done to an overlay, the keys of its sets are those that the case rule gives their words, and
no class has two sets (`Overlay.Keyed`). Main statement: `Keyed.foldl_addWords`, such an overlay is made
again by adding the words of its sets, one class after the other.
-/

namespace Highlighter

namespace WordSet

/-- There is no word to map in the empty set. -/
@[simp] lemma map_empty (f : String → String) : map f empty = empty :=
  Std.ExtTreeSet.ext_mem fun w => by simp

/-- Mapping the words of a set goes through adding words. -/
lemma map_insertMany (f : String → String) (ws : WordSet) (words : List String) :
    map f (ws.insertMany words) = (map f ws).insertMany (words.map f) :=
  Std.ExtTreeSet.ext_mem fun w => by
    simp only [mem_map, mem_insertMany, List.mem_map]
    constructor
    · rintro ⟨v, hv | hv, rfl⟩
      · exact .inl ⟨v, hv, rfl⟩
      · exact .inr ⟨v, hv, rfl⟩
    · rintro (⟨v, hv, rfl⟩ | ⟨v, hv, rfl⟩)
      · exact ⟨v, .inl hv, rfl⟩
      · exact ⟨v, .inr hv, rfl⟩

/-- A set is made of the words that it lists. -/
lemma insertMany_empty_toList (ws : WordSet) : empty.insertMany ws.toList = ws :=
  Std.ExtTreeSet.ext_mem fun w => by simp

/-- The mapped words of a set make the mapped set. -/
lemma insertMany_empty_map (f : String → String) (ws : WordSet) :
    empty.insertMany (ws.toList.map f) = map f ws := by
  rw [← map_empty f, ← map_insertMany, insertMany_empty_toList]

end WordSet

/-- The words of a set are looked up under the keys that the case rule gives them. -/
def KeywordSet.Keyed (ignoreCase : Bool) (s : KeywordSet) : Prop :=
  s.keys = s.words.map (lookupKey ignoreCase)

namespace KeywordSet

variable {ignoreCase : Bool} {s : KeywordSet}

/-- A set without words has no keys. -/
lemma keyed_empty (ignoreCase : Bool) (className : String) : (empty className).Keyed ignoreCase :=
  (WordSet.map_empty _).symm

/-- Words that are added come with their keys. -/
lemma Keyed.add (h : s.Keyed ignoreCase) (words : List String) :
    (s.add ignoreCase words).Keyed ignoreCase := by
  rw [Keyed] at h
  rw [Keyed, KeywordSet.add, WordSet.map_insertMany, h]

/-- Adding the words of a set to an empty one makes the set again. -/
lemma Keyed.add_empty (h : s.Keyed ignoreCase) :
    (empty s.className).add ignoreCase s.words.toList = s := by
  rw [Keyed] at h
  rw [KeywordSet.add, empty, WordSet.insertMany_empty_toList, WordSet.insertMany_empty_map, ← h]

/-- A set whose keys are made anew has the keys of its words. -/
lemma keyed_rekey (ignoreCase : Bool) (s : KeywordSet) : (s.rekey ignoreCase).Keyed ignoreCase :=
  rfl

end KeywordSet

namespace Overlay

/-- Every set has the keys of its words, and no class has two sets. -/
structure Keyed (k : Overlay) : Prop where
  keyed : ∀ s ∈ k.sets, s.Keyed k.ignoreCase
  distinct : (k.sets.map (·.className)).Nodup

variable {k : Overlay}

/-- Adding words to a class adds at most the class, behind the others. -/
lemma className_addTo (ignoreCase : Bool) (className : String) (words : List String)
    (sets : List KeywordSet) :
    (addTo ignoreCase className words sets).map (·.className) =
      if className ∈ sets.map (·.className) then sets.map (·.className)
      else sets.map (·.className) ++ [className] := by
  induction sets with
  | nil => rfl
  | cons s sets ih =>
    rw [addTo]
    split
    · rename_i h
      rw [List.map_cons, if_pos (by simp [h])]
      rfl
    · rename_i h
      rw [List.map_cons, ih, List.map_cons]
      simp only [List.mem_cons, Ne.symm h, false_or]
      split <;> rfl

/-- Sets that have the keys of their words still have them when words are added to a class. -/
lemma keyed_addTo {ignoreCase : Bool} {className : String} {words : List String}
    {sets : List KeywordSet} (h : ∀ s ∈ sets, s.Keyed ignoreCase) :
    ∀ s ∈ addTo ignoreCase className words sets, s.Keyed ignoreCase := by
  induction sets with
  | nil =>
    intro s hs
    rw [addTo, List.mem_singleton] at hs
    rw [hs]
    exact (KeywordSet.keyed_empty _ _).add words
  | cons s sets ih =>
    have htail : ∀ s' ∈ sets, s'.Keyed ignoreCase := fun s' hs' => h s' (List.mem_cons_of_mem _ hs')
    rw [addTo]
    split
    · exact List.forall_mem_cons.mpr ⟨(h s List.mem_cons_self).add words, htail⟩
    · exact List.forall_mem_cons.mpr ⟨h s List.mem_cons_self, ih htail⟩

/-- An overlay without sets is keyed. -/
lemma keyed_empty : empty.Keyed := ⟨nofun, List.nodup_nil⟩

/-- Adding words keeps the overlay keyed. -/
lemma Keyed.addWords (h : k.Keyed) (className : String) (words : List String) :
    (k.addWords className words).Keyed where
  keyed := keyed_addTo h.keyed
  distinct := by
    rw [Overlay.addWords, className_addTo]
    split
    · exact h.distinct
    · rename_i hnew
      exact List.Nodup.append h.distinct (List.nodup_singleton _) (by simpa using hnew)

/-- Nothing is left to be keyed once the sets are cleared. -/
lemma keyed_clearSets (k : Overlay) : k.clearSets.Keyed := ⟨nofun, List.nodup_nil⟩

/-- Another case rule makes the keys anew. -/
lemma Keyed.setIgnoreCase (h : k.Keyed) (on : Bool) : (k.setIgnoreCase on).Keyed := by
  unfold Overlay.setIgnoreCase
  split
  · exact h
  · refine ⟨fun s hs => ?_, ?_⟩
    · obtain ⟨s', -, rfl⟩ := List.mem_map.mp hs
      exact KeywordSet.keyed_rekey on s'
    · rw [List.map_map]
      exact h.distinct

/-- Other characters of identifiers leave the keys alone. -/
lemma Keyed.setExtraIdentChars (h : k.Keyed) (chars : String) :
    (k.setExtraIdentChars chars).Keyed :=
  ⟨h.keyed, h.distinct⟩

/-- A new class gets a set behind the others. -/
lemma addTo_of_not_mem {ignoreCase : Bool} {className : String} {words : List String}
    {sets : List KeywordSet} (h : className ∉ sets.map (·.className)) :
    addTo ignoreCase className words sets =
      sets ++ [(KeywordSet.empty className).add ignoreCase words] := by
  induction sets with
  | nil => rfl
  | cons s sets ih =>
    rw [List.map_cons, List.mem_cons, not_or] at h
    rw [addTo, if_neg (Ne.symm h.1), ih h.2, List.cons_append]

/-- Adding the words of one class after the other makes the overlay again. -/
lemma Keyed.foldl_addWords (h : k.Keyed) :
    k.sets.foldl (fun k' s => k'.addWords s.className s.words.toList)
      ⟨[], k.ignoreCase, k.extraIdentChars⟩ = k := by
  obtain ⟨sets, ignoreCase, chars⟩ := k
  obtain ⟨hkeyed, hdistinct⟩ := h
  simp only at *
  -- induction on the sets that are still to be added, behind those that are `done`
  suffices hfold : ∀ done, ((done ++ sets).map (·.className)).Nodup →
      sets.foldl (fun k s => Overlay.addWords k s.className s.words.toList)
          ⟨done, ignoreCase, chars⟩ = ⟨done ++ sets, ignoreCase, chars⟩ from hfold [] hdistinct
  clear hdistinct
  induction sets with
  | nil => intro done _; rw [List.foldl_nil, List.append_nil]
  | cons s sets ih =>
    intro done hdone
    have hnew : s.className ∉ done.map (·.className) := by
      rw [List.map_append, List.nodup_append] at hdone
      intro hmem
      exact hdone.2.2 _ hmem _ List.mem_cons_self rfl
    rw [List.foldl_cons, Overlay.addWords, addTo_of_not_mem hnew,
      (hkeyed s List.mem_cons_self).add_empty,
      ih (fun s' hs' => hkeyed s' (List.mem_cons_of_mem _ hs')) _ (by simpa using hdone)]
    simp

end Overlay
end Highlighter
