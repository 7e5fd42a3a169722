import Mathlib.Tactic.Lemma
import Highlighter.Language.Basic

/-!
# Where words come from

The words of a grammar, as they are spelled, are words of the calls that made it. So a property of all
words that the calls bring is one of all words of the grammar (`Language.everyWord_grammar`).
-/

namespace Highlighter

/-- The words that a call brings. -/
def Call.words : Call → List String
  | .keywords _ words => words
  | _ => []

/-- Every word of the overlay, as it is spelled, has a property. -/
def Overlay.EveryWord (k : Overlay) (P : String → Prop) : Prop := ∀ s ∈ k.sets, ∀ w ∈ s.words, P w

variable {P : String → Prop}

namespace Overlay

/-- Words that have the property may be added to a class. -/
lemma everyWord_addTo {ignoreCase : Bool} {className : String} {words : List String}
    {sets : List KeywordSet} (h : ∀ s ∈ sets, ∀ w ∈ s.words, P w) (hwords : ∀ w ∈ words, P w) :
    ∀ s ∈ addTo ignoreCase className words sets, ∀ w ∈ s.words, P w := by
  induction sets with
  | nil =>
    intro s hs w hw
    rw [addTo, List.mem_singleton] at hs
    rw [hs, KeywordSet.add, WordSet.mem_insertMany] at hw
    exact hw.elim (fun hw => absurd hw WordSet.not_mem_empty) (hwords w)
  | cons s sets ih =>
    obtain ⟨hs, hsets⟩ := List.forall_mem_cons.mp h
    rw [addTo]
    split
    · refine List.forall_mem_cons.mpr ⟨fun w hw => ?_, hsets⟩
      rw [KeywordSet.add, WordSet.mem_insertMany] at hw
      exact hw.elim (hs w) (hwords w)
    · exact List.forall_mem_cons.mpr ⟨hs, ih hsets⟩

/-- The case rule changes the spelling of no word. -/
lemma EveryWord.setIgnoreCase {k : Overlay} (h : k.EveryWord P) (on : Bool) :
    (k.setIgnoreCase on).EveryWord P := by
  unfold Overlay.setIgnoreCase
  split
  · exact h
  · intro s hs
    obtain ⟨s', hs', rfl⟩ := List.mem_map.mp hs
    exact h s' hs'

end Overlay

namespace Grammar

variable {g : Grammar}

/-- A call brings no words but its own. -/
lemma everyWord_apply (h : g.keywords.EveryWord P) {c : Call} (hc : ∀ w ∈ c.words, P w) :
    (g.apply c).keywords.EveryWord P := by
  cases c with
  | keywords className words => exact Overlay.everyWord_addTo h hc
  | clearKeywords => exact nofun
  | ignoreCase on => exact h.setIgnoreCase on
  | _ => exact h

/-- Calls bring no words but their own. -/
lemma everyWord_foldl_apply (h : g.keywords.EveryWord P) {calls : List Call}
    (hcalls : ∀ c ∈ calls, ∀ w ∈ c.words, P w) :
    (calls.foldl apply g).keywords.EveryWord P := by
  induction calls generalizing g with
  | nil => exact h
  | cons c calls ih =>
    obtain ⟨hc, hcalls⟩ := List.forall_mem_cons.mp hcalls
    exact ih (everyWord_apply h hc) hcalls

end Grammar

/-- What all words of a recipe have in common, all words of the language have. -/
lemma Language.everyWord_grammar {l : Language} (h : ∀ c ∈ l.recipe, ∀ w ∈ c.words, P w) :
    l.grammar.keywords.EveryWord P := by
  refine Grammar.everyWord_foldl_apply ?_ h
  cases l <;> exact nofun

end Highlighter
