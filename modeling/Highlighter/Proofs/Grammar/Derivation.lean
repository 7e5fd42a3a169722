import Highlighter.Grammar.Builder
import Highlighter.Proofs.Grammar.Ledger

/-!
# Derivation and ledgers

A grammar that derives from another one repeats its calls under a new name and adds some of its own.
The name and the words have no part in a ledger: calls that only mark words
(`Call.marks`) keep every ledger that was kept before (`Kept.foldl_apply`), so the tables have to be
checked once for all languages that share them.
-/

namespace Highlighter

/-- The call only changes which words are marked, and adds no class but allowed ones. -/
def Call.marks (allowed : String → Bool) : Call → Bool
  | .keywords className _ => allowed className
  | .clearKeywords | .ignoreCase _ | .identChars _ => true
  | _ => false

namespace Grammar

/-- A call does the same under another name. -/
lemma apply_withName (g : Grammar) (name : String) (c : Call) :
    ({ g with name := name } : Grammar).apply c = { g.apply c with name := name } := by
  cases c <;> rfl

/-- Calls do the same under another name. -/
lemma foldl_withName (g : Grammar) (name : String) (calls : List Call) :
    calls.foldl apply { g with name := name } = { calls.foldl apply g with name := name } := by
  induction calls generalizing g with
  | nil => rfl
  | cons c calls ih =>
    rw [List.foldl_cons, apply_withName, ih]
    rfl

/-- Calls that only mark words change the overlay alone. -/
lemma foldl_marks (g : Grammar) {allowed : String → Bool} {calls : List Call}
    (h : calls.all (Call.marks allowed)) :
    calls.foldl apply g = { g with keywords := (calls.foldl apply g).keywords } := by
  induction calls generalizing g with
  | nil => rfl
  | cons c calls ih =>
    rw [List.all_cons, Bool.and_eq_true] at h
    have hcall : g.apply c = { g with keywords := (g.apply c).keywords } := by
      cases c with
      | keywords | clearKeywords | ignoreCase | identChars => rfl
      | _ => exact absurd h.1 (by simp [Call.marks])
    rw [List.foldl_cons, ih _ h.2, hcall]

end Grammar

namespace Overlay

/-- Adding words to a class brings no other class. -/
lemma className_of_mem_addTo {ignoreCase : Bool} {className : String} {words : List String}
    {sets : List KeywordSet} {s : KeywordSet} (h : s ∈ addTo ignoreCase className words sets) :
    s.className = className ∨ ∃ s' ∈ sets, s'.className = s.className := by
  induction sets with
  | nil =>
    rw [addTo, List.mem_singleton] at h
    exact .inl (by rw [h]; rfl)
  | cons s' sets ih =>
    rw [addTo] at h
    split at h
    · rcases List.mem_cons.mp h with rfl | h
      · exact .inr ⟨s', List.mem_cons_self, rfl⟩
      · exact .inr ⟨s, List.mem_cons_of_mem _ h, rfl⟩
    · rcases List.mem_cons.mp h with rfl | h
      · exact .inr ⟨s, List.mem_cons_self, rfl⟩
      · obtain hs | ⟨s'', hmem, hs⟩ := ih h
        · exact .inl hs
        · exact .inr ⟨s'', List.mem_cons_of_mem _ hmem, hs⟩

/-- The case rule brings no class. -/
lemma className_of_mem_setIgnoreCase {k : Overlay} {on : Bool} {s : KeywordSet}
    (h : s ∈ (k.setIgnoreCase on).sets) : ∃ s' ∈ k.sets, s'.className = s.className := by
  unfold setIgnoreCase at h
  split at h
  · exact ⟨s, h, rfl⟩
  · obtain ⟨s', hmem, rfl⟩ := List.mem_map.mp h
    exact ⟨s', hmem, rfl⟩

end Overlay

namespace Ledger

variable {l : Ledger} {g : Grammar}

/-- The name and the overlay can be exchanged, as long as its classes may open. -/
lemma Kept.withOverlay (h : l.Kept g) (name : String) {k : Overlay}
    (hk : ∀ set ∈ k.sets, l.allows [] set.className) :
    l.Kept { g with name := name, keywords := k } where
  classes := hk
  initial := h.initial
  held_initial := h.held_initial
  spans_initial := h.spans_initial
  explicit := h.explicit
  wildcard := h.wildcard
  finishes := h.finishes

/-- A call that only marks words of allowed classes leaves the ledger kept. -/
lemma Kept.apply (h : l.Kept g) {c : Call} (hc : c.marks (l.allows [])) : l.Kept (g.apply c) := by
  cases c with
  | keywords className words =>
    refine h.withOverlay g.name fun set hset => ?_
    obtain heq | ⟨set', hmem, heq⟩ := Overlay.className_of_mem_addTo hset
    · rw [heq]
      exact hc
    · rw [← heq]
      exact h.classes set' hmem
  | clearKeywords => exact h.withOverlay g.name nofun
  | ignoreCase on =>
    refine h.withOverlay g.name fun set hset => ?_
    obtain ⟨set', hmem, heq⟩ := Overlay.className_of_mem_setIgnoreCase hset
    rw [← heq]
    exact h.classes set' hmem
  | identChars chars => exact h.withOverlay g.name h.classes
  | _ => exact absurd hc (by simp [Call.marks])

/-- Calls that only mark words keep the ledger. -/
lemma Kept.foldl_apply (h : l.Kept g) {calls : List Call}
    (hcalls : calls.all (Call.marks (l.allows []))) : l.Kept (calls.foldl Grammar.apply g) := by
  induction calls generalizing g with
  | nil => exact h
  | cons c calls ih =>
    rw [List.all_cons, Bool.and_eq_true] at hcalls
    exact ih (h.apply hcalls.1) hcalls.2

end Ledger
end Highlighter
