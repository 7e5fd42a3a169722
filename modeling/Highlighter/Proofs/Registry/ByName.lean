import Mathlib.Data.List.Nodup
import Highlighter.Proofs.Language.Ledgers
import Highlighter.Registry.Basic

/-!
# Grammars by name

Registering a grammar makes it the one of its name and leaves the other names alone
(`byName?_register`), as long as each name has a place of its own (`Placed`), which registering keeps
up. Main statement: `highlight_builtin`, the registry of the built-in languages marks the text of a
language with the grammar of that language.
-/

namespace Highlighter

namespace Registry

variable {r : Registry} {name : String}

/-- Every name has a place in the entries, and no two names share one. -/
structure Placed (r : Registry) : Prop where
  inside : ∀ {key place}, r.placeOfName key = some place → place < r.entries.length
  injective : ∀ {key key' place}, r.placeOfName key = some place →
    r.placeOfName key' = some place → key = key'

/-- There is nothing to place in the empty registry. -/
lemma placed_empty : empty.Placed := ⟨nofun, nofun⟩

/-- The grammars of the entries, in order. -/
def grammars (r : Registry) : List Grammar := r.entries.map (·.grammar)

/-- Looking up a name is finding its place and taking the grammar there. -/
lemma byName?_eq :
    r.byName? name = (r.placeOfName (Unicode.lowercase name)).bind (r.grammars[·]?) := by
  simp [byName?, grammars]

/-- The grammars behind a change of one entry, if the change does to its grammar what `k` does. -/
lemma map_grammar_modify {f : Entry → Entry} {k : Grammar → Grammar}
    (h : ∀ e, (f e).grammar = k e.grammar) (entries : List Entry) (place : Nat) :
    (entries.modify place f).map (·.grammar) = (entries.map (·.grammar)).modify place k := by
  induction entries generalizing place with
  | nil => simp
  | cons e entries ih =>
    cases place with
    | zero => simp [h]
    | succ place => simpa using ih place

/-- Claiming an extension leaves the grammars as they are. -/
lemma grammars_claim (place : Nat) (ext : String) :
    (r.claim place ext).grammars = r.grammars := by
  unfold claim
  split
  · rfl
  · split
    · rfl
    · exact (map_grammar_modify (fun _ => rfl) _ _).trans (List.modify_id _ _)

/-- Settling extensions leaves the grammars and the places of names as they are. -/
lemma settle_eq (r : Registry) (place : Nat) (exts : List String) :
    (r.settle place exts).grammars = r.grammars ∧
      (r.settle place exts).placeOfName = r.placeOfName := by
  have hclaims : (exts.foldl (claim place) r).grammars = r.grammars ∧
      (exts.foldl (claim place) r).placeOfName = r.placeOfName := by
    induction exts generalizing r with
    | nil => exact ⟨rfl, rfl⟩
    | cons ext exts ih =>
      obtain ⟨hgrammars, hnames⟩ := ih (r.claim place ext)
      exact ⟨hgrammars.trans (grammars_claim place ext), hnames⟩
  refine ⟨?_, hclaims.2⟩
  rw [← hclaims.1]
  exact (map_grammar_modify (fun _ => rfl) _ _).trans (List.modify_id _ _)

/-- What registering does to the grammars and their names: a known name keeps its place, a new one
comes last. -/
lemma register_eq (r : Registry) (g : Grammar) (exts : List String) :
    (∃ place, r.placeOfName (Unicode.lowercase g.name) = some place ∧
      (r.register g exts).grammars = r.grammars.set place g ∧
      (r.register g exts).placeOfName = r.placeOfName) ∨
    (r.placeOfName (Unicode.lowercase g.name) = none ∧
      (r.register g exts).grammars = r.grammars ++ [g] ∧
      (r.register g exts).placeOfName
        = r.placeOfName.insert (Unicode.lowercase g.name) r.grammars.length) := by
  cases hplace : r.placeOfName (Unicode.lowercase g.name) with
  | some place =>
    have hset : (r.entries.modify place fun e => { e with grammar := g }).map (·.grammar) =
        r.grammars.set place g := by
      rw [List.set_eq_modify]
      exact map_grammar_modify (fun _ => rfl) _ _
    refine .inl ⟨place, rfl, ?_⟩
    simp only [register, hplace, replace]
    -- with or without extensions of its own, the grammar is set before the extensions are
    split
    · rw [(settle_eq _ _ _).1, (settle_eq _ _ _).2]
      exact ⟨hset, rfl⟩
    · rw [(settle_eq _ _ _).1, (settle_eq _ _ _).2]
      exact ⟨hset, rfl⟩
  | none =>
    refine .inr ⟨rfl, ?_⟩
    simp only [register, hplace, append]
    rw [(settle_eq _ _ _).1, (settle_eq _ _ _).2]
    simp [grammars]

/-- There are as many grammars as entries. -/
lemma length_grammars : r.grammars.length = r.entries.length := List.length_map _

/-- Registering keeps each name in a place of its own. -/
lemma Placed.register (h : r.Placed) (g : Grammar) (exts : List String) :
    (r.register g exts).Placed := by
  obtain ⟨place, -, hgrammars, hnames⟩ | ⟨-, hgrammars, hnames⟩ := register_eq r g exts
  · refine ⟨fun hkey => ?_, fun hkey hkey' => ?_⟩
    · rw [← length_grammars, hgrammars, List.length_set, length_grammars]
      rw [hnames] at hkey
      exact h.inside hkey
    · rw [hnames] at hkey hkey'
      exact h.injective hkey hkey'
  · have hlast : ∀ {key place}, r.placeOfName key = some place → place ≠ r.grammars.length := by
      intro key place hkey
      rw [length_grammars]
      exact (h.inside hkey).ne
    refine ⟨fun {key place} hkey => ?_, fun {key key' place} hkey hkey' => ?_⟩
    · rw [← length_grammars, hgrammars, List.length_append, List.length_singleton]
      rw [hnames, PartialMap.insert_apply] at hkey
      split at hkey
      · rw [← Option.some.inj hkey]
        exact Nat.lt_succ_self _
      · rw [length_grammars]
        exact Nat.lt_succ_of_lt (h.inside hkey)
    -- the new place is behind all others, so no old name can share it
    · rw [hnames, PartialMap.insert_apply] at hkey hkey'
      split at hkey <;> split at hkey'
      · rename_i hk hk'
        rw [hk, hk']
      · exact absurd (Option.some.inj hkey).symm (hlast hkey')
      · exact absurd (Option.some.inj hkey').symm (hlast hkey)
      · exact h.injective hkey hkey'

/-- A registered grammar is found by its name, and the other names find what they found
before. -/
theorem byName?_register (h : r.Placed) (g : Grammar) (exts : List String) :
    (r.register g exts).byName? name =
      if Unicode.lowercase name = Unicode.lowercase g.name then some g else r.byName? name := by
  rw [byName?_eq, byName?_eq]
  obtain ⟨place, hplace, hgrammars, hnames⟩ | ⟨hplace, hgrammars, hnames⟩ := register_eq r g exts
  · rw [hgrammars, hnames]
    split
    · rename_i hname
      have hinside := h.inside hplace
      rw [← length_grammars] at hinside
      rw [hname, hplace, Option.bind_some, List.getElem?_set_self hinside]
    · rename_i hname
      -- another name has another place, which the replacement does not touch
      refine Option.bind_congr fun place' hplace' => List.getElem?_set_ne ?_
      rintro rfl
      exact hname (h.injective hplace' hplace)
  · rw [hgrammars, hnames, PartialMap.insert_apply]
    split
    · simp
    · refine Option.bind_congr fun place' hplace' => List.getElem?_append_left ?_
      rw [length_grammars]
      exact h.inside hplace'

end Registry

namespace Language

/-- The grammar of a language has its name. -/
lemma name_grammar (l : Language) : l.grammar.name = l.name := by
  by_cases hl : l = plainText
  · subst hl
    rfl
  · rw [grammar_eq hl]

/-- No two languages have one name in small letters. -/
lemma lowercase_name_injective {l l' : Language}
    (h : Unicode.lowercase l.name = Unicode.lowercase l'.name) : l = l' := by
  have hnodup : (all.map fun l => Unicode.lowercase l.name).Nodup := by decide +kernel
  exact List.inj_on_of_nodup_map hnodup (mem_all l) (mem_all l') h

end Language

namespace Registry

variable {r : Registry}

/-- The registry with some built-in languages added. -/
def registerAll (r : Registry) (languages : List Language) : Registry :=
  languages.foldl (fun r l => r.register l.grammar l.extensions) r

/-- The languages that were added are found, and the others as before. -/
lemma byName?_registerAll (h : r.Placed) (languages : List Language) (l : Language) :
    (r.registerAll languages).byName? l.name =
      if l ∈ languages then some l.grammar else r.byName? l.name := by
  induction languages generalizing r with
  | nil => rfl
  | cons l' languages ih =>
    rw [registerAll, List.foldl_cons, ← registerAll, ih (h.register _ _),
      byName?_register h, Language.name_grammar]
    by_cases hmem : l ∈ languages
    · rw [if_pos hmem, if_pos (List.mem_cons_of_mem _ hmem)]
    · rw [if_neg hmem]
      by_cases heq : l = l'
      · rw [if_pos (by rw [heq]), if_pos (List.mem_cons.mpr (.inl heq)), heq]
      · rw [if_neg (mt Language.lowercase_name_injective heq),
          if_neg fun h => (List.mem_cons.mp h).elim heq hmem]

/-- The built-in registry has all languages added to the empty one. -/
lemma builtin_eq : builtin = empty.registerAll Language.all := by
  simp only [builtin, registerAll, Language.build_builder]

/-- Every language is found in the built-in registry. -/
lemma byName?_builtin (l : Language) : builtin.byName? l.name = some l.grammar := by
  rw [builtin_eq, byName?_registerAll placed_empty, if_pos (Language.mem_all l)]

/-- Only the language that is not highlighted goes by its name. -/
lemma sameIgnoringCase_plainText {l : Language} :
    Ascii.sameIgnoringCase l.name Language.plainText.name = decide (l = .plainText) := by
  cases l <;> decide +kernel

/-- The built-in registry marks the text of a language with the grammar of that language. -/
theorem highlight_builtin {l : Language} (hl : l ≠ .plainText) (text : String) :
    builtin.highlight text l.name = l.grammar.highlight text := by
  rw [highlight, sameIgnoringCase_plainText, decide_eq_false hl, byName?_builtin]
  rfl

/-- Highlighting a text as plain text leaves it as it is. -/
theorem highlight_plainText (r : Registry) (text : String) :
    r.highlight text Language.plainText.name = text := by
  rw [highlight, sameIgnoringCase_plainText]
  rfl

end Registry
end Highlighter
