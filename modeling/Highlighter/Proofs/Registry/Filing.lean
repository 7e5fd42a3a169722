import Highlighter.Proofs.Document.RoundTrip
import Highlighter.Proofs.Registry.Registrations

/-!
# Grammars under their own names

Registering puts a grammar on record under its own name (`Record.Filed`), in whatever order things
come. So registering it once more without extensions changes nothing (`Lists.register_self`).
-/

namespace Highlighter

/-- The grammar of a language was made. -/
lemma Language.made_grammar (l : Language) : Grammar.Made l.grammar := by
  have hbuild := l.build_builder
  cases l with
  | plainText => exact .derived .passthrough hbuild
  | _ => exact .built hbuild

namespace Registry

variable {r : Registry} {records : List Record}

/-- The grammar of the record was made, and it is on record under its own name. -/
def Record.Filed (c : Record) : Prop :=
  c.key = Unicode.lowercase c.grammar.name ∧ Grammar.Made c.grammar

/-- Entering a grammar that was made keeps every record filed. -/
lemma filed_enter (h : ∀ c ∈ records, c.Filed) {g : Grammar} (hg : Grammar.Made g)
    (exts : List String) : ∀ c ∈ enter records g exts, c.Filed := by
  intro c hc
  rw [enter] at hc
  split at hc
  · obtain ⟨d, hd, rfl⟩ := List.mem_map.mp hc
    split
    · rename_i hkey
      exact ⟨hkey, hg⟩
    · exact h d hd
  · rcases List.mem_append.mp hc with hc | hc
    · obtain ⟨d, hd, rfl⟩ := List.mem_map.mp hc
      exact h d hd
    · rw [List.mem_singleton.mp hc]
      exact ⟨rfl, hg⟩

/-- Entering grammars that were made keeps every record filed. -/
lemma filed_enterEach (h : ∀ c ∈ records, c.Filed) {calls : List Registration}
    (hcalls : ∀ call ∈ calls, Grammar.Made call.1) : ∀ c ∈ enterEach records calls, c.Filed := by
  induction calls generalizing records with
  | nil => exact h
  | cons call calls ih =>
    obtain ⟨hcall, hcalls⟩ := List.forall_mem_cons.mp hcalls
    exact ih (filed_enter h hcall call.2) hcalls

/-- At the beginning every record is filed. -/
lemma Beginning.filed_records (b : Beginning) : ∀ c ∈ b.records, c.Filed := by
  cases b with
  | empty => exact List.forall_mem_nil _
  | builtin =>
    intro c hc
    obtain ⟨l, -, rfl⟩ := List.mem_map.mp hc
    exact ⟨congrArg Unicode.lowercase l.name_grammar.symm, l.made_grammar⟩

/-- A grammar that is on record under its name changes nothing when it is registered again without
extensions. -/
lemma Lists.register_self (h : r.Lists records) {c : Record} (hc : c ∈ records)
    (hfiled : c.Filed) : r.register c.grammar [] = r := by
  have henter : enter records c.grammar [] = records := by
    rw [enter, ← hfiled.1, if_pos (List.mem_map_of_mem hc), List.map_congr_left (g := id),
      List.map_id]
    intro d hd
    split
    · rename_i hkey'
      obtain rfl := h.eq_of_key hd hc hkey'
      rfl
    · exact Record.without_nil d
  exact (henter ▸ h.register c.grammar []).unique h

end Registry

end Highlighter
