import Highlighter.Proofs.Document.Reading
import Highlighter.Proofs.Document.Tables

/-!
# Grammars survive being stored

A grammar that was made is sound, and its words have the keys that the case rule gives them
(`Made.sound`, `Made.keyed`). So it is read back from its stored form as it was
(`Made.ofBytes_toText`).
-/

namespace Highlighter

namespace Grammar

variable {g : Grammar}

/-- Every call leaves the words with the keys that the case rule gives them. -/
lemma keyed_apply (h : g.keywords.Keyed) (c : Call) : (g.apply c).keywords.Keyed := by
  cases c with
  | keywords className words => exact h.addWords className words
  | clearKeywords => exact g.keywords.keyed_clearSets
  | ignoreCase on => exact h.setIgnoreCase on
  | identChars chars => exact h.setExtraIdentChars chars
  | _ => exact h

/-- No call takes the keys of the words away. -/
lemma keyed_foldl_apply (h : g.keywords.Keyed) (calls : List Call) :
    (calls.foldl apply g).keywords.Keyed := by
  induction calls generalizing g with
  | nil => exact h
  | cons c calls ih => exact ih (keyed_apply h c)

/-- The ways to come by a grammar: the one that changes nothing, building one from nothing or from
another one, and reading one that was stored. -/
inductive Made : Grammar → Prop
  | passthrough : Made passthrough
  | built {name : String} {calls : List Call} {g : Grammar}
    (h : ((Builder.empty name).run calls).build = .ok g) : Made g
  | derived {base : Grammar} (hbase : Made base) {name : String} {calls : List Call} {g : Grammar}
    (h : ((Builder.derive base name).run calls).build = .ok g) : Made g
  | loaded {bytes : Bytes} {g : Grammar} (h : ofBytes bytes = .ok g) : Made g

/-- What is loaded is a document that is accepted. -/
lemma ofBytes_eq_ok_iff {bytes : Bytes} :
    ofBytes bytes = .ok g ↔
      ∃ d : Document, Json.parse? bytes >>= Document.ofJson? = some d ∧ d.toGrammar = .ok g := by
  rw [ofBytes]
  cases hdoc : Json.parse? bytes >>= Document.ofJson? with
  | none => exact ⟨nofun, nofun⟩
  | some d =>
    have hrefused : d.toGrammar.mapError LoadError.refused = .ok g ↔ d.toGrammar = .ok g := by
      cases d.toGrammar <;> simp [Except.mapError]
    simpa using hrefused

/-- A grammar that was loaded was built from the calls of a document. -/
lemma built_of_ofBytes {bytes : Bytes} (h : ofBytes bytes = .ok g) :
    ∃ d : Document, ((Builder.empty d.name).run d.calls).build = .ok g :=
  have ⟨d, _, hbuild⟩ := ofBytes_eq_ok_iff.mp h
  ⟨d, hbuild⟩

/-- What is built has the keys of its words, if the builder began with them. -/
lemma keyed_of_build {b : Builder} (hb : b.grammar.keywords.Keyed) {calls : List Call}
    (h : (b.run calls).build = .ok g) : g.keywords.Keyed := by
  rw [← (Builder.eq_of_build h).1, Builder.grammar_run]
  exact keyed_foldl_apply hb calls

/-- The overlay of every grammar that was made has the keys of its words. -/
lemma Made.keyed (h : Made g) : g.keywords.Keyed := by
  induction h with
  | passthrough => exact Overlay.keyed_empty
  | built h => exact keyed_of_build Overlay.keyed_empty h
  | derived _ h ih => exact keyed_of_build ih h
  | loaded h =>
    obtain ⟨d, h⟩ := built_of_ofBytes h
    exact keyed_of_build Overlay.keyed_empty h

/-- No grammar that was made has a defect. -/
lemma Made.sound (h : Made g) : g.defect? = none := by
  cases h with
  | passthrough => exact defect?_passthrough
  | built h => exact (Builder.eq_of_build h).2
  | derived _ h => exact (Builder.eq_of_build h).2
  | loaded h =>
    obtain ⟨d, h⟩ := built_of_ofBytes h
    exact (Builder.eq_of_build h).2

/-- A grammar is read back from its stored form as it was: every table, also of states out of
reach, the markup, the words with their keys, and all strings in them. -/
theorem Made.ofBytes_toText (h : Made g) : ofBytes (Utf8.ofString g.toText) = .ok g := by
  rw [ofBytes, toText, Document.parse?_toJson]
  change (Document.ofGrammar g).toGrammar.mapError _ = _
  rw [Document.toGrammar_ofGrammar h.keyed h.sound]
  rfl

/-- Characters that JSON escapes, a state out of reach, and words in two scripts. -/
theorem Made.ofBytes_toText_quoted :
    let b := (Builder.empty "a \"name\"\\\n").run
      [.wildcard .normal .normal, .transition .xmlTag [0x22, 0x5C, 0x0A] .normal,
       .edge .xmlTag .normal "\x01/\t", .ignoreCase true, .keywords "k" ["Été", "if"]]
    b.build = .ok b.grammar ∧ ofBytes (Utf8.ofString b.grammar.toText) = .ok b.grammar := by
  intro b
  have hbuild : b.build = .ok b.grammar := Builder.build_eq_ok rfl (by decide +kernel)
  exact ⟨hbuild, (Made.built hbuild).ofBytes_toText⟩

end Grammar
end Highlighter
