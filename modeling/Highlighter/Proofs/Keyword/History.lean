import Mathlib.Data.List.DropRight
import Highlighter.Proofs.Document.RoundTrip
import Highlighter.Proofs.Grammar.Cells

/-!
# The calls behind an overlay

Of all calls that led to a grammar, also of those on the grammars that it derives from, three things make
up its overlay: the case rule that was set last, the characters of identifiers that were set last, and the
words that were added behind the last clearing (`Overlay.SumsUp`). When the rule was set does not show,
although the keys of the words are made and made again on the way. Main statement:
`Grammar.Traced.keywords_eq`.
-/

namespace Highlighter

namespace Call

/-- The case rule that a call sets. -/
def caseRule? : Call → Option Bool
  | .ignoreCase on => some on
  | _ => none

/-- The extra characters of identifiers that a call sets. -/
def chars? : Call → Option String
  | .identChars chars => some chars
  | _ => none

/-- The class that a call adds to, and the words. -/
def addition? : Call → Option KeywordEntry
  | .keywords className words => some ⟨className, words⟩
  | _ => none

/-- All calls but one leave the words that are there. -/
def keepsWords : Call → Bool
  | .clearKeywords => false
  | _ => true

/-- The case rule that was set last. Case matters until a rule is set. -/
def lastCaseRule (calls : List Call) : Bool := (calls.filterMap caseRule?).getLast?.getD false

/-- The extra characters of identifiers that were set last. -/
def lastChars (calls : List Call) : String := (calls.filterMap chars?).getLast?.getD ""

/-- What was added behind the last clearing, call by call. -/
def additions (calls : List Call) : List KeywordEntry :=
  (calls.rtakeWhile keepsWords).filterMap addition?

/-- The calls that set the case rule and the characters first and then add the words. -/
def replay (calls : List Call) : List Call :=
  .ignoreCase (lastCaseRule calls) :: .identChars (lastChars calls) :: (additions calls).map (·.call)

variable {calls : List Call} {c : Call}

/-- One more call sets the case rule, or it stays. -/
lemma lastCaseRule_concat :
    lastCaseRule (calls ++ [c]) = c.caseRule?.getD (lastCaseRule calls) := by
  cases h : c.caseRule? <;> simp [lastCaseRule, h]

/-- One more call sets the characters, or they stay. -/
lemma lastChars_concat : lastChars (calls ++ [c]) = c.chars?.getD (lastChars calls) := by
  cases h : c.chars? <;> simp [lastChars, h]

/-- One more call adds words, leaves them or clears them. -/
lemma additions_concat :
    additions (calls ++ [c]) =
      if c.keepsWords then c.addition?.elim (additions calls) (additions calls ++ [·]) else [] := by
  rw [additions, List.rtakeWhile_concat]
  split
  · cases h : c.addition? <;> simp [additions, h]
  · rfl

end Call

/-! ### What an overlay comes to -/

namespace Overlay

variable {k k' : Overlay} {on : Bool} {chars : String} {added before : List KeywordEntry}

/-- The overlay has the case rule and the characters, the classes in the order in which words were added
to them first, and the words that were added to a class, as they were spelled. -/
structure SumsUp (k : Overlay) (on : Bool) (chars : String) (added : List KeywordEntry) : Prop where
  ignoreCase : k.ignoreCase = on
  extraIdentChars : k.extraIdentChars = chars
  classes : k.classes = (added.map (·.className)).eraseDups
  words : ∀ className w, k.HasWord className w ↔ ∃ e ∈ added, e.className = className ∧ w ∈ e.words
  keyed : k.Keyed

/-- The empty overlay is what no call comes to. -/
lemma sumsUp_empty : empty.SumsUp false "" [] :=
  ⟨rfl, rfl, rfl, by simp [HasWord, empty], keyed_empty⟩

/-- A class that is named once more keeps its place. -/
lemma eraseDups_concat {classes : List String} {className : String} :
    (classes ++ [className]).eraseDups =
      if className ∈ classes then classes.eraseDups else classes.eraseDups ++ [className] := by
  rw [List.eraseDups_append, List.cons_removeAll]
  split
  · rename_i h
    rw [if_neg (by simpa using h)]
    rfl
  · rename_i h
    rw [if_pos (by simpa using h), List.nil_removeAll]
    exact List.append_nil _

namespace SumsUp

/-- Adding words is one addition more. -/
lemma addWords (h : k.SumsUp on chars added) (className : String) (words : List String) :
    (k.addWords className words).SumsUp on chars (added ++ [⟨className, words⟩]) where
  ignoreCase := h.ignoreCase
  extraIdentChars := h.extraIdentChars
  classes := by
    have hclasses := h.classes
    rw [Overlay.classes] at hclasses
    rw [List.map_append, List.map_singleton, eraseDups_concat, Overlay.classes, Overlay.addWords,
      className_addTo, hclasses]
    simp only [List.mem_eraseDups]
  words c w := by
    rw [hasWord_addWords, h.words]
    simp [or_comm, eq_comm]
  keyed := h.keyed.addWords className words

/-- Adding entry after entry is that many additions more. -/
lemma addEach (h : k.SumsUp on chars before) (added : List KeywordEntry) :
    (added.foldl (fun k e => k.addWords e.className e.words) k).SumsUp on chars (before ++ added) := by
  induction added generalizing k before with
  | nil => simpa using h
  | cons e added ih => simpa using ih (h.addWords e.className e.words)

/-- Clearing takes back all additions. -/
lemma clearSets (h : k.SumsUp on chars added) : k.clearSets.SumsUp on chars [] where
  ignoreCase := h.ignoreCase
  extraIdentChars := h.extraIdentChars
  classes := rfl
  words className w := by simp [not_hasWord_clearSets]
  keyed := keyed_clearSets k

/-- Setting the case rule touches no addition. -/
lemma setIgnoreCase (h : k.SumsUp on chars added) (on' : Bool) :
    (k.setIgnoreCase on').SumsUp on' chars added where
  ignoreCase := ignoreCase_setIgnoreCase k on'
  extraIdentChars := (extraIdentChars_setIgnoreCase k on').trans h.extraIdentChars
  classes := (classes_setIgnoreCase k on').trans h.classes
  words className w := hasWord_setIgnoreCase.trans (h.words className w)
  keyed := h.keyed.setIgnoreCase on'

/-- Setting the characters touches no addition. -/
lemma setExtraIdentChars (h : k.SumsUp on chars added) (chars' : String) :
    (k.setExtraIdentChars chars').SumsUp on chars' added where
  ignoreCase := h.ignoreCase
  extraIdentChars := rfl
  classes := h.classes
  words := h.words
  keyed := h.keyed.setExtraIdentChars chars'

/-- The three things leave nothing open. -/
lemma unique (h : k.SumsUp on chars added) (h' : k'.SumsUp on chars added) : k = k' :=
  h.keyed.ext h'.keyed (h.classes.trans h'.classes.symm)
    (fun className w => (h.words className w).trans (h'.words className w).symm)
    (h.ignoreCase.trans h'.ignoreCase.symm) (h.extraIdentChars.trans h'.extraIdentChars.symm)

/-- A class has the words that were added to it, and no others. -/
lemma mem_words_iff (h : k.SumsUp on chars added) {s : KeywordSet} (hs : s ∈ k.sets) {w : String} :
    w ∈ s.words ↔ ∃ e ∈ added, e.className = s.className ∧ w ∈ e.words :=
  (h.keyed.mem_words_iff hs).trans (h.words s.className w)

/-- The keys of a set are those of its words, whenever the words and the case rule came. -/
lemma mem_keys_iff (h : k.SumsUp on chars added) {s : KeywordSet} (hs : s ∈ k.sets) {key : String} :
    key ∈ s.keys ↔ ∃ w ∈ s.words, lookupKey on w = key := by
  have hkeys := h.keyed.keyed s hs
  rw [KeywordSet.Keyed, h.ignoreCase] at hkeys
  rw [hkeys, WordSet.mem_map]

/-- A word has the first class, in the order of first use, to which it was added in some spelling that
has the same key. -/
lemma classify_eq (h : k.SumsUp on chars added) (w : String) :
    k.classify w = (added.map (·.className)).eraseDups.find? fun className =>
      ∃ e ∈ added, e.className = className ∧ ∃ v ∈ e.words, lookupKey on v = lookupKey on w := by
  have hset : ∀ s ∈ k.sets, decide (lookupKey k.ignoreCase w ∈ s.keys) =
      decide (∃ e ∈ added, e.className = s.className ∧ ∃ v ∈ e.words, lookupKey on v = lookupKey on w) := by
    intro s hs
    rw [decide_eq_decide, h.mem_keys_iff hs, h.ignoreCase]
    simp only [h.mem_words_iff hs]
    constructor
    · rintro ⟨v, ⟨e, he, hclass, hv⟩, hkey⟩
      exact ⟨e, he, hclass, v, hv, hkey⟩
    · rintro ⟨e, he, hclass, v, hv, hkey⟩
      exact ⟨v, ⟨e, he, hclass, hv⟩, hkey⟩
  rw [← h.classes, Overlay.classes, List.find?_map, classify, ← List.head?_filter,
    List.filter_congr hset, List.head?_filter]
  rfl

end SumsUp
end Overlay

/-! ### What a grammar was made by -/

namespace Grammar

variable {g : Grammar} {b : Builder} {calls before : List Call}

/-- The grammars, finished or in the making, with all calls that led to them. The calls on the grammar that
another one derives from come before its own, and the calls of a document are those that load it. -/
inductive Traced : Grammar → List Call → Prop
  | empty (name : String) : Traced (Builder.empty name).grammar []
  | passthrough : Traced passthrough []
  | call {b : Builder} {calls : List Call} (h : Traced b.grammar calls) (c : Call) :
    Traced (b.apply c).grammar (calls ++ [c])
  | built {b : Builder} {calls : List Call} {g : Grammar} (h : Traced b.grammar calls)
    (hbuild : b.build = .ok g) : Traced g calls
  | derived {base : Grammar} {calls : List Call} (h : Traced base calls) (name : String) :
    Traced (Builder.derive base name).grammar calls
  | loaded {bytes : Bytes} {d : Document} {g : Grammar}
    (hdoc : Json.parse? bytes >>= Document.ofJson? = some d) (hload : ofBytes bytes = .ok g) :
    Traced g d.calls

/-- The calls on a grammar in the making come behind those that led to it. -/
lemma Traced.run (h : Traced b.grammar before) (calls : List Call) :
    Traced (b.run calls).grammar (before ++ calls) := by
  induction calls generalizing b before with
  | nil => simpa [Builder.run] using h
  | cons c calls ih => simpa [Builder.run] using ih (h.call c)

/-- The overlay is what all calls come to. -/
def Totals (g : Grammar) (calls : List Call) : Prop :=
  g.keywords.SumsUp (Call.lastCaseRule calls) (Call.lastChars calls) (Call.additions calls)

/-- No call has been made on the empty grammar. -/
lemma totals_empty (name : String) : (Builder.empty name).grammar.Totals [] := Overlay.sumsUp_empty

/-- One call more is summed up with those before it. -/
lemma Totals.apply (h : g.Totals calls) (c : Call) : (g.apply c).Totals (calls ++ [c]) := by
  rw [Totals, Call.lastCaseRule_concat, Call.lastChars_concat, Call.additions_concat]
  cases c with
  | keywords className words => exact h.addWords className words
  | clearKeywords => exact h.clearSets
  | ignoreCase on => exact h.setIgnoreCase on
  | identChars chars => exact h.setExtraIdentChars chars
  -- all others leave the overlay alone
  | _ => exact h

/-- Several calls more are summed up with those before them. -/
lemma Totals.run (h : b.grammar.Totals before) (calls : List Call) :
    (b.run calls).grammar.Totals (before ++ calls) := by
  induction calls generalizing b before with
  | nil => simpa [Builder.run] using h
  | cons c calls ih =>
    have hc : (b.apply c).grammar.Totals (before ++ [c]) := by simpa using h.apply c
    simpa [Builder.run] using ih hc

/-- The overlay of every grammar is what the calls that led to it come to. -/
lemma Traced.totals (h : g.Traced calls) : g.Totals calls := by
  induction h with
  | empty name => exact totals_empty name
  | passthrough => exact Overlay.sumsUp_empty
  | call h c ih => simpa using ih.apply c
  | built h hbuild ih =>
    obtain ⟨rfl, -⟩ := Builder.eq_of_build hbuild
    exact ih
  | derived h name ih => exact ih
  | @loaded bytes d g hdoc hload =>
    -- the calls of a document are made on a fresh builder
    obtain ⟨d', hdoc', hbuild⟩ := ofBytes_eq_ok_iff.mp hload
    obtain rfl := Option.some.inj (hdoc.symm.trans hdoc')
    obtain ⟨rfl, -⟩ := Builder.eq_of_build hbuild
    exact (totals_empty d.name).run d.calls

/-- The shorter list of calls comes to the same as all of them. -/
lemma sumsUp_replay (name : String) (calls : List Call) :
    ((Builder.empty name).run (Call.replay calls)).grammar.keywords.SumsUp (Call.lastCaseRule calls)
      (Call.lastChars calls) (Call.additions calls) := by
  rw [Builder.grammar_run, Call.replay, List.foldl_cons, List.foldl_cons, Document.foldl_keywords]
  have hset := (Overlay.sumsUp_empty.setIgnoreCase (Call.lastCaseRule calls)).setExtraIdentChars
    (Call.lastChars calls)
  exact hset.addEach (Call.additions calls)

/-- The overlay of a grammar tells the case rule that was set last, and the words behind the last
clearing. Its keys are those of its words, its classes stand in the order of first use, and it is the
overlay of the calls that set the rule and the characters first and then add the words. -/
theorem Traced.keywords_eq (h : g.Traced calls) (name : String) :
    let added := Call.additions calls
    let replayed := ((Builder.empty name).run (Call.replay calls)).grammar.keywords
    (∀ s ∈ g.keywords.sets, ∀ key,
      key ∈ s.keys ↔ ∃ w ∈ s.words, lookupKey (Call.lastCaseRule calls) w = key) ∧
    (g.keywords.classes = (added.map (·.className)).eraseDups ∧ g.keywords.classes.Nodup) ∧
    (∀ s ∈ g.keywords.sets, ∀ w, w ∈ s.words ↔ ∃ e ∈ added, e.className = s.className ∧ w ∈ e.words) ∧
    g.keywords = replayed ∧
    ∀ w, g.keywords.classify w = replayed.classify w ∧
      replayed.classify w = (added.map (·.className)).eraseDups.find? fun className =>
        ∃ e ∈ added, e.className = className ∧
          ∃ v ∈ e.words, lookupKey (Call.lastCaseRule calls) v = lookupKey (Call.lastCaseRule calls) w := by
  intro added replayed
  have hsums := h.totals
  have hreplayed : g.keywords = replayed := hsums.unique (sumsUp_replay name calls)
  refine ⟨fun s hs key => hsums.mem_keys_iff hs, ⟨hsums.classes, hsums.keyed.distinct⟩,
    fun s hs w => hsums.mem_words_iff hs, hreplayed, fun w => ?_⟩
  rw [← hreplayed]
  exact ⟨rfl, hsums.classify_eq w⟩

/-- A stored grammar in which case does not matter, and one that derives from it, takes its words away and
adds words while case matters. -/
theorem Traced.keywords_eq_derived :
    let d : Document :=
      { name := "query", initial := .normal, transitions := [], wildcards := [⟨.normal, .normal⟩],
        processors := [], edges := [], closures := [], keywords := [⟨"keyword", ["SELECT", "from"]⟩],
        ignoreCase := true, identChars := "", defaultProcessor := .keywords }
    let calls : List Call :=
      [.clearKeywords, .keywords "type" ["INT"], .ignoreCase false, .keywords "keyword" ["Select"],
       .keywords "type" ["Int"], .ignoreCase true, .identChars "$"]
    ∃ g, ofBytes (Utf8.ofString d.toJson.pretty) = .ok g ∧
      let derived := ((Builder.derive g "small").run calls).grammar
      derived.Traced (d.calls ++ calls) ∧ derived.keywords.classes = ["type", "keyword"] ∧
        derived.keywords.classify "select" = some "keyword" ∧
        derived.keywords.classify "FROM" = none := by
  intro d calls
  have hdoc := d.parse?_toJson
  have hbuild : d.toGrammar = .ok ((Builder.empty d.name).run d.calls).grammar :=
    Builder.build_eq_ok rfl (by decide +kernel)
  have hload := ofBytes_eq_ok_iff.mpr ⟨d, hdoc, hbuild⟩
  have htraced := ((Traced.loaded hdoc hload).derived "small").run calls
  -- the classes and the words of the whole history are computed from the list of calls
  obtain ⟨-, ⟨hclasses, -⟩, -, -, hclassify⟩ := htraced.keywords_eq "replayed"
  refine ⟨_, hload, htraced, ?_, ?_, ?_⟩
  · rw [hclasses]
    decide +kernel
  · rw [(hclassify "select").1, (hclassify "select").2]
    decide +kernel
  · rw [(hclassify "FROM").1, (hclassify "FROM").2]
    decide +kernel

end Grammar
end Highlighter
