import Highlighter.Document.Basic
import Highlighter.Proofs.Grammar.Soundness
import Highlighter.Proofs.Keyword.Keys

/-!
# Documents as tables

What the calls of a document make, and that the document of a grammar makes that grammar. Where a
document has several entries about the same thing, the last one counts (`latest`). Main statements:
`foldl_calls`, the calls of a document make its tables; `tables_ofGrammar`, the tables of the document
of a grammar are those of the grammar; `toGrammar_ofGrammar`, a sound grammar is built again from its
document.
-/

namespace Highlighter

open Utf8

section Latest

variable {ε β : Type} {p : ε → Prop} [DecidablePred p] {value : ε → β} {entries : List ε}

/-- The value of the last entry with a property, or the value `start` from before all of them. -/
def latest (p : ε → Prop) [DecidablePred p] (value : ε → β) (start : Option β) (entries : List ε) :
    Option β :=
  entries.foldl (fun v e => if p e then some (value e) else v) start

/-- Entries that tell nothing but `v`, and tell it unless it stands at the start. -/
lemma latest_eq {v start : Option β} (hsound : ∀ e ∈ entries, p e → v = some (value e))
    (hcomplete : start = v ∨ ∃ e ∈ entries, p e) : latest p value start entries = v := by
  induction entries generalizing start with
  | nil => exact hcomplete.resolve_right (by simp)
  | cons e entries ih =>
    refine ih (fun e' he' => hsound e' (List.mem_cons_of_mem _ he')) ?_
    by_cases hp : p e
    · simp only [if_pos hp]
      exact .inl (hsound e List.mem_cons_self hp).symm
    · simp only [if_neg hp]
      obtain hstart | ⟨e', he', hp'⟩ := hcomplete
      · exact .inl hstart
      · rcases List.mem_cons.mp he' with rfl | he'
        · exact absurd hp' hp
        · exact .inr ⟨e', he', hp'⟩

/-- Without a value at the start, entries that tell nothing but `v` have to tell it. -/
lemma latest_none_eq {v : Option β} (hsound : ∀ e ∈ entries, p e → v = some (value e))
    (hcomplete : ∀ b, v = some b → ∃ e ∈ entries, p e) : latest p value none entries = v := by
  refine latest_eq hsound ?_
  cases v with
  | none => exact .inl rfl
  | some b => exact .inr (hcomplete b rfl)

end Latest

/-- The keys of a transition entry. -/
def TransitionEntry.keys (e : TransitionEntry) : List Key :=
  (Utf8.ofString e.on).filterMap Key.ofByte?

/-- The character of a key is read as that key, and no byte of it is left over. -/
lemma Key.encodeChar_toChar : ∀ k : Key, (encodeChar k.toChar).filterMap ofByte? = [k] ∧
    (encodeChar k.toChar).filter (128 ≤ ·) = [] := by
  decide +kernel

/-- An entry written for a list of keys has just these keys. -/
lemma TransitionEntry.keys_toChar (source : State) (keys : List Key) (target : State) :
    (⟨source, String.ofList (keys.map Key.toChar), target⟩ : TransitionEntry).keys = keys := by
  rw [TransitionEntry.keys, ofString, String.toList_ofList]
  induction keys with
  | nil => rfl
  | cons k keys ih =>
    rw [List.map_cons, encode_cons, List.filterMap_append, ih, (Key.encodeChar_toChar k).1]
    rfl

namespace Document

/-- The tables that a document lists. Where several entries are about the same thing, the last one
counts. -/
def tables (d : Document) : Grammar where
  name := d.name
  initial := d.initial
  transitions :=
    { explicit := fun s k =>
        latest (fun e => s = e.source ∧ e.keys.contains k) (·.target) none d.transitions
      wildcard := fun s => latest (s = ·.source) (·.target) none d.wildcards }
  pairProcessor := fun s t =>
    latest (fun e => s = e.source ∧ some t = e.target) (·.processor) none d.processors
  exitProcessor := fun s =>
    latest (fun e => s = e.source ∧ none = e.target) (·.processor) none d.processors
  defaultProcessor := d.defaultProcessor
  edge := fun s t => latest (fun e => s = e.source ∧ t = e.target) (·.markup) none d.edges
  ownClosure := fun s => latest (s = ·.state) (·.markup) none d.closures
  keywords := d.keywords.foldl (fun k e => k.addWords e.className e.words)
    ⟨[], d.ignoreCase, d.identChars⟩

variable {g : Grammar}

/-- The calls of transition entries let each key lead where the last entry with it says. -/
lemma foldl_transitions (entries : List TransitionEntry) :
    (entries.map (·.call)).foldl Grammar.apply g =
      { g with
        transitions :=
          { g.transitions with
            explicit := fun s k => latest (fun e => s = e.source ∧ e.keys.contains k) (·.target)
              (g.transitions.explicit s k) entries } } := by
  induction entries generalizing g with
  | nil => rfl
  | cons e entries ih =>
    rw [List.map_cons, List.foldl_cons, ih]
    simp [TransitionEntry.call, TransitionEntry.keys, Grammar.apply, Transitions.setKeys, latest]

/-- The calls of wildcard entries let each state fall back to the target of its last entry. -/
lemma foldl_wildcards (entries : List WildcardEntry) :
    (entries.map (·.call)).foldl Grammar.apply g =
      { g with
        transitions :=
          { g.transitions with
            wildcard := fun s =>
              latest (s = ·.source) (·.target) (g.transitions.wildcard s) entries } } := by
  induction entries generalizing g with
  | nil => rfl
  | cons e entries ih => exact ih

/-- The calls of processor entries give each pair, and each state alone, the processor of its last
entry. -/
lemma foldl_processors (entries : List ProcessorEntry) :
    (entries.map (·.call)).foldl Grammar.apply g =
      { g with
        pairProcessor := fun s t =>
          latest (fun e => s = e.source ∧ some t = e.target) (·.processor)
            (g.pairProcessor s t) entries
        exitProcessor := fun s =>
          latest (fun e => s = e.source ∧ none = e.target) (·.processor)
            (g.exitProcessor s) entries } := by
  induction entries generalizing g with
  | nil => rfl
  | cons e entries ih =>
    rw [List.map_cons, List.foldl_cons, ih]
    obtain ⟨source, target, p⟩ := e
    cases target with
    | none => simp [ProcessorEntry.call, Grammar.apply, latest]
    | some target => simp [ProcessorEntry.call, Grammar.apply, latest]

/-- The calls of edge entries give each pair the markup of its last entry. -/
lemma foldl_edges (entries : List EdgeEntry) :
    (entries.map (·.call)).foldl Grammar.apply g =
      { g with
        edge := fun s t =>
          latest (fun e => s = e.source ∧ t = e.target) (·.markup) (g.edge s t) entries } := by
  induction entries generalizing g with
  | nil => rfl
  | cons e entries ih => exact ih

/-- The calls of closure entries give each state the closure of its last entry. -/
lemma foldl_closures (entries : List ClosureEntry) :
    (entries.map (·.call)).foldl Grammar.apply g =
      { g with
        ownClosure := fun s => latest (s = ·.state) (·.markup) (g.ownClosure s) entries } := by
  induction entries generalizing g with
  | nil => rfl
  | cons e entries ih => exact ih

/-- The calls of keyword entries add the words to their classes, one entry after the other. -/
lemma foldl_keywords (entries : List KeywordEntry) :
    (entries.map (·.call)).foldl Grammar.apply g =
      { g with
        keywords := entries.foldl (fun k e => k.addWords e.className e.words) g.keywords } := by
  induction entries generalizing g with
  | nil => rfl
  | cons e entries ih => exact ih

/-- The calls of a document make its tables. -/
lemma foldl_calls (d : Document) : d.calls.foldl Grammar.apply (.empty d.name) = d.tables := by
  simp only [calls, List.foldl_append, foldl_transitions, foldl_wildcards, foldl_processors,
    foldl_edges, foldl_closures, foldl_keywords]
  have hoverlay : (Overlay.empty.setIgnoreCase d.ignoreCase).setExtraIdentChars d.identChars =
      ⟨[], d.ignoreCase, d.identChars⟩ := by
    cases hcase : d.ignoreCase <;> rfl
  rw [tables, ← hoverlay]
  rfl

/-! ### The document of a grammar -/

/-- The keys that take `source` to `target`, in order. -/
def keysTo (t : Transitions) (source target : State) : List Key :=
  ((Key.all.filterMap fun k => (t.explicit source k).map (k, ·)).filter (·.2 == target)).map (·.1)

/-- The keys that take one state to another. -/
lemma mem_keysTo {t : Transitions} {source target : State} {k : Key} :
    k ∈ keysTo t source target ↔ t.explicit source k = some target := by
  simp [keysTo]

/-- There is one entry for each target that some key leads to, with the keys that lead there. -/
lemma mem_transitionsFrom {t : Transitions} {source : State} {e : TransitionEntry} :
    e ∈ transitionsFrom t source ↔ ∃ target, keysTo t source target ≠ [] ∧
      ⟨source, String.ofList ((keysTo t source target).map Key.toChar), target⟩ = e := by
  simp only [transitionsFrom, keysTo, List.mem_filterMap, State.mem_all, true_and,
    Option.ite_none_left_eq_some, Option.some.injEq, List.isEmpty_iff, List.map_map, ne_eq,
    List.map_eq_nil_iff]
  rfl

/-- There is one entry for each wildcard of the grammar. -/
lemma mem_wildcards {e : WildcardEntry} :
    e ∈ (ofGrammar g).wildcards ↔
      ∃ source target, g.transitions.wildcard source = some target ∧ ⟨source, target⟩ = e := by
  simp only [ofGrammar, List.mem_filterMap, State.mem_all, true_and, Option.map_eq_some_iff]

/-- There is one entry for each processor of the state, alone or in a pair. -/
lemma mem_processorsFrom {source : State} {e : ProcessorEntry} :
    e ∈ processorsFrom g source ↔
      (∃ p, g.exitProcessor source = some p ∧ ⟨source, none, p⟩ = e) ∨
      ∃ target p, g.pairProcessor source target = some p ∧ ⟨source, some target, p⟩ = e := by
  simp only [processorsFrom, List.mem_append, Option.mem_toList, List.mem_filterMap,
    State.mem_all, true_and, Option.map_eq_some_iff]

/-- There is one entry for each edge that leaves the state. -/
lemma mem_edgesFrom {source : State} {e : EdgeEntry} :
    e ∈ edgesFrom g source ↔
      ∃ target markup, g.edge source target = some markup ∧ ⟨source, target, markup⟩ = e := by
  simp only [edgesFrom, List.mem_filterMap, State.mem_all, true_and, Option.map_eq_some_iff]

/-- There is one entry for each closure of the grammar. -/
lemma mem_closures {e : ClosureEntry} :
    e ∈ (ofGrammar g).closures ↔
      ∃ s markup, g.ownClosure s = some markup ∧ ⟨s, markup⟩ = e := by
  simp only [ofGrammar, List.mem_filterMap, State.mem_all, true_and, Option.map_eq_some_iff]

variable (g)

/-- The entries written give back where each key leads. -/
lemma explicit_ofGrammar (s : State) (k : Key) :
    latest (fun e => s = e.source ∧ e.keys.contains k) (·.target) none (ofGrammar g).transitions =
      g.transitions.explicit s k := by
  refine latest_none_eq (fun e he hp => ?_) fun target htarget => ?_
  · obtain ⟨source, -, he⟩ := List.mem_flatMap.mp he
    obtain ⟨target, -, rfl⟩ := mem_transitionsFrom.mp he
    obtain ⟨rfl, hk⟩ := hp
    rw [TransitionEntry.keys_toChar, List.contains_iff_mem] at hk
    exact mem_keysTo.mp hk
  · have hk : k ∈ keysTo g.transitions s target := mem_keysTo.mpr htarget
    refine ⟨_, List.mem_flatMap.mpr ⟨s, State.mem_all s, mem_transitionsFrom.mpr
      ⟨target, List.ne_nil_of_mem hk, rfl⟩⟩, rfl, ?_⟩
    rwa [TransitionEntry.keys_toChar, List.contains_iff_mem]

/-- The entries written give back the wildcards. -/
lemma wildcard_ofGrammar (s : State) :
    latest (s = ·.source) (·.target) none (ofGrammar g).wildcards = g.transitions.wildcard s := by
  refine latest_none_eq (fun e he hp => ?_) fun target htarget => ?_
  · obtain ⟨source, target, htarget, rfl⟩ := mem_wildcards.mp he
    obtain rfl := hp
    exact htarget
  · exact ⟨_, mem_wildcards.mpr ⟨s, target, htarget, rfl⟩, rfl⟩

/-- The entries written give back the processors of pairs. -/
lemma pairProcessor_ofGrammar (s t : State) :
    latest (fun e => s = e.source ∧ some t = e.target) (·.processor) none (ofGrammar g).processors =
      g.pairProcessor s t := by
  refine latest_none_eq (fun e he hp => ?_) fun p hprocessor => ?_
  · obtain ⟨source, -, he⟩ := List.mem_flatMap.mp he
    obtain ⟨p, -, rfl⟩ | ⟨target, p, hprocessor, rfl⟩ := mem_processorsFrom.mp he
    · exact absurd hp.2 nofun
    · obtain ⟨rfl, htarget⟩ := hp
      rw [Option.some.inj htarget]
      exact hprocessor
  · exact ⟨_, List.mem_flatMap.mpr ⟨s, State.mem_all s, mem_processorsFrom.mpr
      (.inr ⟨t, p, hprocessor, rfl⟩)⟩, rfl, rfl⟩

/-- The entries written give back the processors of states alone. -/
lemma exitProcessor_ofGrammar (s : State) :
    latest (fun e => s = e.source ∧ none = e.target) (·.processor) none (ofGrammar g).processors =
      g.exitProcessor s := by
  refine latest_none_eq (fun e he hp => ?_) fun p hprocessor => ?_
  · obtain ⟨source, -, he⟩ := List.mem_flatMap.mp he
    obtain ⟨p, hprocessor, rfl⟩ | ⟨target, p, -, rfl⟩ := mem_processorsFrom.mp he
    · obtain ⟨rfl, -⟩ := hp
      exact hprocessor
    · exact absurd hp.2 nofun
  · exact ⟨_, List.mem_flatMap.mpr ⟨s, State.mem_all s, mem_processorsFrom.mpr
      (.inl ⟨p, hprocessor, rfl⟩)⟩, rfl, rfl⟩

/-- The entries written give back the edges. -/
lemma edge_ofGrammar (s t : State) :
    latest (fun e => s = e.source ∧ t = e.target) (·.markup) none (ofGrammar g).edges =
      g.edge s t := by
  refine latest_none_eq (fun e he hp => ?_) fun markup hmarkup => ?_
  · obtain ⟨source, -, he⟩ := List.mem_flatMap.mp he
    obtain ⟨target, markup, hmarkup, rfl⟩ := mem_edgesFrom.mp he
    obtain ⟨rfl, rfl⟩ := hp
    exact hmarkup
  · exact ⟨_, List.mem_flatMap.mpr ⟨s, State.mem_all s, mem_edgesFrom.mpr
      ⟨t, markup, hmarkup, rfl⟩⟩, rfl, rfl⟩

/-- The entries written give back the closures. -/
lemma ownClosure_ofGrammar (s : State) :
    latest (s = ·.state) (·.markup) none (ofGrammar g).closures = g.ownClosure s := by
  refine latest_none_eq (fun e he hp => ?_) fun markup hmarkup => ?_
  · obtain ⟨s', markup, hmarkup, rfl⟩ := mem_closures.mp he
    obtain rfl := hp
    exact hmarkup
  · exact ⟨_, mem_closures.mpr ⟨s, markup, hmarkup, rfl⟩, rfl⟩

variable {g}

/-- The entries written give back the overlay, when each of its words stands under its own key. -/
lemma keywords_ofGrammar (h : g.keywords.Keyed) :
    (ofGrammar g).keywords.foldl (fun k e => k.addWords e.className e.words)
      ⟨[], (ofGrammar g).ignoreCase, (ofGrammar g).identChars⟩ = g.keywords := by
  rw [ofGrammar, List.foldl_map]
  exact h.foldl_addWords

/-- The document of a grammar lists its tables. -/
theorem tables_ofGrammar (h : g.keywords.Keyed) : (ofGrammar g).tables = g := by
  simp only [tables, explicit_ofGrammar, wildcard_ofGrammar, pairProcessor_ofGrammar,
    exitProcessor_ofGrammar, edge_ofGrammar, ownClosure_ofGrammar, keywords_ofGrammar h]
  rfl

/-- Only the calls for transitions ask for keys. -/
lemma wideKeys_calls (d : Document) :
    d.calls.flatMap Call.wideKeys = d.transitions.flatMap (·.call.wideKeys) := by
  have hwildcards : d.wildcards.flatMap (·.call.wideKeys) = [] :=
    List.flatMap_eq_nil_iff.mpr fun _ _ => rfl
  have hprocessors : d.processors.flatMap (·.call.wideKeys) = [] :=
    List.flatMap_eq_nil_iff.mpr fun e _ => by
      unfold ProcessorEntry.call
      split <;> rfl
  have hedges : d.edges.flatMap (·.call.wideKeys) = [] := List.flatMap_eq_nil_iff.mpr fun _ _ => rfl
  have hclosures : d.closures.flatMap (·.call.wideKeys) = [] :=
    List.flatMap_eq_nil_iff.mpr fun _ _ => rfl
  have hkeywords : d.keywords.flatMap (·.call.wideKeys) = [] :=
    List.flatMap_eq_nil_iff.mpr fun _ _ => rfl
  simp only [calls, List.flatMap_append, List.flatMap_map, hwildcards, hprocessors, hedges, hclosures,
    hkeywords, List.append_nil]
  rfl

/-- All keys that the document of a grammar lists are ASCII characters. -/
lemma wideKeys_ofGrammar (g : Grammar) : (ofGrammar g).calls.flatMap Call.wideKeys = [] := by
  have hkeys : ∀ keys : List Key,
      (encode (keys.map Key.toChar)).filter (128 ≤ ·) = [] := by
    intro keys
    induction keys with
    | nil => rfl
    | cons k keys ih =>
      rw [List.map_cons, encode_cons, List.filter_append, (Key.encodeChar_toChar k).2, ih]
      rfl
  rw [wideKeys_calls, List.flatMap_eq_nil_iff]
  intro e he
  obtain ⟨source, -, he⟩ := List.mem_flatMap.mp he
  obtain ⟨target, -, rfl⟩ := mem_transitionsFrom.mp he
  rw [TransitionEntry.call, Call.wideKeys, ofString, String.toList_ofList, hkeys]
  rfl

/-- A document is accepted if it asks for keys only and nothing is wrong with its tables. -/
lemma toGrammar_eq_ok_iff {d : Document} :
    d.toGrammar = .ok g ↔ d.transitions.flatMap (·.call.wideKeys) = [] ∧ g.defect? = none ∧
      d.tables = g := by
  have hgrammar : ((Builder.empty d.name).run d.calls).grammar = d.tables := by
    rw [Builder.grammar_run]
    exact foldl_calls d
  have hkeys : ((Builder.empty d.name).run d.calls).wideKeys =
      d.transitions.flatMap (·.call.wideKeys) := by
    rw [Builder.wideKeys_run, wideKeys_calls]
    rfl
  rw [toGrammar, Builder.build_eq_ok_iff, hgrammar, hkeys]

/-- A sound grammar is made again by its document. -/
theorem toGrammar_ofGrammar (hkeyed : g.keywords.Keyed) (hsound : g.defect? = none) :
    (ofGrammar g).toGrammar = .ok g := by
  rw [toGrammar_eq_ok_iff, ← wideKeys_calls]
  exact ⟨wideKeys_ofGrammar g, hsound, tables_ofGrammar hkeyed⟩

end Document
end Highlighter
