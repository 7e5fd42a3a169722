import Highlighter.Proofs.Grammar.Building

/-!
# The order of the entries

The order in which a document lists its entries does not count, nor does it count how the characters of
its transitions are shared out among entries, or how often a word comes: where no two entries tell
different things about one place, documents with the same entries have the same tables
(`Document.SameEntries.tables_eq`) and are accepted together (`Document.SameEntries.toGrammar_eq_ok`).
-/

namespace Highlighter

open Utf8

section Latest

variable {ε ε' β : Type} {p : ε → Prop} [DecidablePred p] {p' : ε' → Prop} [DecidablePred p']
  {value : ε → β} {value' : ε' → β} {entries : List ε} {entries' : List ε'} {b : β}

/-- One of the entries with a property tells the value. -/
def Tells (p : ε → Prop) (value : ε → β) (entries : List ε) (b : β) : Prop :=
  ∃ e ∈ entries, p e ∧ value e = b

/-- The latest value is the one from before or is told by an entry. -/
lemma tells_of_latest {start : Option β} (h : latest p value start entries = some b) :
    start = some b ∨ Tells p value entries b := by
  induction entries generalizing start with
  | nil => exact .inl h
  | cons e entries ih =>
    obtain hstart | ⟨e', he', htells⟩ := ih h
    · by_cases hp : p e
      · simp only [if_pos hp] at hstart
        exact .inr ⟨e, List.mem_cons_self, hp, Option.some.inj hstart⟩
      · simp only [if_neg hp] at hstart
        exact .inl hstart
    · exact .inr ⟨e', List.mem_cons_of_mem _ he', htells⟩

/-- Entries that tell at most one value tell the last one wherever they stand. -/
lemma latest_eq_some_iff
    (hone : ∀ b b', Tells p value entries b → Tells p value entries b' → b = b') :
    latest p value none entries = some b ↔ Tells p value entries b := by
  constructor
  · intro h
    exact (tells_of_latest h).resolve_left nofun
  · rintro ⟨e, he, hp, rfl⟩
    refine latest_none_eq (fun e' he' hp' => ?_) fun _ _ => ⟨e, he, hp⟩
    exact congrArg some (hone _ _ ⟨e, he, hp, rfl⟩ ⟨e', he', hp', rfl⟩)

/-- Entries that tell the same, and one thing only, have the same latest value. -/
lemma latest_congr (hone : ∀ b b', Tells p value entries b → Tells p value entries b' → b = b')
    (hsame : ∀ b, Tells p value entries b ↔ Tells p' value' entries' b) :
    latest p value none entries = latest p' value' none entries' := by
  have hone' : ∀ b b', Tells p' value' entries' b → Tells p' value' entries' b' → b = b' := by
    simpa only [hsame] using hone
  refine Option.ext fun b => ?_
  rw [latest_eq_some_iff hone, latest_eq_some_iff hone', hsame]

/-- Lists with the same entries, of which those with the property agree. -/
lemma latest_congr_mem {entries' : List ε} (hmem : ∀ e, e ∈ entries ↔ e ∈ entries')
    (hone : ∀ e ∈ entries, ∀ e' ∈ entries, p e → p e' → value e = value e') :
    latest p value none entries = latest p value none entries' := by
  refine latest_congr ?_ fun b => by simp only [Tells, hmem]
  rintro _ _ ⟨e, he, hp, rfl⟩ ⟨e', he', hp', rfl⟩
  exact hone e he e' he' hp hp'

end Latest

/-! ### Words -/

/-- The entries have the same class and the same words, in any order and number. -/
structure KeywordEntry.SameWords (e e' : KeywordEntry) : Prop where
  className : e.className = e'.className
  words : ∀ w, w ∈ e.words ↔ w ∈ e'.words

namespace Overlay

variable {words words' : List String} {k : Overlay}

/-- Adding words to a class does not hang on their order or number. -/
lemma add_congr (h : ∀ w, w ∈ words ↔ w ∈ words') (on : Bool) :
    KeywordSet.add on words = KeywordSet.add on words' := by
  funext s
  have hwords : s.words.insertMany words = s.words.insertMany words' :=
    Std.ExtTreeSet.ext_mem fun w => by rw [WordSet.mem_insertMany, WordSet.mem_insertMany, h]
  have hkeys : s.keys.insertMany (words.map (lookupKey on)) =
      s.keys.insertMany (words'.map (lookupKey on)) :=
    Std.ExtTreeSet.ext_mem fun w => by
      simp only [WordSet.mem_insertMany, List.mem_map, h]
  rw [KeywordSet.add, KeywordSet.add, hwords, hkeys]

/-- Adding words does not hang on their order or number. -/
lemma addWords_congr (h : ∀ w, w ∈ words ↔ w ∈ words') (className : String) :
    k.addWords className words = k.addWords className words' := by
  have hadd := add_congr h k.ignoreCase
  have hsets : ∀ sets, addTo k.ignoreCase className words sets =
      addTo k.ignoreCase className words' sets := by
    intro sets
    induction sets with
    | nil => rw [addTo, addTo, hadd]
    | cons s sets ih => rw [addTo, addTo, hadd, ih]
  rw [addWords, addWords, hsets]

/-- Entries with the same words, class by class, make the same overlay. -/
lemma foldl_addWords_congr {entries entries' : List KeywordEntry}
    (h : List.Forall₂ KeywordEntry.SameWords entries entries') :
    entries.foldl (fun k e => k.addWords e.className e.words) k =
      entries'.foldl (fun k e => k.addWords e.className e.words) k := by
  induction h generalizing k with
  | nil => rfl
  | cons he _ ih => rw [List.foldl_cons, List.foldl_cons, he.className, addWords_congr he.words, ih]

end Overlay

/-! ### Documents -/

namespace Document

variable {d d' : Document} {g : Grammar}

/-- The transitions of a document, byte by byte. -/
def routes (d : Document) : List (State × UInt8 × State) :=
  d.transitions.flatMap fun e => (ofString e.on).map fun b => (e.source, b, e.target)

/-- The documents list the same entries. The bytes of transitions may be put together in other ways, words
may come in another order and more or less often, and only the classes of words have to stand in the same
order. -/
structure SameEntries (d d' : Document) : Prop where
  name : d.name = d'.name
  initial : d.initial = d'.initial
  transitions : ∀ r, r ∈ d.routes ↔ r ∈ d'.routes
  wildcards : ∀ e, e ∈ d.wildcards ↔ e ∈ d'.wildcards
  processors : ∀ e, e ∈ d.processors ↔ e ∈ d'.processors
  edges : ∀ e, e ∈ d.edges ↔ e ∈ d'.edges
  closures : ∀ e, e ∈ d.closures ↔ e ∈ d'.closures
  keywords : List.Forall₂ KeywordEntry.SameWords d.keywords d'.keywords
  ignoreCase : d.ignoreCase = d'.ignoreCase
  identChars : d.identChars = d'.identChars
  defaultProcessor : d.defaultProcessor = d'.defaultProcessor

/-- No two entries tell different things about the same place. -/
structure Coherent (d : Document) : Prop where
  transitions : ∀ r ∈ d.routes, ∀ r' ∈ d.routes, r.2.1 < 128 → r.1 = r'.1 → r.2.1 = r'.2.1 →
    r.2.2 = r'.2.2
  wildcards : ∀ e ∈ d.wildcards, ∀ e' ∈ d.wildcards, e.source = e'.source → e.target = e'.target
  processors : ∀ e ∈ d.processors, ∀ e' ∈ d.processors, e.source = e'.source →
    e.target = e'.target → e.processor = e'.processor
  edges : ∀ e ∈ d.edges, ∀ e' ∈ d.edges, e.source = e'.source → e.target = e'.target →
    e.markup = e'.markup
  closures : ∀ e ∈ d.closures, ∀ e' ∈ d.closures, e.state = e'.state → e.markup = e'.markup

/-- A key is told a target exactly when a route of its byte leads there. -/
lemma tells_transitions {s t : State} {k : Key} :
    Tells (fun e : TransitionEntry => s = e.source ∧ e.keys.contains k) (·.target) d.transitions t ↔
      ∃ b : UInt8, b.toNat = k.val ∧ (s, b, t) ∈ d.routes := by
  simp only [Tells, TransitionEntry.keys, List.contains_iff_mem, Key.mem_filterMap_ofByte?, routes,
    List.mem_flatMap, List.mem_map, Prod.mk.injEq]
  constructor
  · rintro ⟨e, he, ⟨rfl, b, hb, hk⟩, rfl⟩
    exact ⟨b, hk, e, he, b, hb, rfl, rfl, rfl⟩
  · rintro ⟨b, hk, e, he, b', hb, rfl, rfl, rfl⟩
    exact ⟨e, he, ⟨rfl, b', hb, hk⟩, rfl⟩

/-- Documents with the same entries have the same tables. -/
lemma SameEntries.tables_eq (h : d.SameEntries d') (hd : d.Coherent) : d.tables = d'.tables := by
  have hexplicit : ∀ (s : State) (k : Key),
      latest (fun e => s = e.source ∧ e.keys.contains k) (·.target) none d.transitions =
        latest (fun e => s = e.source ∧ e.keys.contains k) (·.target) none d'.transitions := by
    intro s k
    refine latest_congr ?_ fun t => by simp only [tells_transitions, h.transitions]
    simp only [tells_transitions]
    rintro t t' ⟨b, hk, hr⟩ ⟨b', hk', hr'⟩
    have hb : b < 128 := UInt8.lt_iff_toNat_lt.mpr (hk ▸ k.isLt)
    exact hd.transitions _ hr _ hr' hb rfl (UInt8.toNat_inj.mp (hk.trans hk'.symm))
  have hwildcard : ∀ s : State, latest (s = ·.source) (·.target) none d.wildcards =
      latest (s = ·.source) (·.target) none d'.wildcards := fun s =>
    latest_congr_mem h.wildcards fun e he e' he' hp hp' =>
      hd.wildcards e he e' he' (hp.symm.trans hp')
  have hprocessor : ∀ (s : State) (t : Option State),
      latest (fun e => s = e.source ∧ t = e.target) (·.processor) none d.processors =
        latest (fun e => s = e.source ∧ t = e.target) (·.processor) none d'.processors := fun s t =>
    latest_congr_mem h.processors fun e he e' he' hp hp' =>
      hd.processors e he e' he' (hp.1.symm.trans hp'.1) (hp.2.symm.trans hp'.2)
  have hedge : ∀ s t : State,
      latest (fun e => s = e.source ∧ t = e.target) (·.markup) none d.edges =
        latest (fun e => s = e.source ∧ t = e.target) (·.markup) none d'.edges := fun s t =>
    latest_congr_mem h.edges fun e he e' he' hp hp' =>
      hd.edges e he e' he' (hp.1.symm.trans hp'.1) (hp.2.symm.trans hp'.2)
  have hclosure : ∀ s : State, latest (s = ·.state) (·.markup) none d.closures =
      latest (s = ·.state) (·.markup) none d'.closures := fun s =>
    latest_congr_mem h.closures fun e he e' he' hp hp' =>
      hd.closures e he e' he' (hp.symm.trans hp')
  simp only [tables, hexplicit, hwildcard, hprocessor, hedge, hclosure, h.name, h.initial,
    h.ignoreCase, h.identChars, h.defaultProcessor, Overlay.foldl_addWords_congr h.keywords]

/-- The transitions leave no wide key when all routes are of ASCII bytes. -/
lemma flatMap_wideKeys_eq_nil :
    d.transitions.flatMap (·.call.wideKeys) = [] ↔ ∀ r ∈ d.routes, r.2.1 < 128 := by
  simp only [TransitionEntry.call, Call.wideKeys, List.flatMap_eq_nil_iff, List.map_eq_nil_iff,
    List.filter_eq_nil_iff, decide_eq_true_eq, UInt8.not_le, routes, List.mem_flatMap, List.mem_map]
  constructor
  · rintro h _ ⟨e, he, b, hb, rfl⟩
    exact h e he b hb
  · exact fun h e he b hb => h _ ⟨e, he, b, hb, rfl⟩

/-- Documents with the same entries are accepted together, for the same grammar. -/
lemma SameEntries.toGrammar_eq_ok (h : d.SameEntries d') (hd : d.Coherent) :
    d.toGrammar = .ok g ↔ d'.toGrammar = .ok g := by
  rw [toGrammar_eq_ok_iff, toGrammar_eq_ok_iff, flatMap_wideKeys_eq_nil, flatMap_wideKeys_eq_nil,
    h.tables_eq hd]
  simp only [h.transitions]

end Document
end Highlighter
