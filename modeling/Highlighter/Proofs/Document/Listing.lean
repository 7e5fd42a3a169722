import Mathlib.Data.Prod.Lex
import Mathlib.Data.String.Basic
import Highlighter.Document.Printer
import Highlighter.Proofs.Document.Order
import Highlighter.Proofs.Ordered

/-!
# Listing the tables of a grammar

The tables of a grammar and its sets of words have no order of their own: a walk over them comes upon the
entries in some order (`Grammar.Lists`). The stored form puts the entries in the order of the states and the
words in that of code points, and as no two entries have the same place, it is the same whatever the walk
(`Document.ofListing_eq`). Main statement: `Document.SameEntries.toGrammar_toText`.
-/

namespace Highlighter

/-! ### The places of entries -/

/-- Entries for any target come before those for one. -/
def ProcessorEntry.place (e : ProcessorEntry) : ℕ ×ₗ ℕ :=
  toLex (e.source.index, e.target.elim 0 (·.index + 1))

/-- Edges are ordered by source, then by target. -/
def EdgeEntry.place (e : EdgeEntry) : ℕ ×ₗ ℕ := toLex (e.source.index, e.target.index)

/-- Closures are ordered by state. -/
def ClosureEntry.place (e : ClosureEntry) : ℕ := e.state.index

namespace Grammar

variable {g : Grammar}

/-- The entry stands in the tables of processors. -/
def HasProcessor (g : Grammar) (e : ProcessorEntry) : Prop :=
  match e.target with
  | some target => g.pairProcessor e.source target = some e.processor
  | none => g.exitProcessor e.source = some e.processor

/-- The entry stands in the table of edges. -/
def HasEdge (g : Grammar) (e : EdgeEntry) : Prop := g.edge e.source e.target = some e.markup

/-- The entry stands in the table of closures. -/
def HasClosure (g : Grammar) (e : ClosureEntry) : Prop := g.ownClosure e.state = some e.markup

end Grammar

/-- What a walk over the tables and the sets of words of a grammar comes upon. -/
structure Listing where
  processors : List ProcessorEntry
  edges : List EdgeEntry
  closures : List ClosureEntry
  words : List (List String)

/-- The walk in the opposite order. -/
def Listing.reverse (l : Listing) : Listing :=
  ⟨l.processors.reverse, l.edges.reverse, l.closures.reverse, l.words.map .reverse⟩

/-- The walk comes upon every entry and every word once, in whatever order. -/
structure Grammar.Lists (g : Grammar) (l : Listing) : Prop where
  processors : Enumerates g.HasProcessor l.processors
  edges : Enumerates g.HasEdge l.edges
  closures : Enumerates g.HasClosure l.closures
  words : List.Forall₂ (fun s words => Enumerates (· ∈ s.words) words) g.keywords.sets l.words

/-- The document that is written after a walk: the entries are sorted by their places, and the words in
the order of code points. -/
def Document.ofListing (g : Grammar) (l : Listing) : Document :=
  { ofGrammar g with
    processors := l.processors.mergeSort fun e e' => e.place ≤ e'.place
    edges := l.edges.mergeSort fun e e' => e.place ≤ e'.place
    closures := l.closures.mergeSort fun e e' => e.place ≤ e'.place
    keywords := List.zipWith (fun s words => ⟨s.className, words.mergeSort fun v w => v ≤ w⟩)
      g.keywords.sets l.words }

/-- The stored form that is written after a walk. -/
def Grammar.textFrom (g : Grammar) (l : Listing) : String := (Document.ofListing g l).toJson.pretty

namespace Document

variable {g : Grammar} {l : Listing}

/-- Rows that are ordered are so one after the other, if each has its own source. -/
lemma ordered_rows {α : Type} {row : State → List α} {place : α → ℕ ×ₗ ℕ}
    (hsource : ∀ s, ∀ e ∈ row s, (ofLex (place e)).1 = s.index)
    (hrow : ∀ s, (row s).Pairwise (place · < place ·)) :
    (State.all.flatMap row).Pairwise (place · < place ·) := by
  have hall : State.all.Pairwise (·.index < ·.index) := by decide
  refine List.pairwise_flatMap.mpr ⟨fun s _ => hrow s, hall.imp fun hlt e he e' he' => ?_⟩
  rw [Prod.Lex.lt_iff]
  left
  rwa [hsource _ e he, hsource _ e' he']

/-- What is found for one state after the other has strictly increasing places. -/
lemma pairwise_filterMap_all {α β ι : Type} [LT ι] {find : State → Option β} {entry : State → β → α}
    {place : α → ι} (hplace : ∀ s t b b', s.index < t.index → place (entry s b) < place (entry t b')) :
    (State.all.filterMap fun s => (find s).map (entry s)).Pairwise (place · < place ·) := by
  have hall : State.all.Pairwise (·.index < ·.index) := by decide
  refine List.pairwise_filterMap.mpr (hall.imp fun hlt e he e' he' => ?_)
  obtain ⟨b, -, rfl⟩ := Option.map_eq_some_iff.mp he
  obtain ⟨b', -, rfl⟩ := Option.map_eq_some_iff.mp he'
  exact hplace _ _ b b' hlt

/-- The entries written list the processors, in order. -/
lemma ordered_processors (g : Grammar) :
    Ordered ProcessorEntry.place g.HasProcessor (ofGrammar g).processors where
  pairwise := by
    refine ordered_rows (fun s e he => ?_) fun s => ?_
    · obtain ⟨p, -, rfl⟩ | ⟨target, p, -, rfl⟩ := mem_processorsFrom.mp he <;> rfl
    -- the entry for any target comes first, then those for one target after the other
    · refine List.pairwise_append.mpr ⟨?_, pairwise_filterMap_all fun t u p q hlt => ?_, ?_⟩
      · cases g.exitProcessor s <;> simp
      · exact Prod.Lex.toLex_lt_toLex.mpr (.inr ⟨rfl, Nat.succ_lt_succ hlt⟩)
      · intro e he e' he'
        obtain ⟨p, -, rfl⟩ := Option.map_eq_some_iff.mp (Option.mem_toList.mp he)
        obtain ⟨t, -, he'⟩ := List.mem_filterMap.mp he'
        obtain ⟨q, -, rfl⟩ := Option.map_eq_some_iff.mp he'
        exact Prod.Lex.toLex_lt_toLex.mpr (.inr ⟨rfl, Nat.succ_pos _⟩)
  mem_iff e := by
    obtain ⟨source, target, p⟩ := e
    cases target with
    | none => simp [ofGrammar, List.mem_flatMap, mem_processorsFrom, Grammar.HasProcessor]
    | some target => simp [ofGrammar, List.mem_flatMap, mem_processorsFrom, Grammar.HasProcessor]

/-- The entries written list the edges, in order. -/
lemma ordered_edges (g : Grammar) : Ordered EdgeEntry.place g.HasEdge (ofGrammar g).edges where
  pairwise := by
    refine ordered_rows (fun s e he => ?_) fun s => pairwise_filterMap_all fun t u m m' hlt => ?_
    · obtain ⟨target, markup, -, rfl⟩ := mem_edgesFrom.mp he
      rfl
    · exact Prod.Lex.toLex_lt_toLex.mpr (.inr ⟨rfl, hlt⟩)
  mem_iff e := by
    obtain ⟨source, target, markup⟩ := e
    simp [ofGrammar, List.mem_flatMap, mem_edgesFrom, Grammar.HasEdge]

/-- The entries written list the closures, in order. -/
lemma ordered_closures (g : Grammar) :
    Ordered ClosureEntry.place g.HasClosure (ofGrammar g).closures where
  pairwise := pairwise_filterMap_all fun _ _ _ _ hlt => hlt
  mem_iff e := by
    obtain ⟨s, markup⟩ := e
    simp [mem_closures, Grammar.HasClosure]

/-- A set lists its words in order. -/
lemma ordered_words (words : WordSet) : Ordered id (· ∈ words) words.toList where
  pairwise := words.ordered_toList.imp fun hlt => compare_lt_iff_lt.mp hlt
  mem_iff w := by simp

/-- Sorting the words that a walk came upon gives the entries of the sets. -/
lemma zipWith_mergeSort {sets : List KeywordSet} {listed : List (List String)}
    (h : List.Forall₂ (fun s words => Enumerates (· ∈ s.words) words) sets listed) :
    List.zipWith (fun s words => (⟨s.className, words.mergeSort fun v w => v ≤ w⟩ : KeywordEntry))
      sets listed = sets.map fun s => ⟨s.className, s.words.toList⟩ := by
  induction h with
  | nil => rfl
  | @cons s words sets listed hs _ ih =>
    have hwords : words.mergeSort (fun v w => v ≤ w) = s.words.toList :=
      (ordered_words s.words).mergeSort_eq hs
    rw [List.zipWith_cons_cons, List.map_cons, ih, hwords]

/-- Whatever the walk, the document of the grammar is written. -/
lemma ofListing_eq (h : g.Lists l) : ofListing g l = ofGrammar g := by
  rw [ofListing, (ordered_processors g).mergeSort_eq h.processors,
    (ordered_edges g).mergeSort_eq h.edges, (ordered_closures g).mergeSort_eq h.closures,
    zipWith_mergeSort h.words]
  rfl

end Document

namespace Grammar

variable {g : Grammar}

/-- The walk in the order in which the entries are written. -/
def listing (g : Grammar) : Listing where
  processors := (Document.ofGrammar g).processors
  edges := (Document.ofGrammar g).edges
  closures := (Document.ofGrammar g).closures
  words := g.keywords.sets.map (·.words.toList)

/-- The walk in the order of the entries comes upon everything once. -/
lemma lists_listing (g : Grammar) : g.Lists g.listing where
  processors := (Document.ordered_processors g).enumerates
  edges := (Document.ordered_edges g).enumerates
  closures := (Document.ordered_closures g).enumerates
  words := by
    rw [listing, List.forall₂_map_right_iff, List.forall₂_same]
    exact fun s _ => (Document.ordered_words s.words).enumerates

/-- So does the walk in the opposite order. -/
lemma Lists.reverse {l : Listing} (h : g.Lists l) : g.Lists l.reverse where
  processors := h.processors.reverse
  edges := h.edges.reverse
  closures := h.closures.reverse
  words := by
    rw [Listing.reverse, List.forall₂_map_right_iff]
    exact h.words.imp fun _ _ hwords => hwords.reverse

end Grammar

namespace Document

variable {d d' : Document}

/-- The order of the entries does not count, and the stored form has none but its own. Documents with the
same entries, which do not go against each other, are both refused, or both accepted for the same grammar;
then the same text is written for it, whatever the walk over its tables. -/
theorem SameEntries.toGrammar_toText (h : d.SameEntries d') (hd : d.Coherent) :
    (∃ r r', d.toGrammar = .error r ∧ d'.toGrammar = .error r') ∨
      ∃ g, d.toGrammar = .ok g ∧ d'.toGrammar = .ok g ∧
        ∀ l, g.Lists l → g.textFrom l = g.toText := by
  cases hg : d.toGrammar with
  | error r =>
    cases hg' : d'.toGrammar with
    | error r' => exact .inl ⟨r, r', rfl, rfl⟩
    | ok g =>
      rw [← h.toGrammar_eq_ok hd, hg] at hg'
      exact nomatch hg'
  | ok g =>
    refine .inr ⟨g, rfl, (h.toGrammar_eq_ok hd).mp hg, fun l hl => ?_⟩
    rw [Grammar.textFrom, ofListing_eq hl]
    rfl

/-- Comments behind two characters, in two entries or one, and the walk that comes upon everything in the
opposite order. -/
theorem SameEntries.toGrammar_toText_split :
    let d : Document :=
      { name := "settings", initial := .normal,
        transitions := [⟨.normal, "#;", .lineComment⟩, ⟨.lineComment, "\n", .normal⟩],
        wildcards := [⟨.normal, .normal⟩, ⟨.lineComment, .lineComment⟩],
        processors := [⟨.normal, some .lineComment, .keywords⟩, ⟨.lineComment, none, .carryTrigger⟩],
        edges := [⟨.normal, .lineComment, "<span class=\"comment\">"⟩, ⟨.lineComment, .normal, "</span>"⟩],
        closures := [], keywords := [⟨"keyword", ["true", "false"]⟩, ⟨"type", []⟩],
        ignoreCase := false, identChars := "-", defaultProcessor := .keywords }
    let d' : Document :=
      { d with
        transitions := [⟨.normal, ";", .lineComment⟩, ⟨.lineComment, "\n", .normal⟩,
          ⟨.normal, "#", .lineComment⟩]
        wildcards := d.wildcards.reverse
        processors := d.processors.reverse
        edges := d.edges.reverse
        keywords := [⟨"keyword", ["false", "true", "false"]⟩, ⟨"type", []⟩] }
    d.SameEntries d' ∧ d.Coherent ∧ ∃ g, d.toGrammar = .ok g ∧ d'.toGrammar = .ok g ∧
      g.Lists g.listing.reverse ∧ g.textFrom g.listing.reverse = g.toText := by
  intro d d'
  -- the bytes of one state come in one entry or in two: the routes are the same
  have hroutes : d.routes.Perm d'.routes := by decide +kernel
  have hsame : d.SameEntries d' :=
    { name := rfl, initial := rfl, transitions := fun r => hroutes.mem_iff
      wildcards := fun e => List.mem_reverse.symm, processors := fun e => List.mem_reverse.symm
      edges := fun e => List.mem_reverse.symm, closures := fun e => Iff.rfl
      keywords := .cons ⟨rfl, by simp [or_comm]⟩ (.cons ⟨rfl, fun _ => Iff.rfl⟩ .nil)
      ignoreCase := rfl, identChars := rfl, defaultProcessor := rfl }
  have hcoherent : d.Coherent :=
    ⟨by decide +kernel, by decide, by decide, by decide, by decide⟩
  refine ⟨hsame, hcoherent, ?_⟩
  have hbuild : d.toGrammar = .ok d.tables :=
    toGrammar_eq_ok_iff.mpr ⟨by decide +kernel, by decide +kernel, rfl⟩
  obtain ⟨r, r', hr, -⟩ | ⟨g, hg, hg', htext⟩ := hsame.toGrammar_toText hcoherent
  · exact nomatch hbuild.symm.trans hr
  · have hlists := g.lists_listing.reverse
    exact ⟨g, hg, hg', hlists, htext _ hlists⟩

end Document
end Highlighter
