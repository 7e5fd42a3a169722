import Mathlib.Data.List.SplitBy
import Highlighter.Proofs.Keyword.Cutting
import Highlighter.Proofs.Keyword.Keys

/-!
# Marking run by run

A text falls into runs of identifier characters, as long as they can be, and single other characters, and
there is one way only to cut it so (`Overlay.cut_iff`). Each part is written on its own
(`Overlay.Cut.exists_written`), and a run is known to the first set that has it among its words, up to
case where case does not matter (`Overlay.Keyed.classify_eq_some_iff`). Main statement:
`Overlay.mark_parts`.
-/

namespace Highlighter

/-- The two words are equal, or equal in small letters where case does not matter. -/
def SameWord (ignoreCase : Bool) (v w : String) : Prop :=
  if ignoreCase then Unicode.lowercase v = Unicode.lowercase w else v = w

/-- Two words have one key exactly when the case rule takes them for the same. -/
lemma lookupKey_eq_iff {ignoreCase : Bool} {v w : String} :
    lookupKey ignoreCase v = lookupKey ignoreCase w ↔ SameWord ignoreCase v w := by
  cases ignoreCase with
  | false => rfl
  | true => rfl

/-- One of the words of the set is the word. -/
def KeywordSet.Holds (ignoreCase : Bool) (s : KeywordSet) (word : List Char) : Prop :=
  ∃ v ∈ s.words, SameWord ignoreCase v (String.ofList word)

/-- A set is asked for the key of a word when it is asked for the word. -/
lemma KeywordSet.Keyed.mem_keys_iff {ignoreCase : Bool} {s : KeywordSet} (h : s.Keyed ignoreCase)
    (word : List Char) :
    lookupKey ignoreCase (String.ofList word) ∈ s.keys ↔ s.Holds ignoreCase word := by
  rw [KeywordSet.Keyed] at h
  rw [h, WordSet.mem_map]
  simp only [lookupKey_eq_iff]
  rfl

namespace Overlay

variable {k : Overlay} {c : Char} {run text : List Char} {className : String}
  {parts : List (List Char)}

/-- The overlays that there are: the one that marks nothing, and what changes make of another one. -/
inductive Made : Overlay → Prop
  | empty : Made empty
  | addWords {k : Overlay} (h : Made k) (className : String) (words : List String) :
    Made (k.addWords className words)
  | clearSets {k : Overlay} (h : Made k) : Made k.clearSets
  | setIgnoreCase {k : Overlay} (h : Made k) (on : Bool) : Made (k.setIgnoreCase on)
  | setExtraIdentChars {k : Overlay} (h : Made k) (chars : String) : Made (k.setExtraIdentChars chars)

/-- Every overlay that there is has the keys of its words. -/
lemma Made.keyed (h : k.Made) : k.Keyed := by
  induction h with
  | empty => exact keyed_empty
  | addWords _ className words ih => exact ih.addWords className words
  | clearSets _ _ => exact keyed_clearSets _
  | setIgnoreCase _ on ih => exact ih.setIgnoreCase on
  | setExtraIdentChars _ chars ih => exact ih.setExtraIdentChars chars

/-! ### The class of a word -/

/-- The first set that holds the word, in the order of declaration, has the class. -/
def Names (k : Overlay) (word : List Char) (className : String) : Prop :=
  ∃ before s after, k.sets = before ++ s :: after ∧ s.className = className ∧
    s.Holds k.ignoreCase word ∧ ∀ s' ∈ before, ¬ s'.Holds k.ignoreCase word

/-- A word has the class of the first set that holds it. -/
lemma Keyed.classify_eq_some_iff (h : k.Keyed) :
    k.classify (String.ofList run) = some className ↔ k.Names run className := by
  simp only [classify, Option.map_eq_some_iff, List.find?_eq_some_iff_append, Bool.not_eq_true',
    decide_eq_true_eq, decide_eq_false_iff_not]
  constructor
  · rintro ⟨s, ⟨hkey, before, after, hsets, hbefore⟩, hclass⟩
    have hkeyed : ∀ s' ∈ before ++ s :: after, s'.Keyed k.ignoreCase := hsets ▸ h.keyed
    refine ⟨before, s, after, hsets, hclass, ((hkeyed s (by simp)).mem_keys_iff run).mp hkey, ?_⟩
    intro s' hs' hholds
    exact hbefore s' hs' (((hkeyed s' (by simp [hs'])).mem_keys_iff run).mpr hholds)
  · rintro ⟨before, s, after, hsets, hclass, hholds, hbefore⟩
    have hkeyed : ∀ s' ∈ before ++ s :: after, s'.Keyed k.ignoreCase := hsets ▸ h.keyed
    refine ⟨s, ⟨((hkeyed s (by simp)).mem_keys_iff run).mpr hholds, before, after, hsets, ?_⟩, hclass⟩
    intro s' hs' hkey
    exact hbefore s' hs' (((hkeyed s' (by simp [hs'])).mem_keys_iff run).mp hkey)

/-- A word has no class exactly when no set holds it. -/
lemma Keyed.classify_eq_none_iff (h : k.Keyed) :
    k.classify (String.ofList run) = none ↔ ∀ s ∈ k.sets, ¬ s.Holds k.ignoreCase run := by
  simp only [classify, Option.map_eq_none_iff, List.find?_eq_none, decide_eq_true_eq]
  refine forall₂_congr fun s hs => ?_
  rw [(h.keyed s hs).mem_keys_iff]

/-! ### Runs and other characters -/

/-- Some characters, all of which belong to identifiers. -/
def IsRun (k : Overlay) (run : List Char) : Prop := run ≠ [] ∧ ∀ c ∈ run, k.isIdentChar c

/-- The text is cut into runs of identifier characters, no two of which stand side by side, and single
other characters. -/
structure Cut (k : Overlay) (text : List Char) (parts : List (List Char)) : Prop where
  flatten : text = parts.flatten
  part : ∀ p ∈ parts, k.IsRun p ∨ ∃ c, p = [c] ∧ k.isIdentChar c = false
  longest : parts.IsChain fun p q => ¬ (k.IsRun p ∧ k.IsRun q)

/-- Both characters belong to identifiers, so that no cut goes between them. -/
def joins (k : Overlay) (c d : Char) : Bool := k.isIdentChar c && k.isIdentChar d

/-- One identifier character is a run. -/
lemma isRun_singleton (hc : k.isIdentChar c) : k.IsRun [c] :=
  ⟨List.cons_ne_nil _ _, List.forall_mem_singleton.mpr hc⟩

/-- Nothing is cut inside a run. -/
lemma IsRun.isChain (h : k.IsRun run) : run.IsChain fun c d => k.joins c d :=
  List.Pairwise.isChain <| List.pairwise_of_forall_mem_list fun c hc d hd => by
    simp [joins, h.2 c hc, h.2 d hd]

/-- Characters that are joined make up a run, if there are at least two of them. -/
lemma isRun_or_of_isChain {p : List Char} (hp : p ≠ []) (h : p.IsChain fun c d => k.joins c d) :
    k.IsRun p ∨ ∃ c, p = [c] ∧ k.isIdentChar c = false := by
  induction p with
  | nil => exact absurd rfl hp
  | cons c p ih =>
    cases p with
    | nil =>
      cases hc : k.isIdentChar c with
      | true => exact .inl (isRun_singleton hc)
      | false => exact .inr ⟨c, rfl, hc⟩
    | cons d p =>
      -- the first two characters are joined, so the second one does not stand alone
      obtain ⟨hjoins, htail⟩ := List.isChain_cons_cons.mp h
      obtain ⟨hc, hd⟩ := Bool.and_eq_true_iff.mp hjoins
      refine .inl ⟨List.cons_ne_nil _ _, List.forall_mem_cons.mpr ⟨hc, ?_⟩⟩
      obtain hrun | ⟨e, he, hident⟩ := ih (List.cons_ne_nil _ _) htail
      · exact hrun.2
      · obtain ⟨rfl, -⟩ := List.cons.inj he
        exact absurd hd (by simp [hident])

/-- No part of a cut is empty. -/
lemma Cut.ne_nil (h : k.Cut text parts) : ∀ p ∈ parts, p ≠ [] := fun p hp => by
  obtain hrun | ⟨c, rfl, -⟩ := h.part p hp
  · exact hrun.1
  · exact List.cons_ne_nil _ _

/-- Between two parts that are not both runs there is a cut. -/
lemma joins_eq_false_of_not_runs {p q : List Char} (hp : p ≠ []) (hq : q ≠ [])
    (hpart : k.IsRun p ∨ ∃ c, p = [c] ∧ k.isIdentChar c = false)
    (hpart' : k.IsRun q ∨ ∃ c, q = [c] ∧ k.isIdentChar c = false) (h : ¬ (k.IsRun p ∧ k.IsRun q)) :
    k.joins (p.getLast hp) (q.head hq) = false := by
  obtain hrun | ⟨c, rfl, hc⟩ := hpart
  · obtain hrun' | ⟨d, rfl, hd⟩ := hpart'
    · exact absurd ⟨hrun, hrun'⟩ h
    · simp [joins, hd]
  · simp [joins, hc]

/-- There is one way only to cut a text. -/
lemma cut_iff : k.Cut text parts ↔ text.splitBy k.joins = parts := by
  rw [List.splitBy_eq_iff]
  constructor
  · intro h
    refine ⟨h.flatten, fun hnil => h.ne_nil [] hnil rfl, fun p hp => ?_, ?_⟩
    · obtain hrun | ⟨c, rfl, -⟩ := h.part p hp
      · exact hrun.isChain
      · exact List.isChain_singleton c
    · refine h.longest.imp_of_mem_imp fun p q hp hq hruns => ?_
      exact ⟨h.ne_nil p hp, h.ne_nil q hq,
        joins_eq_false_of_not_runs _ _ (h.part p hp) (h.part q hq) hruns⟩
  · rintro ⟨hflatten, hnil, hparts, hjoins⟩
    refine ⟨hflatten, fun p hp => ?_, hjoins.imp ?_⟩
    · exact isRun_or_of_isChain (fun h => hnil (h ▸ hp)) (hparts p hp)
    · rintro p q ⟨hp, hq, hfalse⟩ ⟨hrun, hrun'⟩
      refine absurd hfalse ?_
      simp [joins, hrun.2 _ (List.getLast_mem hp), hrun'.2 _ (List.head_mem hq)]

/-- No word goes on from one part of a cut to the next. -/
lemma Cut.apart {p : List Char} (h : k.Cut text (p :: parts)) : k.Apart p parts.flatten := by
  cases parts with
  | nil => exact fun _ _ _ hd => absurd hd (by simp)
  | cons q parts =>
    have hp := h.ne_nil p (by simp)
    have hq := h.ne_nil q (by simp)
    have hjoins := joins_eq_false_of_not_runs hp hq (h.part p (by simp)) (h.part q (by simp))
      (List.isChain_cons_cons.mp h.longest).1
    intro c hc d hd
    rw [List.getLast?_eq_some_getLast hp, Option.mem_some] at hc
    rw [List.flatten_cons, List.head?_append, List.head?_eq_some_head hq, Option.some_or,
      Option.mem_some] at hd
    subst hc hd
    exact Bool.and_eq_false_iff.mp hjoins

/-- The parts behind the first are the cut of the text behind it. -/
lemma Cut.tail {p : List Char} (h : k.Cut text (p :: parts)) : k.Cut parts.flatten parts :=
  ⟨rfl, fun q hq => h.part q (List.mem_cons_of_mem _ hq), h.longest.tail⟩

/-! ### Writing the parts -/

/-- What is written for a part of a text. -/
inductive Writes (k : Overlay) : List Char → List Char → Prop
  /-- Other characters are written as they are. -/
  | other {c : Char} (hc : k.isIdentChar c = false) : Writes k [c] [c]
  /-- A known word is wrapped, in the spelling that it has in the text. -/
  | known {run : List Char} {className : String} (hrun : k.IsRun run) (h : k.Names run className) :
    Writes k run (Span.wrap className run)
  /-- A run that no set holds is written as it is. -/
  | unknown {run : List Char} (hrun : k.IsRun run) (h : ∀ s ∈ k.sets, ¬ s.Holds k.ignoreCase run) :
    Writes k run run

/-- An overlay without sets classifies nothing. -/
lemma classify_of_isEmpty (h : k.sets.isEmpty) (word : String) : k.classify word = none := by
  rw [classify, List.isEmpty_iff.mp h]
  rfl

/-- A text of identifier characters is one run up to its end. -/
lemma markFrom_of_ident {done : List Char} (h : ∀ c ∈ text, k.isIdentChar c) :
    k.markFrom done run text = (k.closeRun done (text.reverse ++ run)).reverse := by
  induction text generalizing run with
  | nil => rfl
  | cons c text ih =>
    rw [List.forall_mem_cons] at h
    rw [markFrom, if_pos h.1, ih h.2, List.reverse_cons, List.append_assoc, List.singleton_append]

/-- A run is looked up as a whole. -/
lemma mark_of_isRun (h : k.IsRun run) : k.mark run = k.markWord run := by
  unfold mark
  split
  · rename_i hsets
    rw [markWord, classify_of_isEmpty hsets]
  · rw [markFrom_of_ident h.2, closeRun, List.append_nil, List.reverse_reverse,
      if_neg (by simpa using h.1), List.append_nil, List.reverse_reverse]

/-- A run is written in a span of its class if it has one, and as it stands otherwise. -/
lemma Keyed.writes_markWord (hk : k.Keyed) (h : k.IsRun run) : k.Writes run (k.markWord run) := by
  unfold markWord
  split
  · rename_i className hclass
    exact .known h (hk.classify_eq_some_iff.mp hclass)
  · rename_i hclass
    exact .unknown h (hk.classify_eq_none_iff.mp hclass)

/-- Each part of a cut is written as it should be. -/
lemma Keyed.writes_mark (hk : k.Keyed) {p : List Char}
    (h : k.IsRun p ∨ ∃ c, p = [c] ∧ k.isIdentChar c = false) : k.Writes p (k.mark p) := by
  obtain hrun | ⟨c, rfl, hc⟩ := h
  · rw [mark_of_isRun hrun]
    exact hk.writes_markWord hrun
  · rw [mark_eq_self (List.forall_mem_singleton.mpr hc)]
    exact .other hc

/-- A text is written part by part. -/
lemma Cut.exists_written (hk : k.Keyed) (h : k.Cut text parts) :
    ∃ written, List.Forall₂ k.Writes parts written ∧ k.mark text = written.flatten := by
  induction parts generalizing text with
  | nil =>
    obtain rfl : text = [] := h.flatten
    exact ⟨[], .nil, mark_nil k⟩
  | cons p parts ih =>
    obtain ⟨written, hwritten, hmark⟩ := ih h.tail
    refine ⟨k.mark p :: written, .cons (hk.writes_mark (h.part p List.mem_cons_self)) hwritten, ?_⟩
    rw [h.flatten, List.flatten_cons, mark_append h.apart, hmark, List.flatten_cons]

/-- An overlay without sets leaves the text as it is. -/
lemma markFrom_of_isEmpty (h : k.sets.isEmpty) (done run text : List Char) :
    k.markFrom done run text = done.reverse ++ (run.reverse ++ text) := by
  have hclose : ∀ done run, k.closeRun done run = run ++ done := by
    intro done run
    rw [closeRun, markWord, classify_of_isEmpty h, List.reverse_reverse]
    cases run <;> rfl
  induction text generalizing done run with
  | nil => simp [markFrom, hclose]
  | cons c text ih =>
    rw [markFrom]
    split
    · simp [ih]
    · simp [ih, hclose]

/-- Looking for words where there are none to find writes the text as it is. -/
lemma markFrom_eq_mark (text : List Char) : k.markFrom [] [] text = k.mark text := by
  unfold mark
  split
  · rename_i h
    exact markFrom_of_isEmpty h [] [] text
  · rfl

/-- A text is cut in one way into runs of identifier characters, as long as they can be, and single
other characters, and marking writes these one after the other: a run in a span of the class of the
first set that holds it, in its own spelling, and everything else as it is. Without sets, the text is
written as looking for words would have written it. -/
theorem mark_parts (hk : k.Made) (text : List Char) :
    (∃! parts, k.Cut text parts) ∧
      (∀ parts, k.Cut text parts →
        ∃ written, List.Forall₂ k.Writes parts written ∧ k.mark text = written.flatten) ∧
      k.markFrom [] [] text = k.mark text := by
  refine ⟨⟨text.splitBy k.joins, cut_iff.mpr rfl, fun parts h => (cut_iff.mp h).symm⟩, ?_,
    markFrom_eq_mark text⟩
  exact fun parts h => h.exists_written hk.keyed

/-- Words that differ in case from the one that was declared, one of them inside a longer run. -/
theorem mark_parts_spelling :
    let k := (empty.setIgnoreCase true).addWords "keyword" ["Begin"]
    let parts := ["begin2".toList, [' '], "BEGIN".toList]
    k.Made ∧ k.Cut "begin2 BEGIN".toList parts ∧
      ∃ written, List.Forall₂ k.Writes parts written ∧
        k.mark "begin2 BEGIN".toList = written.flatten := by
  intro k parts
  have hk : k.Made := (Made.empty.setIgnoreCase true).addWords "keyword" ["Begin"]
  have hcut : k.Cut "begin2 BEGIN".toList parts := cut_iff.mpr (by decide +kernel)
  exact ⟨hk, hcut, (mark_parts hk _).2.1 parts hcut⟩

end Overlay
end Highlighter
