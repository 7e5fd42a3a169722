import Highlighter.Proofs.Keyword.Marking

/-!
# Cutting marked text

A character that is part of no identifier ends every run, so the text can be cut at it and the pieces
marked one by one (`mark_append_cons`). A text of such characters is left as it is
(`mark_eq_self`). So a text can be cut wherever the cut is not inside a word (`mark_append`), into any
number of pieces (`mark_flatten`).
-/

namespace Highlighter.Overlay

variable {k : Overlay} {c : Char}

/-- There is nothing to mark in the empty text. -/
@[simp] lemma mark_nil (k : Overlay) : k.mark [] = [] := by
  unfold mark
  split <;> rfl

/-- A character of no identifier ends the run before it, and a new run begins behind it. -/
lemma pageFrom_append_cons (hc : k.isIdentChar c = false) (run before after : List Char) :
    k.pageFrom run (before ++ c :: after) =
      k.pageFrom run before ++ .char c :: k.pageFrom [] after := by
  induction before generalizing run with
  | nil => simp [pageFrom, hc]
  | cons d before ih =>
    rw [List.cons_append, pageFrom, pageFrom]
    split
    · exact ih _
    · rw [ih, List.append_assoc, List.cons_append]

/-- Text is marked piece by piece around a character that is part of no identifier. -/
lemma mark_append_cons (hc : k.isIdentChar c = false) (before after : List Char) :
    k.mark (before ++ c :: after) = k.mark before ++ c :: k.mark after := by
  unfold mark
  split
  · rfl
  · have hpage : ∀ text, k.markFrom [] [] text = (k.pageFrom [] text).spell Page.plain :=
      spell_pageFrom [] []
    rw [hpage, hpage, hpage, pageFrom_append_cons hc, Page.spell_append]
    simp [Page.spell, Page.plain]

/-- A character of no identifier is written as it stands. -/
lemma mark_cons (hc : k.isIdentChar c = false) (text : List Char) :
    k.mark (c :: text) = c :: k.mark text := by
  simpa using mark_append_cons hc [] text

/-- Characters that are part of no identifier are left as they are. -/
lemma mark_eq_self {text : List Char} (h : ∀ c ∈ text, k.isIdentChar c = false) :
    k.mark text = text := by
  induction text with
  | nil => exact mark_nil k
  | cons c text ih =>
    rw [mark_cons (h c List.mem_cons_self), ih fun d hd => h d (List.mem_cons_of_mem _ hd)]

/-- No word goes on from one text to the next: of the two characters where they meet, one is part of no
identifier. -/
def Apart (k : Overlay) (before after : List Char) : Prop :=
  ∀ c ∈ before.getLast?, ∀ d ∈ after.head?, k.isIdentChar c = false ∨ k.isIdentChar d = false

instance (k : Overlay) (before after : List Char) : Decidable (k.Apart before after) :=
  decidable_of_iff
    (before.getLast?.all fun c => after.head?.all fun d => !k.isIdentChar c || !k.isIdentChar d)
    (by simp [Apart, Option.all_eq_true])

variable {before middle after : List Char}

/-- Texts that are apart are so when the second one is cut off. -/
lemma Apart.of_append (h : k.Apart before (middle ++ after)) : k.Apart before middle := by
  intro c hc d hd
  refine h c hc d ?_
  rw [List.head?_append, Option.mem_def.mp hd]
  rfl

/-- Texts that are apart are so when the first one begins later. -/
lemma Apart.of_append_left (h : k.Apart (before ++ middle) after) : k.Apart middle after := by
  intro c hc d hd
  refine h c ?_ d hd
  rw [List.getLast?_append, Option.mem_def.mp hc]
  rfl

/-- Two texts that no word joins are marked one by one. -/
lemma mark_append (h : k.Apart before after) :
    k.mark (before ++ after) = k.mark before ++ k.mark after := by
  rcases List.eq_nil_or_concat before with rfl | ⟨init, c, rfl⟩
  · rw [mark_nil]
    rfl
  cases after with
  | nil => rw [mark_nil, List.append_nil, List.append_nil]
  | cons d rest =>
    have hmeet := h c (by simp) d rfl
    rcases hmeet with hc | hd
    · rw [List.concat_eq_append, List.append_assoc, List.singleton_append, mark_append_cons hc,
        mark_append_cons hc, mark_nil, List.append_assoc]
      rfl
    · rw [mark_append_cons hd, mark_cons hd]

/-- No word goes on across a join of the texts: wherever they are parted into two, the character in
front of the join or the one behind it, if there are both, is part of no identifier. An empty text has no
characters of its own, so that the join is between those around it. -/
def JoinsApart (k : Overlay) (texts : List (List Char)) : Prop :=
  ∀ n, k.Apart (texts.take n).flatten (texts.drop n).flatten

instance (k : Overlay) (texts : List (List Char)) : Decidable (k.JoinsApart texts) :=
  decidable_of_iff (∀ n < texts.length, k.Apart (texts.take n).flatten (texts.drop n).flatten) <| by
    refine ⟨fun h n => ?_, fun h n _ => h n⟩
    by_cases hn : n < texts.length
    · exact h n hn
    · rw [List.drop_eq_nil_of_le (Nat.not_lt.mp hn)]
      exact fun _ _ _ hd => nomatch hd

variable {text : List Char} {texts : List (List Char)}

/-- The first text is apart from the others. -/
lemma JoinsApart.head (h : k.JoinsApart (text :: texts)) : k.Apart text texts.flatten := by
  have hfirst := h 1
  rwa [List.take_succ_cons, List.take_zero, List.flatten_singleton, List.drop_succ_cons,
    List.drop_zero] at hfirst

/-- The others are apart from each other. -/
lemma JoinsApart.tail (h : k.JoinsApart (text :: texts)) : k.JoinsApart texts := by
  intro n
  have hnext := h (n + 1)
  rw [List.take_succ_cons, List.flatten_cons, List.drop_succ_cons] at hnext
  exact hnext.of_append_left

/-- Texts across whose joins no word goes on are marked one by one. -/
theorem mark_flatten (h : k.JoinsApart texts) : k.mark texts.flatten = texts.flatMap k.mark := by
  induction texts with
  | nil => exact mark_nil k
  | cons text texts ih =>
    calc k.mark (text :: texts).flatten
        = k.mark (text ++ texts.flatten) := by rw [List.flatten_cons]
      _ = k.mark text ++ k.mark texts.flatten := mark_append h.head
      _ = k.mark text ++ texts.flatMap k.mark := by rw [ih h.tail]
      _ = (text :: texts).flatMap k.mark := List.flatMap_cons.symm

/-- A join behind a word, one in front of a wide word, two around an empty text. -/
theorem mark_flatten_pieces :
    let k := empty.addWords "keyword" ["if", "été"]
    let texts := ["if".toList, "/*".toList, "été".toList, [], "→if".toList]
    k.JoinsApart texts ∧ k.mark texts.flatten = texts.flatMap k.mark := by
  intro k texts
  have hjoins : k.JoinsApart texts := by decide +kernel
  exact ⟨hjoins, mark_flatten hjoins⟩

end Highlighter.Overlay
