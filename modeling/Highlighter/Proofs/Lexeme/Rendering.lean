import Mathlib.Tactic.SplitIfs
import Highlighter.Proofs.Keyword.Cutting
import Highlighter.Proofs.Lexeme.Basic

/-!
# Rendered lexemes, step by step

What is rendered of a text, one character after the other: a plain character goes to the run before
it (`rendered_cons_plain`), an opener ends the run (`rendered_cons_opened`), and the body of a
construct comes up to its end (`ended_cons`). The run can be written before the
rest is known where a character is part of no identifier (`rendered_cons_apart`).
-/

namespace Highlighter

namespace Extent

/-- What a character does to a construct that goes on. -/
inductive Next where
  /-- The construct goes on; `half` tells that the next character is looked at in the light of this
  one. -/
  | on (half : Bool)
  /-- The construct ends with the character. -/
  | through
  /-- The construct ends in front of the character. -/
  | before
  deriving DecidableEq

/-- What a character does; `half` tells that it stands behind the first character of the pair, or
behind a backslash that takes it. -/
def next : Extent → (half : Bool) → Char → Next
  | pair first _, false, c => .on (c = first)
  | pair first last, true, c => if c = last then .through else .on (c = first)
  | stop _ _ _, true, _ => .on false
  | stop chars included escapes, false, c =>
    if escapes ∧ c = '\\' then .on true
    else if c ∉ chars then .on false
    else if included then .through
    else .before

/-- The rest of the construct and the text behind it. -/
def splitRest : Extent → (half : Bool) → List Char → List Char × List Char
  | pair first last, false, text => splitPair first last text
  | pair first last, true, text =>
    if text.head? = some last then ([last], text.tail) else splitPair first last text
  | stop chars included escapes, half, text => splitStop chars included escapes half text

/-- At the start of a construct all of it is still to come. -/
lemma splitRest_false (e : Extent) (text : List Char) : e.splitRest false text = e.split text := by
  cases e <;> rfl

/-- At the end of the text there is nothing to split. -/
lemma splitRest_nil (e : Extent) (half : Bool) : e.splitRest half [] = ([], []) := by
  cases e <;> cases half <;> rfl

/-- Behind the first character of the pair the other one ends the construct. -/
lemma splitPair_first (first last : Char) (rest : List Char) :
    splitPair first last (first :: rest) =
      ((pair first last).splitRest true rest).map (first :: ·) id := by
  rw [splitPair, splitRest]
  split
  · rename_i h
    rw [if_pos h.2]
    rfl
  · rename_i h
    rw [if_neg fun hrest => h ⟨rfl, hrest⟩]

/-- What one character does to the rest of a construct. -/
lemma splitRest_cons (e : Extent) (half : Bool) (c : Char) (rest : List Char) :
    e.splitRest half (c :: rest) =
      match e.next half c with
      | .on half => (e.splitRest half rest).map (c :: ·) id
      | .through => ([c], rest)
      | .before => ([], c :: rest) := by
  cases e with
  | pair first last =>
    -- a character that does not end the pair may begin it again
    have hpair : splitPair first last (c :: rest) =
        ((pair first last).splitRest (c = first) rest).map (c :: ·) id := by
      by_cases hc : c = first
      · subst hc
        rw [decide_eq_true rfl]
        exact splitPair_first c last rest
      · rw [decide_eq_false hc, splitPair, if_neg fun h => hc h.1]
        rfl
    cases half with
    | false => exact hpair
    | true =>
      by_cases hc : c = last
      · simp [splitRest, next, hc]
      · simp only [splitRest, next, List.head?_cons, Option.some.injEq, if_neg hc]
        exact hpair
  | stop chars included escapes =>
    cases half with
    | true => rfl
    | false =>
      simp only [splitRest, splitStop, next, Bool.false_eq_true, if_false]
      split_ifs <;> rfl

end Extent

namespace Lexeme

variable {k : Overlay} {rules : List Rule} {r : Rule} {run rest : List Char} {c : Char}

/-- What is rendered of a text; `run` holds the plain characters just before it, newest first. -/
def rendered (k : Overlay) (rules : List Rule) (run text : List Char) : List Char :=
  render k (lexFrom rules run text)

/-- What is rendered of the rest of a construct and of the text behind it. -/
def ended (k : Overlay) (rules : List Rule) (r : Rule) (half : Bool) (text : List Char) :
    List Char :=
  (r.extent.splitRest half text).1 ++
    (Span.close.toList ++ rendered k rules [] (r.extent.splitRest half text).2)

/-- A run of plain characters is rendered with its words marked. -/
lemma render_ofRun (k : Overlay) (run : List Char) : render k (ofRun run) = k.mark run.reverse := by
  cases run with
  | nil => exact k.mark_nil.symm
  | cons c run => simp [render, write, ofRun]

/-- At the end of the text the run before it is rendered. -/
lemma rendered_nil (run : List Char) : rendered k rules run [] = k.mark run.reverse := by
  rw [rendered, lexFrom, render_ofRun]

/-- A character that opens nothing joins the run. -/
lemma rendered_cons_plain (h : Rule.opening? rules c rest.head? = none) :
    rendered k rules run (c :: rest) = rendered k rules (c :: run) rest := by
  rw [rendered, lexFrom, h]
  rfl

/-- A construct is rendered behind the run before it, from its opener on. -/
lemma rendered_cons_opened (h : Rule.opening? rules c rest.head? = some r) :
    rendered k rules run (c :: rest) = k.mark run.reverse ++
      ((Span.openWith r.className (String.ofList r.opener)).toList ++
        ended k rules r false (r.behind rest)) := by
  rw [rendered, lexFrom, h]
  simp only [render, List.flatMap_append, List.flatMap_cons]
  rw [← render, render_ofRun, ← render, ← rendered]
  simp [write, ended, Span.wrap, Span.openWith, Rule.split, Extent.splitRest_false]

/-- A construct that the text ends in is closed. -/
lemma ended_nil (r : Rule) (half : Bool) : ended k rules r half [] = Span.close.toList := by
  rw [ended, Extent.splitRest_nil, rendered_nil]
  simp

/-- A construct goes on, ends behind a character or ends in front of it. -/
lemma ended_cons (r : Rule) (half : Bool) (c : Char) (rest : List Char) :
    ended k rules r half (c :: rest) =
      match r.extent.next half c with
      | .on half => c :: ended k rules r half rest
      | .through => c :: (Span.close.toList ++ rendered k rules [] rest)
      | .before => Span.close.toList ++ rendered k rules [] (c :: rest) := by
  rw [ended, Extent.splitRest_cons]
  cases r.extent.next half c <;> rfl

/-- The run before a text is marked together with the plain stretch that the text begins with. -/
lemma exists_stretch (k : Overlay) (rules : List Rule) (text : List Char) :
    ∃ stretch tail, ∀ run,
      rendered k rules run text = k.mark (run.reverse ++ stretch) ++ tail := by
  induction text with
  | nil => exact ⟨[], [], fun run => by simp [rendered_nil]⟩
  | cons c rest ih =>
    cases h : Rule.opening? rules c rest.head? with
    | some r => exact ⟨[], _, fun run => by rw [rendered_cons_opened h, List.append_nil run.reverse]⟩
    | none =>
      obtain ⟨stretch, tail, hrest⟩ := ih
      refine ⟨c :: stretch, tail, fun run => ?_⟩
      rw [rendered_cons_plain h, hrest, List.reverse_cons, List.append_assoc]
      rfl

/-- The run can be written in front of a character that is part of no identifier. -/
lemma rendered_cons_apart (hc : k.isIdentChar c = false) (run rest : List Char) :
    rendered k rules run (c :: rest) = k.mark run.reverse ++ rendered k rules [] (c :: rest) := by
  cases h : Rule.opening? rules c rest.head? with
  | some r => simp [rendered_cons_opened h]
  | none =>
    obtain ⟨stretch, tail, hrest⟩ := exists_stretch k rules rest
    rw [rendered_cons_plain h, rendered_cons_plain h, hrest, hrest]
    simp only [List.reverse_cons, List.reverse_nil, List.nil_append, List.append_assoc,
      List.cons_append]
    rw [Overlay.mark_append_cons hc, Overlay.mark_cons hc, List.append_assoc]

end Lexeme
end Highlighter
