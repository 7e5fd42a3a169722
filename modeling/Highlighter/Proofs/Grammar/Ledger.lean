import Highlighter.Grammar.Basic
import Highlighter.Proofs.Keyword.Marking
import Highlighter.Proofs.Markup.Escaping

/-!
# Ledgers

A ledger says what the scanner owes in each state: the text that the state holds back
(`Ledger.held`) and the spans that are open in it (`Ledger.spans`). A grammar keeps a ledger
(`Ledger.Kept`) if each transition pays: what its processor does not write is written by its edge or
held by the state that it leads to, and the markup of the edge takes the open spans of one state to
those of the other. All of this is read off the tables, so that it can be decided.

Main statements: `page_close` and `page_flush`, what a processor that settles a state does with any
segment of that state.
-/

namespace Highlighter

/-- The page with its entities read as the characters that they stand for. -/
def Page.unescaped : Page → Page
  | .char '&' :: .char 'l' :: .char 't' :: .char ';' :: p => .char '<' :: unescaped p
  | .char '&' :: .char 'g' :: .char 't' :: .char ';' :: p => .char '>' :: unescaped p
  | .char '&' :: .char 'a' :: .char 'm' :: .char 'p' :: .char ';' :: p => .char '&' :: unescaped p
  | x :: p => x :: unescaped p
  | [] => []

namespace Processor

/-- The pieces that a processor writes when it ends a segment. -/
def closePage (k : Overlay) (segment : List Char) : Processor → Page
  | raw | escape => Page.text segment
  | keywords => k.page segment
  | trimTrigger => k.page segment.dropLast
  | dropTrigger | escapeTrimTrigger | carryTrigger => Page.text segment.dropLast
  | escapeCarry chars =>
    Page.text (if segment.getLast?.any (chars.toList.contains ·) then segment.dropLast else segment)
  | discard | putback _ => []
  | putbackTrim held => k.page (held.toList ++ segment.dropLast)

/-- The pieces that a processor writes of the segment that the text ends in. -/
def flushPage (k : Overlay) (segment : List Char) : Processor → Page
  | keywords | trimTrigger => k.page segment
  | putback held | putbackTrim held => k.page (held.toList ++ segment)
  | _ => Page.text segment

end Processor

/-- What a scanner owes in its states. -/
structure Ledger where
  /-- Text is written with entities. -/
  escapes : Bool
  /-- The text behind the output and in front of the segment, which the state stands for. -/
  held : State → List Char
  /-- The classes of the spans that are open in a state, innermost first. -/
  spans : State → List String
  /-- Inside some open spans, a span of a class may open. -/
  allows : List String → String → Bool

namespace Ledger

/-- How a character of the text is written. -/
def encode (l : Ledger) : Char → List Char := if l.escapes then Entity.ofChar else Page.plain

/-- The pieces of some markup. -/
def page (l : Ledger) (markup : Option String) : Page :=
  let p := Strip.read (markup.getD "").toList
  if l.escapes then p.unescaped else p

/-- The markup is a page, and takes the open spans from `before` to `after`. -/
def leads (l : Ledger) (markup : Option String) (before after : List String) : Bool :=
  (l.page markup).spell l.encode == (markup.getD "").toList &&
    (l.page markup).nest l.allows before == some after

/-- No text is lost when a processor ends a segment of the state `s`, if the text `typed` stands
behind what it writes. The segment ends with `trigger`, or with any character if there is none. -/
def settles (l : Ledger) (s : State) (typed : List Char) (trigger : Option Char) :
    Processor → Bool
  | .raw | .carryTrigger => !l.escapes && l.held s == [] && typed == []
  | .keywords => !l.escapes && l.held s == [] && typed == [] && l.spans s == []
  | .escape | .escapeCarry _ => l.escapes && l.held s == [] && typed == []
  | .trimTrigger =>
    !l.escapes && l.held s == [] && trigger.map ([·]) == some typed && l.spans s == []
  | .dropTrigger => !l.escapes && trigger.map (l.held s ++ [·]) == some typed
  | .escapeTrimTrigger => l.escapes && l.held s == [] && trigger.map ([·]) == some typed
  | .putback held => !l.escapes && held.toList == l.held s && typed == []
  | .putbackTrim held =>
    !l.escapes && held.toList == l.held s && trigger.map ([·]) == some typed && l.spans s == []
  | .discard => false

/-- No text is lost when a processor writes the segment of the state `s` that the text ends in. -/
def flushes (l : Ledger) (s : State) : Processor → Bool
  | .raw | .dropTrigger | .carryTrigger | .discard => !l.escapes && l.held s == []
  | .keywords | .trimTrigger => !l.escapes && l.held s == [] && l.spans s == []
  | .escape | .escapeTrimTrigger | .escapeCarry _ => l.escapes && l.held s == []
  | .putback held | .putbackTrim held =>
    !l.escapes && held.toList == l.held s && l.spans s == []

/-- The transition from `s` to `t` pays what `s` owes, up to what `t` owes. A state that holds text
goes to itself on that text only. -/
def passes (l : Ledger) (g : Grammar) (s t : State) (trigger : Option Char) : Bool :=
  (g.transitions.wildcard t).isSome &&
    if t = s then l.held s == [] || trigger.map ([·]) == some (l.held s)
    else
      l.leads (g.edge s t) (l.spans s) (l.spans t) &&
        l.settles s ((l.page (g.edge s t)).content ++ l.held t) trigger (g.processor s t)

/-- The markup behind a text that ends in a state. -/
def closing (g : Grammar) (s : State) : Option String :=
  if s = g.initial then none else g.closure s

/-- A text that ends in `s` is written to its end, and its spans are closed. -/
def finishes (l : Ledger) (g : Grammar) (s : State) : Bool :=
  l.leads (closing g s) (l.spans s) [] && (l.page (closing g s)).content == [] &&
    l.flushes s (g.processor s g.initial)

/-- The grammar keeps the ledger in all its states that have a wildcard, and it never leaves
them. -/
structure Kept (l : Ledger) (g : Grammar) : Prop where
  classes : ∀ k ∈ g.keywords.sets, l.allows [] k.className
  initial : (g.transitions.wildcard g.initial).isSome
  held_initial : l.held g.initial = []
  spans_initial : l.spans g.initial = []
  explicit : ∀ s, (g.transitions.wildcard s).isSome → ∀ k t,
    g.transitions.explicit s k = some t → l.passes g s t (some k.toChar)
  wildcard : ∀ s t, g.transitions.wildcard s = some t → l.passes g s t none
  finishes : ∀ s, (g.transitions.wildcard s).isSome → l.finishes g s

/-- Whether the grammar keeps the ledger, found out state by state and key by key. -/
def keeps (l : Ledger) (g : Grammar) : Bool :=
  g.keywords.sets.all (fun k => l.allows [] k.className) &&
  (g.transitions.wildcard g.initial).isSome &&
  l.held g.initial == [] &&
  l.spans g.initial == [] &&
  State.all.all fun s =>
    match g.transitions.wildcard s with
    | none => true
    | some t =>
      l.passes g s t none && l.finishes g s &&
        Key.all.all fun k => (g.transitions.explicit s k).all (l.passes g s · (some k.toChar))

/-- A grammar that passes the check keeps the ledger. -/
lemma kept_of_keeps {l : Ledger} {g : Grammar} (h : l.keeps g) : l.Kept g := by
  simp only [keeps, Bool.and_eq_true, List.all_eq_true, State.mem_all, forall_const,
    beq_iff_eq] at h
  obtain ⟨⟨⟨⟨hclasses, hinitial⟩, hheld⟩, hspans⟩, hstates⟩ := h
  -- what the check says about a state with a wildcard
  have hstate : ∀ s t, g.transitions.wildcard s = some t →
      (l.passes g s t none ∧ l.finishes g s) ∧
        ∀ k, (g.transitions.explicit s k).all (l.passes g s · (some k.toChar)) := by
    intro s t ht
    have hs := hstates s
    rw [ht] at hs
    simpa only [Bool.and_eq_true, List.all_eq_true, Key.mem_all, forall_const] using hs
  refine ⟨hclasses, hinitial, hheld, hspans, ?_, ?_, ?_⟩
  · intro s hs k t ht
    obtain ⟨u, hu⟩ := Option.isSome_iff_exists.mp hs
    have hk := (hstate s u hu).2 k
    rwa [ht] at hk
  · intro s t ht
    exact (hstate s t ht).1.1
  · intro s hs
    obtain ⟨u, hu⟩ := Option.isSome_iff_exists.mp hs
    exact (hstate s u hu).1.2

/-- A segment that stands behind `held` has piled up by going to the same state again: `held` is
empty, or the one character of which the segment consists. -/
def Piled (held segment : List Char) : Prop := held = [] ∨ ∀ c ∈ segment, held = [c]

/-- The empty segment has piled up. -/
lemma piled_nil (held : List Char) : Piled held [] := .inr nofun

/-- What has piled up can stand on either side of what is held. -/
lemma Piled.comm {held segment : List Char} (h : Piled held segment) :
    held ++ segment = segment ++ held := by
  rcases h with rfl | h
  · simp
  · induction segment with
    | nil => simp
    | cons c segment ih =>
      have hc := ih fun d hd => h d (List.mem_cons_of_mem _ hd)
      obtain rfl := h c List.mem_cons_self
      calc [c] ++ c :: segment = c :: ([c] ++ segment) := rfl
        _ = c :: (segment ++ [c]) := by rw [hc]

section Processor

variable {l : Ledger} {k : Overlay} {s : State} {typed segment : List Char}
  {trigger : Option Char} {c : Char}

/-- Where nothing is escaped, text is written as it stands. -/
lemma spell_text_of_plain (h : l.escapes = false) (cs : List Char) :
    (Page.text cs).spell l.encode = cs := by
  simp [encode, h]

/-- Where text is escaped, it is written with entities. -/
lemma spell_text_of_escapes (h : l.escapes = true) (cs : List Char) :
    (Page.text cs).spell l.encode = Entity.escape cs := by
  simp [encode, h, Entity.escape]

/-- Where nothing is escaped, the page of marked text is written as marking does. -/
lemma spell_mark_of_plain (h : l.escapes = false) (cs : List Char) :
    (k.page cs).spell l.encode = k.mark cs := by
  simp [encode, h, Overlay.spell_page]

/-- The trigger of a transition that spells its trigger is the character that was read. -/
lemma eq_of_trigger {f : Char → List Char} (hc : ∀ x ∈ trigger, x = c)
    (h : trigger.map f = some typed) : typed = f c := by
  obtain ⟨x, rfl, rfl⟩ := Option.map_eq_some_iff.mp h
  rw [hc x rfl]

/-- What a processor does with a segment of a state that it settles: it writes a page inside the
open spans; with the text that was typed and the text that it leaves, it makes up all that the state
stood for. -/
lemma page_close (hk : ∀ set ∈ k.sets, l.allows [] set.className) {p : Processor}
    (h : l.settles s typed trigger p) (hc : ∀ x ∈ trigger, x = c)
    (hpiled : Piled (l.held s) segment) :
    (p.closePage k (segment ++ [c])).spell l.encode = (p.close k (segment ++ [c])).written ∧
      (p.closePage k (segment ++ [c])).content ++ typed ++ (p.close k (segment ++ [c])).left
        = l.held s ++ (segment ++ [c]) ∧
      (p.closePage k (segment ++ [c])).nest l.allows (l.spans s) = some (l.spans s) ∧
      (typed = [] ∨ (p.close k (segment ++ [c])).left = []) := by
  -- a processor either writes the trigger itself or leaves it to the edge, so that the last part
  -- tells whether anything can stand behind what is typed
  cases p with
  | raw =>
    simp only [settles, Bool.and_eq_true, Bool.not_eq_true', beq_iff_eq] at h
    obtain ⟨⟨he, hheld⟩, rfl⟩ := h
    refine ⟨spell_text_of_plain he _, ?_, Page.nest_text _ _, .inl rfl⟩
    rw [hheld, Processor.closePage, Page.content_text]
    simp [Processor.close]
  | keywords =>
    simp only [settles, Bool.and_eq_true, Bool.not_eq_true', beq_iff_eq] at h
    obtain ⟨⟨⟨he, hheld⟩, rfl⟩, hspans⟩ := h
    rw [hspans]
    refine ⟨spell_mark_of_plain he _, ?_, Overlay.nest_page hk _, .inl rfl⟩
    rw [hheld, Processor.closePage, Overlay.content_page]
    simp [Processor.close]
  | escape =>
    simp only [settles, Bool.and_eq_true, beq_iff_eq] at h
    obtain ⟨⟨he, hheld⟩, rfl⟩ := h
    refine ⟨spell_text_of_escapes he _, ?_, Page.nest_text _ _, .inl rfl⟩
    rw [hheld, Processor.closePage, Page.content_text]
    simp [Processor.close]
  | trimTrigger =>
    simp only [settles, Bool.and_eq_true, Bool.not_eq_true', beq_iff_eq] at h
    obtain ⟨⟨⟨he, hheld⟩, htyped⟩, hspans⟩ := h
    rw [hspans, eq_of_trigger hc htyped]
    simp only [Processor.closePage, Processor.close, List.dropLast_concat]
    refine ⟨spell_mark_of_plain he _, ?_, Overlay.nest_page hk _, .inr trivial⟩
    simp [hheld, Overlay.content_page]
  | dropTrigger =>
    simp only [settles, Bool.and_eq_true, Bool.not_eq_true', beq_iff_eq] at h
    obtain ⟨he, htyped⟩ := h
    rw [eq_of_trigger hc htyped]
    simp only [Processor.closePage, Processor.close, List.dropLast_concat]
    refine ⟨spell_text_of_plain he _, ?_, Page.nest_text _ _, .inr trivial⟩
    -- the held text is typed behind what piled up, not in front of it
    rw [Page.content_text, List.append_nil, ← List.append_assoc, ← hpiled.comm, List.append_assoc]
  | escapeTrimTrigger =>
    simp only [settles, Bool.and_eq_true, beq_iff_eq] at h
    obtain ⟨⟨he, hheld⟩, htyped⟩ := h
    rw [eq_of_trigger hc htyped]
    simp only [Processor.closePage, Processor.close, List.dropLast_concat]
    refine ⟨spell_text_of_escapes he _, ?_, Page.nest_text _ _, .inr trivial⟩
    simp [hheld]
  | escapeCarry chars =>
    simp only [settles, Bool.and_eq_true, beq_iff_eq] at h
    obtain ⟨⟨he, hheld⟩, rfl⟩ := h
    by_cases hmem : c ∈ chars.toList
    · have hpage : (Processor.escapeCarry chars).closePage k (segment ++ [c]) =
          Page.text segment := by
        simp [Processor.closePage, hmem]
      rw [hpage]
      refine ⟨?_, ?_, Page.nest_text _ _, .inl rfl⟩
      · simp [Processor.close, Option.filter, hmem, spell_text_of_escapes he, -Page.spell_text]
      · simp [Processor.close, Option.filter, hmem, hheld]
    · have hpage : (Processor.escapeCarry chars).closePage k (segment ++ [c]) =
          Page.text (segment ++ [c]) := by
        simp [Processor.closePage, hmem]
      rw [hpage]
      refine ⟨?_, ?_, Page.nest_text _ _, .inl rfl⟩
      · simp [Processor.close, Option.filter, hmem, spell_text_of_escapes he, -Page.spell_text]
      · simp [Processor.close, Option.filter, hmem, hheld]
  | discard => exact absurd h (by simp [settles])
  | putback held =>
    simp only [settles, Bool.and_eq_true, Bool.not_eq_true', beq_iff_eq] at h
    obtain ⟨⟨-, hheld⟩, rfl⟩ := h
    exact ⟨rfl, by simp [Processor.close, Processor.closePage, Page.content, hheld], rfl, .inl rfl⟩
  | putbackTrim held =>
    simp only [settles, Bool.and_eq_true, Bool.not_eq_true', beq_iff_eq] at h
    obtain ⟨⟨⟨he, hheld⟩, htyped⟩, hspans⟩ := h
    rw [hspans, eq_of_trigger hc htyped]
    simp only [Processor.closePage, Processor.close, List.dropLast_concat]
    refine ⟨spell_mark_of_plain he _, ?_, Overlay.nest_page hk _, .inr trivial⟩
    simp [hheld, Overlay.content_page]
  | carryTrigger =>
    simp only [settles, Bool.and_eq_true, Bool.not_eq_true', beq_iff_eq] at h
    obtain ⟨⟨he, hheld⟩, rfl⟩ := h
    simp only [Processor.closePage, Processor.close, List.dropLast_concat]
    refine ⟨spell_text_of_plain he _, ?_, Page.nest_text _ _, .inl trivial⟩
    simp [hheld]

/-- What a processor does with the segment that the text ends in: it writes a page of all that the
state stands for, inside the open spans. -/
lemma page_flush (hk : ∀ set ∈ k.sets, l.allows [] set.className) {p : Processor}
    (h : l.flushes s p) (segment : List Char) :
    (p.flushPage k segment).spell l.encode = p.flush k segment ∧
      (p.flushPage k segment).content = l.held s ++ segment ∧
      (p.flushPage k segment).nest l.allows (l.spans s) = some (l.spans s) := by
  cases p with
  | raw | dropTrigger | carryTrigger | discard =>
    simp only [flushes, Bool.and_eq_true, Bool.not_eq_true', beq_iff_eq] at h
    obtain ⟨he, hheld⟩ := h
    exact ⟨spell_text_of_plain he _, by simp [Processor.flushPage, hheld], Page.nest_text _ _⟩
  | keywords | trimTrigger =>
    simp only [flushes, Bool.and_eq_true, Bool.not_eq_true', beq_iff_eq] at h
    obtain ⟨⟨he, hheld⟩, hspans⟩ := h
    rw [hspans]
    exact ⟨spell_mark_of_plain he _, by simp [Processor.flushPage, hheld, Overlay.content_page],
      Overlay.nest_page hk _⟩
  | escape | escapeTrimTrigger | escapeCarry chars =>
    simp only [flushes, Bool.and_eq_true, beq_iff_eq] at h
    obtain ⟨he, hheld⟩ := h
    exact ⟨spell_text_of_escapes he _, by simp [Processor.flushPage, hheld], Page.nest_text _ _⟩
  | putback held | putbackTrim held =>
    simp only [flushes, Bool.and_eq_true, Bool.not_eq_true', beq_iff_eq] at h
    obtain ⟨⟨he, hheld⟩, hspans⟩ := h
    rw [hspans]
    exact ⟨spell_mark_of_plain he _,
      by simp [Processor.flushPage, ← hheld, Overlay.content_page], Overlay.nest_page hk _⟩

end Processor

end Ledger
end Highlighter
