import Highlighter.Proofs.Grammar.Ledger
import Highlighter.Scan

/-!
# Scanning with a ledger

The scanner of a grammar that keeps a ledger never loses sight of the text: what it has written is a
page, whose text with the text held by the state and the segment is what has been read, and in which
the spans of the state are open (`Ledger.Tracks`). One character preserves this (`Tracks.read`), so a
text does (`Tracks.readAll`), and at its end the page is finished (`Kept.exists_page`).
-/

namespace Highlighter

/-- The key of a character spells the character. -/
lemma Key.toChar_of_ofChar? {k : Key} {c : Char} (h : ofChar? c = some k) : k.toChar = c := by
  unfold ofChar? at h
  split at h
  · obtain rfl := Option.some.inj h
    simp [toChar]
  · exact absurd h (by simp)

namespace Scan

/-- A character that is put by comes last in the segment. -/
lemma segment_push (s : Scan) (c : Char) :
    Scan.segment { s with pending := c :: s.pending } = s.segment ++ [c] := by
  simp [Scan.segment]

/-- Leaving for a state comes to that state. -/
lemma state_leave (g : Grammar) (s : Scan) (t : State) : (s.leave g t).state = t := rfl

/-- Leaving keeps what the processor leaves of the segment. -/
lemma segment_leave (g : Grammar) (s : Scan) (t : State) :
    (s.leave g t).segment = ((g.processor s.state t).close g.keywords s.segment).left := by
  simp [leave, Scan.segment]

end Scan

namespace Ledger

/-- The scanner is where the ledger says after the text `text`. -/
structure Tracks (l : Ledger) (g : Grammar) (text : List Char) (s : Scan) : Prop where
  inside : (g.transitions.wildcard s.state).isSome
  piled : Piled (l.held s.state) s.segment
  page : ∃ p : Page, p.spell l.encode = s.written.toList ∧
    p.content ++ (l.held s.state ++ s.segment) = text ∧
    p.nest l.allows [] = some (l.spans s.state)

/-- The page `p` is what the scanner has written of the text `text`: the text of the page, the text that
the state holds and the segment make up the text, and the spans of the state are open behind the page. -/
structure Wrote (l : Ledger) (text : List Char) (s : Scan) (p : Page) : Prop where
  spell : p.spell l.encode = s.written.toList
  content : p.content ++ (l.held s.state ++ s.segment) = text
  nest : p.nest l.allows [] = some (l.spans s.state)

variable {l : Ledger} {g : Grammar} {text : List Char} {s : Scan} {p : Page}

/-- A scanner that is on track has written some page. -/
lemma Tracks.exists_wrote (h : l.Tracks g text s) : ∃ p, l.Wrote text s p := by
  obtain ⟨p, hspell, hcontent, hnest⟩ := h.page
  exact ⟨p, hspell, hcontent, hnest⟩

/-- Nothing has been written at the start. -/
lemma wrote_start (hl : l.Kept g) : l.Wrote [] (Scan.start g) [] where
  spell := rfl
  content := by simp [Page.content, Scan.start, hl.held_initial, Scan.segment]
  nest := by simp [Page.nest, Scan.start, hl.spans_initial]

/-- The scanner starts on track. -/
lemma tracks_start (hl : l.Kept g) : l.Tracks g [] (Scan.start g) where
  inside := hl.initial
  piled := by
    rw [Scan.start, hl.held_initial]
    exact .inl rfl
  page := ⟨[], (wrote_start hl).spell, (wrote_start hl).content, (wrote_start hl).nest⟩

/-- Markup leads from some open spans to others when its pieces spell it and nest so. -/
lemma leads_iff {markup : Option String} {before after : List String} :
    l.leads markup before after ↔ (l.page markup).spell l.encode = (markup.getD "").toList ∧
      (l.page markup).nest l.allows before = some after := by
  simp [leads]

/-- A transition that the scanner takes pays what its state owes. The trigger in the table is the
character that was read. -/
lemma Kept.passes_next (hl : l.Kept g) {s : State} (hs : (g.transitions.wildcard s).isSome)
    (c : Char) : ∃ trigger : Option Char, (∀ x ∈ trigger, x = c) ∧
      l.passes g s (g.next s c) trigger := by
  -- an entry is about its own key, the wildcard about any character
  cases hentry : g.transitions.entry? s c with
  | some t =>
    obtain ⟨k, hk, ht⟩ := Option.bind_eq_some_iff.mp hentry
    have hnext : g.next s c = t := by simp [Grammar.next, Transitions.next?, hentry]
    refine ⟨some k.toChar, ?_, ?_⟩
    · intro x hx
      rw [← Option.mem_some.mp hx, Key.toChar_of_ofChar? hk]
    · rw [hnext]
      exact hl.explicit s hs k t ht
  | none =>
    obtain ⟨t, ht⟩ := Option.isSome_iff_exists.mp hs
    have hnext : g.next s c = t := by simp [Grammar.next, Transitions.next?, hentry, ht]
    refine ⟨none, nofun, ?_⟩
    rw [hnext]
    exact hl.wildcard s t ht

/-- What a transition that leaves the state has paid. -/
lemma of_passes_leave {s t : State} {trigger : Option Char} (h : l.passes g s t trigger)
    (ht : t ≠ s) : (g.transitions.wildcard t).isSome ∧
      l.leads (g.edge s t) (l.spans s) (l.spans t) ∧
      l.settles s ((l.page (g.edge s t)).content ++ l.held t) trigger (g.processor s t) := by
  simpa only [passes, if_neg ht, Bool.and_eq_true] using h

/-- What a text that ends in the state has paid. -/
lemma of_finishes {s : State} (h : l.finishes g s) :
    l.leads (closing g s) (l.spans s) [] ∧ (l.page (closing g s)).content = [] ∧
      l.flushes s (g.processor s g.initial) := by
  simpa only [finishes, Bool.and_eq_true, beq_iff_eq, and_assoc] using h

/-- Putting a character by writes nothing. -/
lemma Wrote.stay (h : l.Wrote text s p) (c : Char) :
    l.Wrote (text ++ [c]) { s with pending := c :: s.pending } p where
  spell := h.spell
  content := by
    rw [Scan.segment_push, ← h.content]
    simp only [List.append_assoc]
  nest := h.nest

/-- A character on which the state is left ends the segment: the processor and the edge write pages
that follow the one before. -/
lemma Wrote.leave (hl : l.Kept g) (h : l.Wrote text s p)
    (hpiled : Piled (l.held s.state) s.segment) {c : Char} {t : State} {trigger : Option Char}
    (hc : ∀ x ∈ trigger, x = c) (ht : t ≠ s.state) (hpass : l.passes g s.state t trigger) :
    l.Wrote (text ++ [c]) (Scan.leave g { s with pending := c :: s.pending } t)
      (p ++ (g.processor s.state t).closePage g.keywords (s.segment ++ [c]) ++
        l.page (g.edge s.state t)) := by
  obtain ⟨-, hleads, hsettles⟩ := of_passes_leave hpass ht
  obtain ⟨hmarkup, hspans⟩ := leads_iff.mp hleads
  obtain ⟨hwritten, htext, hopen, -⟩ := page_close hl.classes hsettles hc hpiled
  generalize (g.processor s.state t).closePage g.keywords (s.segment ++ [c]) = q at *
  refine ⟨?_, ?_, ?_⟩
  · simp [Scan.leave, Scan.segment_push, h.spell, hwritten, hmarkup]
  -- what the new state holds and what is left of the segment make up for what the old state held
  · calc (p ++ q ++ l.page (g.edge s.state t)).content ++
          (l.held t ++ (Scan.leave g { s with pending := c :: s.pending } t).segment)
        = p.content ++ (q.content ++ ((l.page (g.edge s.state t)).content ++ l.held t) ++
            ((g.processor s.state t).close g.keywords (s.segment ++ [c])).left) := by
          rw [Scan.segment_leave, Scan.segment_push]
          simp only [Page.content_append, List.append_assoc]
      _ = p.content ++ (l.held s.state ++ (s.segment ++ [c])) := by rw [htext]
      _ = text ++ [c] := by rw [← h.content]; simp only [List.append_assoc]
  · rw [Page.nest_append, Page.nest_append, h.nest]
    simp [Scan.leave, hopen, hspans]

/-- The page of the whole text: what was written, the flushed segment and the closing markup. -/
lemma Wrote.finish (hl : l.Kept g) (h : l.Wrote text s p)
    (hinside : (g.transitions.wildcard s.state).isSome) :
    let q := p ++ (g.processor s.state g.initial).flushPage g.keywords s.segment ++
      l.page (closing g s.state)
    q.spell l.encode = (s.finish g).toList ∧ q.content = text ∧ q.nest l.allows [] = some [] := by
  obtain ⟨hleads, hnone, hflushes⟩ := of_finishes (hl.finishes s.state hinside)
  obtain ⟨hmarkup, hspans⟩ := leads_iff.mp hleads
  obtain ⟨hwritten, htext, hopen⟩ := page_flush hl.classes hflushes s.segment
  refine ⟨?_, ?_, ?_⟩
  · have hclosing : ((closing g s.state).getD "") =
        if s.state = g.initial then "" else (g.closure s.state).getD "" := by
      unfold closing
      split <;> rfl
    rw [hclosing] at hmarkup
    simp [Scan.finish, h.spell, hwritten, hmarkup]
  · rw [← h.content, Page.content_append, Page.content_append, hnone, htext, List.append_nil]
  · rw [Page.nest_append, Page.nest_append, h.nest]
    simp [hopen, hspans]

/-- A scanner that stays in its state stays on track. -/
lemma Tracks.stay (h : l.Tracks g text s) {c : Char} {trigger : Option Char}
    (hc : ∀ x ∈ trigger, x = c) (hpass : l.passes g s.state s.state trigger) :
    l.Tracks g (text ++ [c]) { s with pending := c :: s.pending } where
  inside := h.inside
  piled := by
    rw [Scan.segment_push]
    simp only [passes, if_true, Bool.and_eq_true, Bool.or_eq_true, beq_iff_eq] at hpass
    rcases hpass.2 with hheld | hheld
    · exact .inl hheld
    -- the held character is the one that was read, so the segment still piles it up
    · have hheld' := eq_of_trigger hc hheld
      refine .inr fun d hd => ?_
      rcases List.mem_append.mp hd with hd | hd
      · rcases h.piled with hnil | hall
        · rw [hnil] at hheld'
          exact absurd hheld' (by simp)
        · exact hall d hd
      · rw [hheld', List.mem_singleton.mp hd]
  page := by
    obtain ⟨p, hp⟩ := h.exists_wrote
    exact ⟨p, (hp.stay c).spell, (hp.stay c).content, (hp.stay c).nest⟩

/-- A scanner that leaves its state stays on track. -/
lemma Tracks.leave (hl : l.Kept g) (h : l.Tracks g text s) {c : Char} {t : State}
    {trigger : Option Char} (hc : ∀ x ∈ trigger, x = c) (ht : t ≠ s.state)
    (hpass : l.passes g s.state t trigger) :
    l.Tracks g (text ++ [c]) (Scan.leave g { s with pending := c :: s.pending } t) := by
  obtain ⟨hinside, -, hsettles⟩ := of_passes_leave hpass ht
  obtain ⟨p, hp⟩ := h.exists_wrote
  have hleave := hp.leave hl h.piled hc ht hpass
  refine ⟨hinside, ?_, _, hleave.spell, hleave.content, hleave.nest⟩
  -- behind held text the next segment begins empty
  rw [Scan.segment_leave, Scan.segment_push]
  obtain ⟨-, -, -, htyped | hleft⟩ := page_close hl.classes hsettles hc h.piled
  · exact .inl (List.append_eq_nil_iff.mp htyped).2
  · rw [hleft]
    exact piled_nil _

/-- One character keeps the scanner on track. -/
lemma Tracks.read (hl : l.Kept g) (h : l.Tracks g text s) (c : Char) :
    l.Tracks g (text ++ [c]) (s.read g c) := by
  obtain ⟨trigger, hc, hpass⟩ := hl.passes_next h.inside c
  unfold Scan.read
  by_cases ht : g.next s.state c = s.state
  · simp only [if_pos ht]
    rw [ht] at hpass
    exact h.stay hc hpass
  · simp only [if_neg ht]
    exact h.leave hl hc ht hpass

/-- A scanner on track stays so over any text. -/
lemma Tracks.readAll (hl : l.Kept g) (h : l.Tracks g text s) (rest : List Char) :
    l.Tracks g (text ++ rest) (s.readAll g rest) := by
  induction rest generalizing text s with
  | nil => simpa [Scan.readAll] using h
  | cons c rest ih =>
    have hrest := ih (h.read hl c)
    rwa [List.append_assoc] at hrest

/-- At the end of the text, the flushed segment and the closing markup finish the page. -/
lemma Tracks.finish (hl : l.Kept g) (h : l.Tracks g text s) :
    ∃ p : Page, p.spell l.encode = (s.finish g).toList ∧ p.content = text ∧
      p.nest l.allows [] = some [] := by
  obtain ⟨p, hp⟩ := h.exists_wrote
  exact ⟨_, hp.finish hl h.inside⟩

/-- The output of a grammar that keeps a ledger is a page of the text, without open spans. -/
theorem Kept.exists_page (hl : l.Kept g) (text : String) :
    ∃ p : Page, p.spell l.encode = (g.highlight text).toList ∧ p.content = text.toList ∧
      p.nest l.allows [] = some [] :=
  ((tracks_start hl).readAll hl text.toList).finish hl

end Ledger
end Highlighter
