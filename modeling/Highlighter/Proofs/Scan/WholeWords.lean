import Highlighter.Proofs.Grammar.Seamless

/-!
# Whole words in scanned texts

The scanner of a seamless grammar marks whole words of the text: the words marked so far are whole
words whatever comes next, and in the initial state no known word can begin inside an identifier
(`Ledger.Marked`). One character preserves this (`Marked.read`), and so does a text (`Marked.readAll`).
Main statement: `Kept.exists_page_marked`.
-/

namespace Highlighter.Ledger

/-- The page is what the scanner has written. Its words are whole words of the text, whatever comes
next, and in the initial state a word may begin behind it. -/
structure Marked (l : Ledger) (g : Grammar) (text : List Char) (s : Scan) (p : Page) : Prop where
  wrote : l.Wrote text s p
  whole : ∀ after, g.keywords.MarksWhole [] (l.held s.state ++ s.segment ++ after) p
  fresh : s.state = g.initial → ∀ after, g.keywords.Fresh p.content (s.segment ++ after)

variable {l : Ledger} {g : Grammar} {text : List Char} {s : Scan} {p : Page}

/-- Markup that opens no span of the overlay marks nothing. -/
lemma marksWhole_of_opensNone {k : Overlay} {before after : List Char} {markup : Option String}
    (h : l.opensNone k markup) : k.MarksWhole before after (l.page markup) :=
  Overlay.marksWhole_of_tags (opensNone_iff.mp h)

section Processor

variable {k : Overlay} {initial s t : State} {c : Char} {trigger : Option Char} {p : Processor}
  {before segment typed : List Char}

/-- A processor that cuts no word marks whole words of its segment. -/
lemma marksWhole_closePage (h : p.cutsCleanly k initial s t (some c))
    (hsettles : l.settles s typed trigger p) (hc : ∀ x ∈ trigger, x = c)
    (hfresh : s = initial → ∀ after, k.Fresh before (segment ++ after)) (after : List Char) :
    k.MarksWhole before (typed ++ after) (p.closePage k (segment ++ [c])) := by
  -- only the processors that mark words ask for a fresh beginning and a clean end
  cases p with
  | keywords =>
    rw [Processor.cutsCleanly, Bool.and_eq_true, beq_iff_eq] at h
    have hident := Overlay.isIdentChar_of_separates h.2
    exact Overlay.marksWhole_page (hfresh h.1 [c])
      (Overlay.apart_of_getLast? (by simpa using hident) _)
  | trimTrigger =>
    rw [Processor.cutsCleanly, Bool.and_eq_true, beq_iff_eq] at h
    have hident := Overlay.isIdentChar_of_separates h.2
    simp only [settles, Bool.and_eq_true, beq_iff_eq] at hsettles
    obtain rfl := eq_of_trigger hc hsettles.1.2
    rw [Processor.closePage, List.dropLast_concat]
    exact Overlay.marksWhole_page (hfresh h.1 []).of_append
      (Overlay.apart_of_head? (by simpa using hident) _)
  | putbackTrim held =>
    rw [Processor.cutsCleanly, Bool.and_eq_true] at h
    have hident := Overlay.isIdentChar_of_separates h.2
    simp only [settles, Bool.and_eq_true, beq_iff_eq] at hsettles
    obtain rfl := eq_of_trigger hc hsettles.1.2
    rw [Processor.closePage, List.dropLast_concat]
    exact Overlay.marksWhole_page (Overlay.fresh_held h.1 _ _)
      (Overlay.apart_of_head? (by simpa using hident) _)
  | putback held => exact Overlay.marksWhole_text []
  | discard => exact absurd hsettles (by simp [settles])
  | raw | escape | dropTrigger | escapeTrimTrigger | escapeCarry | carryTrigger =>
    exact Overlay.marksWhole_text _

/-- At the end of the text whole words are marked. -/
lemma marksWhole_flushPage (h : p.flushesCleanly k initial s)
    (hfresh : s = initial → ∀ after, k.Fresh before (segment ++ after)) :
    k.MarksWhole before [] (p.flushPage k segment) := by
  cases p with
  | keywords | trimTrigger =>
    exact Overlay.marksWhole_page (hfresh (beq_iff_eq.mp h) []).of_append (Overlay.apart_nil _)
  | putback held | putbackTrim held =>
    exact Overlay.marksWhole_page (Overlay.fresh_held h _ _) (Overlay.apart_nil _)
  | raw | escape | dropTrigger | escapeTrimTrigger | escapeCarry | carryTrigger | discard =>
    exact Overlay.marksWhole_text _

end Processor

/-- Nothing is marked at the start. -/
lemma marked_start (hl : l.Kept g) : l.Marked g [] (Scan.start g) [] where
  wrote := wrote_start hl
  whole _ := Overlay.marksWhole_text []
  fresh _ after := Overlay.fresh_nil after

/-- Putting a character by marks nothing. -/
lemma Marked.stay (h : l.Marked g text s p) (c : Char) :
    l.Marked g (text ++ [c]) { s with pending := c :: s.pending } p where
  wrote := h.wrote.stay c
  whole after := by
    have hwhole := h.whole (c :: after)
    rwa [Scan.segment_push, ← List.append_assoc, List.append_assoc _ [c]]
  fresh hstate after := by
    have hfresh := h.fresh hstate (c :: after)
    rwa [Scan.segment_push, List.append_assoc]

/-- Leaving a state writes the words that its processor marks. -/
lemma Marked.leave (hl : l.Kept g) (hg : l.Seamless g) (h : l.Marked g text s p)
    (htracks : l.Tracks g text s) {c : Char} (ht : g.next s.state c ≠ s.state) :
    ∃ q, l.Marked g (text ++ [c])
      (Scan.leave g { s with pending := c :: s.pending } (g.next s.state c)) q := by
  obtain ⟨trigger, hc, hpass⟩ := hl.passes_next htracks.inside c
  have hcut := hg.leaves s.state htracks.inside c
  rw [passesCleanly, beq_eq_false_iff_ne.mpr ht, Bool.false_or] at hcut
  have hedge := hg.edges s.state (g.next s.state c)
  generalize g.next s.state c = t at *
  obtain ⟨-, -, hsettles⟩ := of_passes_leave hpass ht
  have hwrote := h.wrote.leave hl htracks.piled hc ht hpass
  obtain ⟨-, htext, -⟩ := page_close hl.classes hsettles hc htracks.piled
  refine ⟨_, hwrote, fun after => ?_, ?_⟩
  · rw [Scan.segment_leave, Scan.segment_push, Scan.state_leave]
    have hmarked := marksWhole_closePage hcut hsettles hc h.fresh
    generalize (g.processor s.state t).closePage g.keywords (s.segment ++ [c]) = q at *
    generalize ((g.processor s.state t).close g.keywords (s.segment ++ [c])).left = left at *
    -- the old page has the new one behind it, with what is typed and what is left
    have hrest : l.held s.state ++ s.segment ++ c :: after =
        q.content ++ ((l.page (g.edge s.state t)).content ++ (l.held t ++ left ++ after)) :=
      calc l.held s.state ++ s.segment ++ c :: after
          = l.held s.state ++ (s.segment ++ [c]) ++ after := by simp
        _ = _ := by rw [← htext]; simp only [List.append_assoc]
    have hwhole := h.whole (c :: after)
    rw [hrest] at hwhole
    have hnew := hmarked (left ++ after)
    rw [List.append_assoc, ← List.append_assoc (l.held t)] at hnew
    exact (hwhole.append hnew).append (marksWhole_of_opensNone hedge)
  · rintro rfl after
    have hcontent := hwrote.content
    rw [Scan.segment_leave, Scan.segment_push, Scan.state_leave, hl.held_initial,
      List.nil_append] at hcontent
    rw [Scan.segment_leave, Scan.segment_push]
    exact Processor.fresh_left hcut hcontent after

/-- One character keeps the marked words whole. -/
lemma Marked.read (hl : l.Kept g) (hg : l.Seamless g) (h : l.Marked g text s p)
    (htracks : l.Tracks g text s) (c : Char) : ∃ q, l.Marked g (text ++ [c]) (s.read g c) q := by
  by_cases ht : g.next s.state c = s.state
  · rw [Scan.read_of_stay ht]
    exact ⟨p, h.stay c⟩
  · simp only [Scan.read, if_neg ht]
    exact h.leave hl hg htracks ht

/-- Over any text the scanner goes on marking whole words. -/
lemma Marked.readAll (hl : l.Kept g) (hg : l.Seamless g) (h : l.Marked g text s p)
    (htracks : l.Tracks g text s) (rest : List Char) :
    ∃ q, l.Marked g (text ++ rest) (s.readAll g rest) q := by
  induction rest generalizing text s p with
  | nil => exact ⟨p, by simpa [Scan.readAll] using h⟩
  | cons c rest ih =>
    obtain ⟨q, hq⟩ := h.read hl hg htracks c
    have hrest := ih hq (htracks.read hl c)
    rwa [List.append_assoc] at hrest

/-- The output of a seamless grammar is a page of the text whose marked words are whole words of the
text. -/
theorem Kept.exists_page_marked (hl : l.Kept g) (hg : l.Seamless g) (text : String) :
    ∃ p : Page, p.spell l.encode = (g.highlight text).toList ∧ p.content = text.toList ∧
      p.nest l.allows [] = some [] ∧ g.keywords.MarksWhole [] [] p := by
  have htracks := (tracks_start hl).readAll hl text.toList
  obtain ⟨p, hp⟩ := (marked_start hl).readAll hl hg (tracks_start hl) text.toList
  obtain ⟨hspell, hcontent, hnest⟩ := hp.wrote.finish hl htracks.inside
  refine ⟨_, hspell, hcontent, hnest, ?_⟩
  generalize Scan.readAll g (Scan.start g) text.toList = s at *
  obtain ⟨-, hnone, hflushes⟩ := of_finishes (hl.finishes s.state htracks.inside)
  obtain ⟨-, hflushed, -⟩ := page_flush hl.classes hflushes s.segment
  refine .append (.append ?_ ?_) (marksWhole_of_opensNone (hg.closings s.state))
  · rw [hnone, hflushed]
    exact hp.whole []
  · rw [hnone]
    exact marksWhole_flushPage (hg.finishes s.state htracks.inside) hp.fresh

end Highlighter.Ledger
