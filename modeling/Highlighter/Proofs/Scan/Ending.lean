import Highlighter.Proofs.Scan.Step

/-!
# The end of the text as a trigger

A segment is ended by a trigger or by the end of the text. A processor that leaves the trigger out
(`Processor.LeavesOut`) writes at a trigger what it writes at the end of the text, and one that writes the
segment whole (`Processor.WritesWhole`) writes it in the same way at both. Main statement:
`Processor.close_flush`. So a construct in which the text breaks off is written like one that is ended
(`Scan.written_read_initial`).
-/

namespace Highlighter

namespace Processor

/-- The processor leaves the trigger `c` out of what it writes: the edge spells it, or the next segment
begins with it. -/
inductive LeavesOut (c : Char) : Processor → Prop
  | trimTrigger : LeavesOut c .trimTrigger
  | dropTrigger : LeavesOut c .dropTrigger
  | escapeTrimTrigger : LeavesOut c .escapeTrimTrigger
  | escapeCarry {chars : String} (hc : c ∈ chars.toList) : LeavesOut c (.escapeCarry chars)
  | putbackTrim {held : String} : LeavesOut c (.putbackTrim held)
  | carryTrigger : LeavesOut c .carryTrigger

/-- The processor leaves the trigger `c` to begin the next segment with. -/
inductive Carries (c : Char) : Processor → Prop
  | escapeCarry {chars : String} (hc : c ∈ chars.toList) : Carries c (.escapeCarry chars)
  | carryTrigger : Carries c .carryTrigger

/-- The processor writes a segment with the trigger that it ends with. -/
inductive WritesWhole (segment : List Char) : Processor → Prop
  | raw : WritesWhole segment .raw
  | keywords : WritesWhole segment .keywords
  | escape : WritesWhole segment .escape
  | escapeCarry {chars : String} (hlast : ∀ c ∈ segment.getLast?, c ∉ chars.toList) :
      WritesWhole segment (.escapeCarry chars)

variable {p : Processor} {segment : List Char} {c : Char}

/-- One of the characters is carried over, and the segment before it is escaped. -/
lemma close_escapeCarry_concat {chars : String} (hc : c ∈ chars.toList) (k : Overlay)
    (segment : List Char) :
    (escapeCarry chars).close k (segment ++ [c]) = ⟨Entity.escape segment, [c]⟩ := by
  have hlast : (segment ++ [c]).getLast?.filter (chars.toList.contains ·) = some c := by
    rw [List.getLast?_concat, Option.filter_some, if_pos (List.contains_iff_mem.mpr hc)]
  simp only [close, hlast, List.dropLast_concat]

/-- Without such a character at its end, the whole segment is escaped. -/
lemma close_escapeCarry_of_not_mem {chars : String}
    (hlast : ∀ c ∈ segment.getLast?, c ∉ chars.toList) (k : Overlay) :
    (escapeCarry chars).close k segment = ⟨Entity.escape segment, []⟩ := by
  have hnone : segment.getLast?.filter (chars.toList.contains ·) = none := by
    rw [Option.filter_eq_none_iff]
    intro c hc hmem
    exact hlast c hc (List.contains_iff_mem.mp hmem)
  simp only [close, hnone]

/-- At a trigger that is left out, a processor writes what it writes at the end of the text. -/
lemma LeavesOut.written_close (h : p.LeavesOut c) (k : Overlay) (segment : List Char) :
    (p.close k (segment ++ [c])).written = p.flush k segment := by
  cases h with
  | escapeCarry hc => rw [close_escapeCarry_concat hc, flush]
  | _ => simp only [close, flush, List.dropLast_concat]

/-- A trigger that is carried is all that is left. -/
lemma Carries.left_close (h : p.Carries c) (k : Overlay) (segment : List Char) :
    (p.close k (segment ++ [c])).left = [c] := by
  cases h with
  | escapeCarry hc => rw [close_escapeCarry_concat hc]
  | carryTrigger => simp only [close, List.getLast?_concat, Option.toList_some]

/-- A trigger that is left out and not carried over is up to the edge. -/
lemma LeavesOut.left_close (h : p.LeavesOut c) (hcarries : ¬ p.Carries c) (k : Overlay)
    (segment : List Char) : (p.close k (segment ++ [c])).left = [] := by
  cases h with
  | escapeCarry hc => exact absurd (.escapeCarry hc) hcarries
  | carryTrigger => exact absurd .carryTrigger hcarries
  | _ => rfl

/-- A segment that is written whole is written as at the end of the text. -/
lemma WritesWhole.close (h : p.WritesWhole segment) (k : Overlay) :
    p.close k segment = ⟨p.flush k segment, []⟩ := by
  cases h with
  | escapeCarry hlast => exact close_escapeCarry_of_not_mem hlast k
  | _ => rfl

/-- What a processor does with a segment is one of four things. -/
lemma leavesOut_or_writesWhole (p : Processor) (segment : List Char) (c : Char) :
    p.LeavesOut c ∨ p.WritesWhole (segment ++ [c]) ∨ (∃ held, p = .putback held) ∨ p = .discard := by
  cases p with
  | raw => exact .inr (.inl .raw)
  | keywords => exact .inr (.inl .keywords)
  | escape => exact .inr (.inl .escape)
  | trimTrigger => exact .inl .trimTrigger
  | dropTrigger => exact .inl .dropTrigger
  | escapeTrimTrigger => exact .inl .escapeTrimTrigger
  | escapeCarry chars =>
    by_cases hc : c ∈ chars.toList
    · exact .inl (.escapeCarry hc)
    · refine .inr (.inl (.escapeCarry fun d hd => ?_))
      rw [List.getLast?_concat, Option.mem_some] at hd
      exact hd ▸ hc
  | discard => exact .inr (.inr (.inr rfl))
  | putback held => exact .inr (.inr (.inl ⟨held, rfl⟩))
  | putbackTrim held => exact .inl .putbackTrim
  | carryTrigger => exact .inl .carryTrigger

/-- The end of the text acts like a trigger that is left out. At a trigger that it leaves out, a
processor writes what it writes where the text ends, and the next segment begins with the trigger or with
nothing. A segment that is written whole is written in the same way at both. What is put back is
written, at the end of the text, like the plain text that it would have come to. Only a segment that is
discarded at a trigger is written after all where the text ends. There are no other processors. -/
theorem close_flush (p : Processor) (k : Overlay) (segment : List Char) :
    (∀ c, p.LeavesOut c → (p.close k (segment ++ [c])).written = p.flush k segment ∧
      (p.Carries c → (p.close k (segment ++ [c])).left = [c]) ∧
      (¬ p.Carries c → (p.close k (segment ++ [c])).left = [])) ∧
    (p.WritesWhole segment → p.close k segment = ⟨p.flush k segment, []⟩) ∧
    (∀ held, p = .putback held → (p.close k segment).written = [] ∧
      keywords.flush k (p.close k segment).left = p.flush k segment) ∧
    (p = .discard → (p.close k segment).written = [] ∧ p.flush k segment = segment) ∧
    ∀ c, p.LeavesOut c ∨ p.WritesWhole (segment ++ [c]) ∨ (∃ held, p = .putback held) ∨
      p = .discard := by
  refine ⟨fun c hc => ⟨?_, ?_, ?_⟩, ?_, ?_, ?_, p.leavesOut_or_writesWhole segment⟩
  · exact hc.written_close k segment
  · intro hcarries
    exact hcarries.left_close k segment
  · intro hcarries
    exact hc.left_close hcarries k segment
  · intro hwhole
    exact hwhole.close k
  · rintro held rfl
    exact ⟨rfl, rfl⟩
  · rintro rfl
    exact ⟨rfl, rfl⟩

/-- A listed trigger is carried over and another one escaped, a slash is put back in front of a word that
a literal ends, and the opener of a comment is shown only where the text ends. -/
theorem close_flush_carried :
    let k := Overlay.empty.addWords "keyword" ["if"]
    ((escapeCarry " ").LeavesOut ' ' ∧ (escapeCarry " ").Carries ' ' ∧
      (escapeCarry " ").close k "<a ".toList = ⟨"&lt;a".toList, [' ']⟩) ∧
    (¬ (putbackTrim "/").Carries '"' ∧
      (putbackTrim "/").close k "if\"".toList =
        ⟨"/<span class=\"keyword\">if</span>".toList, []⟩) ∧
    ((escapeCarry " ").WritesWhole "<a>".toList ∧
      (escapeCarry " ").close k "<a>".toList = ⟨"&lt;a&gt;".toList, []⟩) ∧
    keywords.flush k ((putback "/").close k "if".toList).left = (putback "/").flush k "if".toList ∧
    discard.flush k "/*".toList = "/*".toList := by
  intro k
  have hblank : (escapeCarry " ").LeavesOut ' ' := .escapeCarry (by decide)
  have hcarries : (escapeCarry " ").Carries ' ' := .escapeCarry (by decide)
  have hquote : ¬ (putbackTrim "/").Carries '"' := nofun
  have hwhole : (escapeCarry " ").WritesWhole "<a>".toList := by
    refine .escapeCarry fun c hc => ?_
    obtain rfl : '>' = c := Option.some.inj hc
    decide
  -- the first two triggers are left out, and only one of them is carried
  obtain ⟨hwritten, hleft, -⟩ := (close_flush _ k "<a".toList).1 ' ' hblank
  obtain ⟨hwritten', -, hleft'⟩ := (close_flush (putbackTrim "/") k "if".toList).1 '"' .putbackTrim
  refine ⟨⟨hblank, hcarries, ?_⟩, ⟨hquote, ?_⟩, ⟨hwhole, ?_⟩, ?_, ?_⟩
  · exact congrArg₂ Outcome.mk (hwritten.trans (by decide)) (hleft hcarries)
  · exact congrArg₂ Outcome.mk (hwritten'.trans (by decide +kernel)) (hleft' hquote)
  · exact ((close_flush _ k _).2.1 hwhole).trans (by decide)
  · exact ((close_flush _ k _).2.2.1 "/" rfl).2
  · exact ((close_flush _ k _).2.2.2.1 rfl).2

end Processor

namespace Scan

variable {g : Grammar} {s : Scan} {c : Char}

/-- A construct in which the text breaks off is written like one that is ended, where the markup
behind it is that of the edge back to the initial state: without the trigger, if this is left out, and else
with it. -/
theorem written_read_initial (hs : s.state ≠ g.initial) (hnext : g.next s.state c = g.initial)
    (hclosure : g.ownClosure s.state = none) :
    ((g.processor s.state g.initial).LeavesOut c → (s.read g c).written = s.finish g) ∧
    ((g.processor s.state g.initial).WritesWhole (s.segment ++ [c]) →
      (s.read g c).written = finish g { s with pending := c :: s.pending }) := by
  have hclosing : g.closure s.state = g.edge s.state g.initial := by
    rw [Grammar.closure, hclosure]
    rfl
  rw [read_of_leave hnext (Ne.symm hs)]
  refine ⟨fun hleaves => ?_, fun hwhole => ?_⟩
  · simp only [finish, if_neg hs, hclosing, hleaves.written_close]
  · simp only [finish, if_neg hs, hclosing, segment_push, hwhole.close]

end Scan
end Highlighter
