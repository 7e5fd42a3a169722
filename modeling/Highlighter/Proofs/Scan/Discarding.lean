import Highlighter.Proofs.Grammar.Reach

/-!
# What a discarded segment holds

The segment of a state is what the scanner came to the state with, and behind it the characters on which
it has stayed there (`Scan.Stands.segment`). A lookahead state of a grammar that was handed out, if it is
left by dropping its segment, is left on the first character already (`Grammar.loops_eq_false`). So no
more is dropped than what the state was entered with and the trigger (`Scan.discarded_segment`).
-/

namespace Highlighter

namespace Grammar

variable {g : Grammar} {s : State}

/-- In a sound grammar, a lookahead state that drops its segment does not loop. -/
lemma loops_eq_false (h : g.defect? = none) (hs : s ∈ g.reachable) (hahead : s.isLookahead)
    (hleaves : g.leavesByDiscard s) : g.loops s = false := by
  have hdefect := List.findSome?_eq_none_iff.mp h s hs
  rw [defectAt?, if_neg (Option.isSome_iff_ne_none.mp (isSome_wildcard_of_reachable h hs)), hahead,
    hleaves] at hdefect
  cases hloops : g.loops s with
  | false => rfl
  | true =>
    rw [hloops] at hdefect
    exact absurd hdefect (Option.some_ne_none _)

end Grammar

namespace Scan

variable {g : Grammar} {text left stayed : List Char} {c : Char} {t : State}

/-- Behind `text`, the scanner stands in a state that it came to with `left` in the segment, and in which
it has stayed on the characters `stayed` since. -/
inductive Stands (g : Grammar) : (text left stayed : List Char) → Prop
  /-- Before the text, nothing is in the segment. -/
  | start : Stands g [] [] []
  /-- A character on which the scanner comes to another state leaves what the processor leaves. -/
  | enter (text : List Char) {c : Char} {t : State} (ht : g.next (ofText g text).state c = t)
    (hne : t ≠ (ofText g text).state) :
    Stands g (text ++ [c])
      ((g.processor (ofText g text).state t).close g.keywords ((ofText g text).segment ++ [c])).left []
  /-- A character on which the scanner stays piles up. -/
  | stay {text left stayed : List Char} {c : Char} (h : Stands g text left stayed)
    (hc : g.next (ofText g text).state c = (ofText g text).state) :
    Stands g (text ++ [c]) left (stayed ++ [c])

/-- Behind any text, the scanner has come to its state in one way or another. -/
lemma exists_stands (g : Grammar) (text : List Char) : ∃ left stayed, Stands g text left stayed := by
  induction text using List.reverseRecOn with
  | nil => exact ⟨[], [], .start⟩
  | append_singleton text c ih =>
    obtain ⟨left, stayed, h⟩ := ih
    by_cases hc : g.next (ofText g text).state c = (ofText g text).state
    · exact ⟨left, stayed ++ [c], h.stay hc⟩
    · exact ⟨_, [], .enter text rfl hc⟩

/-- The segment is what the state was entered with, and the characters behind it. -/
lemma Stands.segment (h : Stands g text left stayed) : (ofText g text).segment = left ++ stayed := by
  induction h with
  | start => rfl
  | enter text ht hne =>
    rw [ofText_concat, read_of_leave ht hne, List.append_nil]
    exact List.reverse_reverse _
  | stay _ hc ih => rw [ofText_concat, read_of_stay hc, segment_push, ih, List.append_assoc]

/-- Where the scanner has stayed on a character, its state loops. -/
lemma Stands.eq_nil (h : Stands g text left stayed)
    (hloops : ∀ c, g.next (ofText g text).state c ≠ (ofText g text).state) : stayed = [] := by
  cases h with
  | start => rfl
  | enter => rfl
  | stay h hc =>
    rw [ofText_concat, read_of_stay hc] at hloops
    exact absurd hc (hloops _)

/-- The segment and the trigger are dropped, and only the markup of the edge is written. -/
lemma read_of_discard {s : Scan} (ht : g.next s.state c = t) (hne : t ≠ s.state)
    (hdiscard : g.processor s.state t = .discard) :
    s.read g c = ⟨t, [], s.written ++ (g.edge s.state t).getD ""⟩ := by
  rw [read_of_leave ht hne, hdiscard]
  simp only [Processor.close, List.reverse_nil, String.ofList_nil, String.append_empty]

/-- When the scanner of a grammar that was handed out leaves a lookahead state by dropping its segment,
it has come to this state with the character before, or is at the start of the text. What is dropped
is what was left in the segment then, and the trigger. Characters that a lookahead state has piled up
are never dropped. -/
theorem discarded_segment {b : Builder} (hb : b.build = .ok g) (text : List Char)
    (hahead : (ofText g text).state.isLookahead) (ht : g.next (ofText g text).state c = t)
    (hne : t ≠ (ofText g text).state)
    (hdiscard : g.processor (ofText g text).state t = .discard) :
    (∃ left, Stands g text left []) ∧ (∀ left stayed, Stands g text left stayed → stayed = [] ∧
        (ofText g text).segment ++ [c] = left ++ [c]) ∧
      ofText g (text ++ [c]) =
        ⟨t, [], (ofText g text).written ++ (g.edge (ofText g text).state t).getD ""⟩ := by
  have hsound := (Builder.eq_of_build hb).2
  have hreach := state_ofText_mem_reachable hsound text
  -- on every character the table says where the scanner goes, and here that is not the state itself
  have hnext : ∀ d, g.transitions.next? (ofText g text).state d =
      some (g.next (ofText g text).state d) := fun d => by
    rw [(next?_read hsound hreach d).1, state_read]
  have hleaves := Grammar.leavesByDiscard_iff.mpr ⟨c, t, ht ▸ hnext c, hne, hdiscard⟩
  have hloops : ∀ d, g.next (ofText g text).state d ≠ (ofText g text).state := by
    intro d hd
    have hfalse := Grammar.loops_eq_false hsound hreach hahead hleaves
    rw [Grammar.loops_iff.mpr ⟨d, (hnext d).trans (congrArg some hd)⟩] at hfalse
    cases hfalse
  have hstayed : ∀ left stayed, Stands g text left stayed → stayed = [] :=
    fun _ _ h => h.eq_nil hloops
  refine ⟨?_, fun left stayed h => ?_, ?_⟩
  · obtain ⟨left, stayed, h⟩ := exists_stands g text
    obtain rfl := hstayed left stayed h
    exact ⟨left, h⟩
  · obtain rfl := hstayed left stayed h
    exact ⟨rfl, by rw [h.segment, List.append_nil]⟩
  · rw [ofText_concat, read_of_discard ht hne hdiscard]

/-- A slash that is carried into the lookahead state is dropped with the star behind it, and the markup
spells both. -/
theorem discarded_segment_opener :
    let b := (Builder.empty "stars").run
      [.wildcard .normal .normal, .transition .normal [0x2F] .slashSeen,
       .pairProcessor .normal .slashSeen .carryTrigger, .wildcard .slashSeen .normal,
       .transition .slashSeen [0x2A] .blockCommentBody,
       .pairProcessor .slashSeen .blockCommentBody .discard,
       .edge .slashSeen .blockCommentBody "<i>/*", .wildcard .blockCommentBody .blockCommentBody]
    let g := b.grammar
    b.build = .ok g ∧ (ofText g "a/".toList).state = .slashSeen ∧
      g.next .slashSeen '*' = .blockCommentBody ∧ g.processor .slashSeen .blockCommentBody = .discard ∧
      (∃ left, Stands g "a/".toList left []) ∧
      (∀ left stayed, Stands g "a/".toList left stayed → stayed = [] ∧ ['/', '*'] = left ++ ['*']) ∧
      ofText g "a/*".toList = ⟨.blockCommentBody, [], "a<i>/*"⟩ := by
  intro b g
  have hbuild : b.build = .ok g := Builder.build_eq_ok rfl (by decide +kernel)
  have hscan : ofText g "a/".toList = ⟨.slashSeen, ['/'], "a"⟩ := by decide +kernel
  have hstar : g.next .slashSeen '*' = .blockCommentBody := by decide +kernel
  have hdiscard : g.processor .slashSeen .blockCommentBody = .discard := by decide +kernel
  -- the slash was carried over when the state was entered, so it is all that is left
  have hdropped := discarded_segment (c := '*') (t := .blockCommentBody) hbuild "a/".toList
    (by rw [hscan]; rfl) (by rw [hscan]; exact hstar) (by rw [hscan]; decide)
    (by rw [hscan]; exact hdiscard)
  obtain ⟨hentered, honly, hnext⟩ := hdropped
  rw [hscan] at honly
  exact ⟨hbuild, by rw [hscan], hstar, hdiscard, hentered, honly, hnext.trans (by decide +kernel)⟩

end Scan
end Highlighter
