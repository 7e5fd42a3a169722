import Highlighter.Proofs.Grammar.Reopening
import Highlighter.Proofs.Scan.Step

/-!
# Scanning with a reopened state

What a call of `reopenAfter` does to the scanner. The state opens constructs on characters that it
had no entry for (`Builder.readAll_reopenAfter`). On any other character it goes where it went, but
what it writes on its way there can change if the pair had no processor or no markup of its own,
because both belong to the pair and not to the character: `Grammar.Overrides` says when, and
`Builder.reopenAfter_frame` that nothing else changes.
-/

namespace Highlighter

namespace Grammar

variable {g : Grammar} {s t : State} {held : String} {k : Key} {c : Char}

/-- Reopening overrides what `s` does on its way to `t`: some key now opens `t`, and `s` went there
through another processor or without the markup that the initial state writes. -/
def Overrides (g : Grammar) (s : State) (held : String) (t : State) : Prop :=
  t ∈ g.opened s held Key.all ∧
    (g.processor s t ≠ .putbackTrim held ∨ g.edge s t = none ∧ g.edge g.initial t ≠ none)

/-! ### The tables behind a call -/

/-- What the initial state opens on a character is reopened if `s` has no entry for the character and
no processor or markup of its own that speaks against it. -/
lemma exists_reopened (hopener : g.transitions.entry? g.initial c = some t) (ht : t ≠ g.initial)
    (htrigger : g.processor g.initial t = .trimTrigger) (hnone : g.transitions.entry? s c = none)
    (hclash : t ≠ s → g.reopenClashes s held t = false) :
    ∃ k : Key, k.toChar = c ∧ g.reopened? s held k = some t := by
  obtain ⟨k, rfl, hk⟩ := Transitions.entry?_eq_some.mp hopener
  rw [Transitions.entry?, Key.ofChar?_toChar, Option.bind_some] at hnone
  exact ⟨k, rfl, reopened?_eq_some.mpr ⟨hk, ht, hnone, htrigger, hclash⟩⟩

/-- Reopening fills in missing transitions and changes none. -/
lemma explicit_reopenAfter :
    (g.reopenAfter s held).transitions.explicit s k =
      (g.transitions.explicit s k).or (g.reopened? s held k) := by
  rw [reopenAfter_eq, explicit_reopenOn_of_mem (Key.mem_all k)]

/-- Reopening fills in what the state has no entry for, character by character. -/
lemma entry?_reopenAfter :
    (g.reopenAfter s held).transitions.entry? s c =
      (g.transitions.entry? s c).or ((Key.ofChar? c).bind (g.reopened? s held)) := by
  unfold Transitions.entry?
  cases Key.ofChar? c with
  | none => rfl
  | some k => exact explicit_reopenAfter

/-- On a key that is reopened the state goes to the construct. -/
lemma next_of_reopened (hk : g.reopened? s held k = some t) :
    (g.reopenAfter s held).next s k.toChar = t := by
  have hnone : g.transitions.explicit s k = none := (reopened?_eq_some.mp hk).2.2.1
  refine next_of_entry (Transitions.entry?_eq_some.mpr ⟨k, rfl, ?_⟩)
  rw [explicit_reopenAfter, hnone, Option.none_or, hk]

/-- Where no key is reopened, the state goes where it went. -/
lemma next_reopenAfter (h : ∀ k, k.toChar = c → g.reopened? s held k = none) :
    (g.reopenAfter s held).next s c = g.next s c := by
  have hnone : (Key.ofChar? c).bind (g.reopened? s held) = none :=
    Option.bind_eq_none_iff.mpr fun k hk => h k (Key.toChar_of_ofChar? hk)
  rw [next, next, Transitions.next?, Transitions.next?, entry?_reopenAfter, hnone, Option.or_none,
    (agreesOff_reopenAfter g s held).wildcard]

/-- On its way to a reopened construct the state puts back what it holds. -/
lemma processor_reopenAfter :
    (g.reopenAfter s held).processor s t =
      if t ∈ g.opened s held Key.all then .putbackTrim held else g.processor s t := by
  rw [reopenAfter_eq, processor, pairProcessor_reopenOn]
  split
  · rfl
  · rfl

/-- A construct is opened with the markup of the initial state, or without markup as there. -/
lemma edge_reopenAfter :
    (g.reopenAfter s held).edge s t =
      if t ∈ g.opened s held Key.all then g.edge g.initial t else g.edge s t := by
  rw [reopenAfter_eq, edge_reopenOn]
  split
  · rename_i ht
    obtain ⟨-, hmarkup⟩ := reopenClashes_eq_false.mp (reopenClashes_of_mem_opened ht)
    cases hedge : g.edge s t with
    | none => rw [Option.or_none]
    | some markup => rw [← hmarkup markup hedge, Option.some_or]
  · rfl

/-- What `s` does on its way to `t` stays the same, unless the call overrides it. -/
lemma not_overrides_iff :
    ¬ g.Overrides s held t ↔
      (g.reopenAfter s held).processor s t = g.processor s t ∧
        (g.reopenAfter s held).edge s t = g.edge s t := by
  rw [processor_reopenAfter, edge_reopenAfter, Overrides]
  by_cases ht : t ∈ g.opened s held Key.all
  · obtain ⟨-, hmarkup⟩ := reopenClashes_eq_false.mp (reopenClashes_of_mem_opened ht)
    simp only [ht, if_true, true_and, not_or, not_and, Classical.not_not]
    refine and_congr eq_comm ?_
    cases hedge : g.edge s t with
    | none => simp
    | some markup => simp [← hmarkup markup hedge]
  · simp [ht]

/-- What is overridden was left to the exit of the state, or had no markup. -/
lemma Overrides.unset (h : g.Overrides s held t) :
    g.pairProcessor s t = none ∨ g.edge s t = none := by
  obtain ⟨hopened, hprocessor | ⟨hedge, -⟩⟩ := h
  · obtain ⟨hputback, -⟩ := reopenClashes_eq_false.mp (reopenClashes_of_mem_opened hopened)
    refine .inl (Option.eq_none_iff_forall_ne_some.mpr fun p hp => hprocessor ?_)
    rw [processor, hp, hputback p hp]
    rfl
  · exact .inr hedge

/-- The initial state is nothing to open, so the way back to it is as before. -/
lemma not_overrides_initial : ¬ g.Overrides s held g.initial := fun h => by
  obtain ⟨-, k, -, hk⟩ := mem_opened.mp h.1
  obtain ⟨-, hinitial, -⟩ := reopened?_eq_some.mp hk
  exact hinitial rfl

end Grammar

namespace Scan

variable {g g' : Grammar} {s : Scan} {c : Char} {t u : State} {held : String}

/-- A character is read alike if it leads to the same state in the same way. -/
lemma read_congr (hnext : g'.next s.state c = g.next s.state c)
    (hprocessor : g'.processor s.state (g.next s.state c) = g.processor s.state (g.next s.state c))
    (hedge : g'.edge s.state (g.next s.state c) = g.edge s.state (g.next s.state c))
    (hkeywords : g'.keywords = g.keywords) : s.read g' c = s.read g c := by
  by_cases hstay : g.next s.state c = s.state
  · rw [read_of_stay hstay, read_of_stay (hnext.trans hstay)]
  · rw [read_of_leave rfl hstay, read_of_leave hnext hstay, hprocessor, hedge, hkeywords]

/-- A text is finished alike if the way back to the initial state is the same. -/
lemma finish_congr (hinitial : g'.initial = g.initial) (hclosure : g'.ownClosure = g.ownClosure)
    (hprocessor : g'.processor s.state g.initial = g.processor s.state g.initial)
    (hedge : g'.edge s.state g.initial = g.edge s.state g.initial)
    (hkeywords : g'.keywords = g.keywords) : s.finish g' = s.finish g := by
  rw [finish, finish, Grammar.closure, Grammar.closure, hinitial, hclosure, hprocessor, hedge,
    hkeywords]

/-! ### Frame of a call -/

/-- A text ends as before. -/
lemma finish_reopenAfter : s.finish (g.reopenAfter u held) = s.finish g := by
  have hagrees := g.agreesOff_reopenAfter u held
  have hback : (g.reopenAfter u held).processor s.state g.initial = g.processor s.state g.initial ∧
      (g.reopenAfter u held).edge s.state g.initial = g.edge s.state g.initial := by
    by_cases hstate : s.state = u
    · rw [hstate]
      exact Grammar.not_overrides_iff.mp Grammar.not_overrides_initial
    · rw [hagrees.processor hstate, hagrees.edge hstate]
      exact ⟨rfl, rfl⟩
  exact finish_congr hagrees.initial hagrees.ownClosure hback.1 hback.2 hagrees.keywords

/-- Other states read as before. -/
lemma read_reopenAfter_of_ne (h : s.state ≠ u) : s.read (g.reopenAfter u held) c = s.read g c := by
  have hagrees := g.agreesOff_reopenAfter u held
  refine read_congr ?_ ?_ ?_ hagrees.keywords
  · rw [hagrees.next h]
  · rw [hagrees.processor h]
  · rw [hagrees.edge h]

/-- The state reads as before where nothing is reopened and nothing is overridden. -/
lemma read_reopenAfter (hnew : ∀ k, k.toChar = c → g.reopened? s.state held k = none)
    (hway : ¬ g.Overrides s.state held (g.next s.state c)) :
    s.read (g.reopenAfter s.state held) c = s.read g c := by
  obtain ⟨hprocessor, hedge⟩ := Grammar.not_overrides_iff.mp hway
  exact read_congr (Grammar.next_reopenAfter hnew) hprocessor hedge
    (g.agreesOff_reopenAfter s.state held).keywords

/-! ### From the initial state into a construct -/

/-- The segment is written, and the character is left to the markup. -/
lemma read_of_trimTrigger (hnext : g.next s.state c = t) (ht : t ≠ s.state)
    (hprocessor : g.processor s.state t = .trimTrigger) :
    s.read g c =
      { state := t
        pending := []
        written := s.written ++ String.ofList (g.keywords.mark s.segment) ++
          (g.edge s.state t).getD "" } := by
  rw [read_of_leave hnext ht, hprocessor]
  simp only [Processor.close, List.dropLast_concat, List.reverse_nil]

/-- The held text and the segment are written, and the character is left to the markup. -/
lemma read_of_putbackTrim (hnext : g.next s.state c = t) (ht : t ≠ s.state)
    (hprocessor : g.processor s.state t = .putbackTrim held) :
    s.read g c =
      { state := t
        pending := []
        written := s.written ++ String.ofList (g.keywords.mark (held.toList ++ s.segment)) ++
          (g.edge s.state t).getD "" } := by
  rw [read_of_leave hnext ht, hprocessor]
  simp only [Processor.close, List.dropLast_concat, List.reverse_nil]

/-- The held text and the segment are carried over, and nothing is written. -/
lemma read_of_putback (hnext : g.next s.state c = t) (ht : t ≠ s.state)
    (hprocessor : g.processor s.state t = .putback held) (hedge : g.edge s.state t = none) :
    s.read g c = ⟨t, (held.toList ++ (s.segment ++ [c])).reverse, s.written⟩ := by
  rw [read_of_leave hnext ht, hprocessor, hedge]
  simp only [Processor.close, String.ofList_nil, String.append_empty, Option.getD_none]

/-- Characters on which the state stays pile up in the segment. -/
lemma readAll_of_stay {pending text : List Char} {written : String}
    (h : ∀ c ∈ text, g.next u c = u) :
    (Scan.mk u pending written).readAll g text = ⟨u, text.reverse ++ pending, written⟩ := by
  induction text generalizing pending with
  | nil => rfl
  | cons c text ih =>
    rw [List.forall_mem_cons] at h
    rw [readAll_cons, read_of_stay h.1, ih h.2, List.reverse_cons, List.append_assoc,
      List.singleton_append]

end Scan

namespace Builder

open Grammar

/-- A call that reopens leaves the entries and the wildcard of the state, and what the state does on
its way to `t` unless the call overrides it; only a pair without a processor or without markup of
its own is overridden. So the scanner finishes as before, and it reads a character as before unless
the state had no entry for it and it opens a construct from the initial state, or it leads where the
way is overridden. -/
theorem reopenAfter_frame (b : Builder) (s : State) (held : String) :
    let g := b.grammar
    let g' := (b.apply (.reopenAfter s held)).grammar
    (∀ k t, g.transitions.explicit s k = some t → g'.transitions.explicit s k = some t) ∧
    g'.transitions.wildcard s = g.transitions.wildcard s ∧
    (∀ t, (g'.processor s t = g.processor s t ∧ g'.edge s t = g.edge s t) ↔
      ¬ g.Overrides s held t) ∧
    (∀ t, g.Overrides s held t → g.pairProcessor s t = none ∨ g.edge s t = none) ∧
    (∀ scan : Scan, scan.finish g' = scan.finish g) ∧
    ∀ (scan : Scan) (c : Char), scan.read g' c ≠ scan.read g c →
      scan.state = s ∧
        ((∃ k t, k.toChar = c ∧ g.transitions.explicit s k = none ∧
            g.transitions.explicit g.initial k = some t ∧ t ≠ g.initial) ∨
          g.Overrides s held (g.next s c)) := by
  rw [apply_reopenAfter]
  generalize b.grammar = g
  intro g g'
  refine ⟨fun k t hk => ?_, congrFun (g.agreesOff_reopenAfter s held).wildcard s,
    fun t => not_overrides_iff.symm, fun t => Overrides.unset, fun scan => Scan.finish_reopenAfter,
    fun scan c hread => ?_⟩
  · rw [explicit_reopenAfter, hk, Option.some_or]
  -- a character that is read in another way is read in the state, on a new key or on an overridden
  -- way
  · obtain rfl : scan.state = s := by
      by_contra hstate
      exact hread (Scan.read_reopenAfter_of_ne hstate)
    refine ⟨rfl, or_iff_not_imp_left.mpr fun hnew => ?_⟩
    by_contra hway
    refine hread (Scan.read_reopenAfter (fun k hk => ?_) hway)
    refine Option.eq_none_iff_forall_ne_some.mpr fun t ht => hnew ?_
    obtain ⟨hentry, hinitial, hnone, -⟩ := reopened?_eq_some.mp ht
    exact ⟨k, t, hk, hnone, hentry, hinitial⟩

/-- A slash is held and a star enters the brace comment, both without markup of their own. -/
def starredBrace : Builder :=
  (empty "braces").run
    [.wildcard .normal .normal, .on .normal "/" .slashSeen,
      .pairProcessor .normal .slashSeen .trimTrigger, .wildcard .slashSeen .normal,
      .exitProcessor .slashSeen (.putback "/"), .on .slashSeen "*" .braceComment,
      .on .normal "\x7b" .braceComment, .pairProcessor .normal .braceComment .trimTrigger,
      .edge .normal .braceComment "<c>\x7b", .wildcard .braceComment .braceComment]

/-- The star behind the slash, whose way into the brace comment is overridden. -/
theorem reopenAfter_frame_star :
    let g := starredBrace.grammar
    let g' := (starredBrace.apply (.reopenAfter .slashSeen "/")).grammar
    let scan : Scan := ⟨.slashSeen, [], ""⟩
    g.transitions.explicit .slashSeen 42 = some .braceComment ∧
      g'.transitions.explicit .slashSeen 42 = some .braceComment ∧
      g.Overrides .slashSeen "/" .braceComment ∧
      (g.pairProcessor .slashSeen .braceComment = none ∨ g.edge .slashSeen .braceComment = none) ∧
      scan.read g' '*' ≠ scan.read g '*' ∧ scan.state = .slashSeen := by
  have hframe := reopenAfter_frame starredBrace .slashSeen "/"
  rw [apply_reopenAfter] at hframe ⊢
  obtain ⟨hentries, -, -, hunset, -, hread⟩ := hframe
  intro g g' scan
  have hstar : g.transitions.explicit .slashSeen 42 = some .braceComment := by decide
  have hoverrides : g.Overrides .slashSeen "/" .braceComment := ⟨by decide, .inl (by decide)⟩
  have hchanged : scan.read g' '*' ≠ scan.read g '*' := fun h =>
    absurd (congrArg Scan.pending h) (by decide)
  exact ⟨hstar, hentries _ _ hstar, hoverrides, hunset _ hoverrides, hchanged,
    (hread _ _ hchanged).1⟩

/-- A brace reopens the brace comment behind a slash, and the star, which led there before, changes
with it. The star led there by what the slash does on every exit, and without markup. -/
theorem star_overridden :
    let g := starredBrace.grammar
    let g' := (starredBrace.apply (.reopenAfter .slashSeen "/")).grammar
    g.transitions.entry? .slashSeen '*' = some .braceComment ∧
      g'.transitions.entry? .slashSeen '*' = some .braceComment ∧
      g.processor .slashSeen .braceComment = .putback "/" ∧
      g'.processor .slashSeen .braceComment = .putbackTrim "/" ∧
      g.edge .slashSeen .braceComment = none ∧
      g'.edge .slashSeen .braceComment = some "<c>\x7b" ∧
      g.highlight "/*x" = "/*x" ∧
      g'.highlight "/*x" = "/<c>\x7bx" := by
  rw [apply_reopenAfter]
  decide

/-- From the initial state, the held character, any number of characters that it loops on and a
character that the call opens a construct on: the segment is written, then the held characters, then
the markup of the construct, and the scanner is in the construct with nothing held back. -/
theorem readAll_reopenAfter (b : Builder) {s t : State} {held opener : Char} {loops : List Char}
    {scan : Scan} (hs : s ≠ b.grammar.initial)
    (hheld : b.grammar.next b.grammar.initial held = s)
    (htrim : b.grammar.processor b.grammar.initial s = .trimTrigger)
    (hsilent : b.grammar.edge b.grammar.initial s = none)
    (hloops : ∀ c ∈ loops, b.grammar.transitions.entry? b.grammar.initial c = some s ∧
      b.grammar.transitions.entry? s c = none)
    (hopener : b.grammar.transitions.entry? b.grammar.initial opener = some t)
    (ht : t ≠ b.grammar.initial) (hts : t ≠ s)
    (htrigger : b.grammar.processor b.grammar.initial t = .trimTrigger)
    (hnone : b.grammar.transitions.entry? s opener = none)
    (hprocessor : ∀ p ∈ b.grammar.pairProcessor s t, p = .putbackTrim (String.singleton held))
    (hedge : ∀ markup ∈ b.grammar.edge s t, b.grammar.edge b.grammar.initial t = some markup)
    (hscan : scan.state = b.grammar.initial) :
    let g := (b.apply (.reopenAfter s (String.singleton held))).grammar
    scan.readAll g (held :: loops ++ [opener]) =
      { state := t
        pending := []
        written := scan.written ++ String.ofList (b.grammar.keywords.mark scan.segment) ++
          String.ofList (b.grammar.keywords.mark (held :: loops)) ++
          (b.grammar.edge b.grammar.initial t).getD "" } := by
  rw [apply_reopenAfter]
  generalize b.grammar = g at *
  intro g'
  have hagrees : AgreesOff s g g' := g.agreesOff_reopenAfter s (String.singleton held)
  have hclash : g.reopenClashes s (String.singleton held) t = false :=
    reopenClashes_eq_false.mpr ⟨hprocessor, fun markup hmarkup => (hedge markup hmarkup).symm⟩
  obtain ⟨k, hk, hreopened⟩ := exists_reopened hopener ht htrigger hnone fun _ => hclash
  have hopened : t ∈ g.opened s (String.singleton held) Key.all :=
    mem_opened.mpr ⟨hts, k, Key.mem_all k, hreopened⟩
  -- the held character ends the plain text before it
  have hentered : scan.read g' held =
      ⟨s, [], scan.written ++ String.ofList (g.keywords.mark scan.segment)⟩ := by
    rw [Scan.read_of_trimTrigger (t := s), hscan, hagrees.edge hs.symm, hsilent, hagrees.keywords]
    · rw [Option.getD_none, String.append_empty]
    · rw [hscan, hagrees.next hs.symm, hheld]
    · rwa [hscan]
    · rwa [hscan, hagrees.processor hs.symm]
  -- on the characters that loop the segment grows
  have hstays : ∀ c ∈ loops, g'.next s c = s := fun c hc => by
    obtain ⟨hentry, hloop⟩ := hloops c hc
    obtain ⟨k, rfl, hreopened⟩ := exists_reopened hentry hs htrim hloop (absurd rfl)
    exact next_of_reopened hreopened
  have hleaves : g'.next s opener = t := hk ▸ next_of_reopened hreopened
  -- on the last one the held text and the segment are written, and the construct opens
  have hputback : g'.processor s t = .putbackTrim (String.singleton held) := by
    rw [processor_reopenAfter, if_pos hopened]
  have hmarkup : g'.edge s t = g.edge g.initial t := by rw [edge_reopenAfter, if_pos hopened]
  have hopens : ∀ out, (Scan.mk s loops.reverse out).read g' opener =
      ⟨t, [], out ++ String.ofList (g.keywords.mark (held :: loops)) ++
        (g.edge g.initial t).getD ""⟩ := fun out => by
    rw [Scan.read_of_putbackTrim hleaves hts hputback, hmarkup, hagrees.keywords, Scan.segment,
      List.reverse_reverse, String.toList_singleton, List.singleton_append]
  calc scan.readAll g' (held :: loops ++ [opener])
      = ((scan.read g' held).readAll g' loops).readAll g' [opener] := by
        rw [List.cons_append, Scan.readAll_cons, Scan.readAll_append]
    _ = (Scan.mk s loops.reverse _).readAll g' [opener] := by
        rw [hentered, Scan.readAll_of_stay hstays, List.append_nil]
    _ = _ := hopens _

/-- Three slashes and a brace: the slashes are written, and the brace opens its comment. -/
theorem readAll_reopenAfter_brace :
    let b := (empty "").run ([.wildcard .normal .normal] ++
      Construct.openedBy "\x7b" .braceComment "comment" ++ Construct.lookahead "/" .slashSeen)
    b.grammar.transitions.entry? .normal '/' = some .slashSeen ∧
      b.grammar.transitions.entry? .slashSeen '/' = none ∧
      (Scan.mk .normal ['x'] "").readAll (b.apply (.reopenAfter .slashSeen "/")).grammar
          "///\x7b".toList =
        ⟨.braceComment, [], "x///" ++ Span.openWith "comment" "\x7b"⟩ := by
  intro b
  have hentry : b.grammar.transitions.entry? .normal '/' = some .slashSeen := by decide
  have hnone : b.grammar.transitions.entry? .slashSeen '/' = none := by decide
  have hread := @readAll_reopenAfter b .slashSeen .braceComment '/' '\x7b' (List.replicate 2 '/')
    ⟨.normal, ['x'], ""⟩ (by decide) (by decide) (by decide) (by decide)
    (fun c hc => List.eq_of_mem_replicate hc ▸ ⟨hentry, hnone⟩) (by decide) (by decide)
    (by decide) (by decide) (by decide) (by decide) (by decide) rfl
  exact ⟨hentry, hnone, hread⟩

end Builder
end Highlighter
