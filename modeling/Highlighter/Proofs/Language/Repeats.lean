import Highlighter.Proofs.Language.Lookahead
import Highlighter.Proofs.Language.Pieces
import Highlighter.Proofs.Registry.ByName
import Highlighter.Proofs.Scan.Reopening

/-!
# Repeated lookahead characters

A lookahead state that loops on the character it holds piles the repeats up in its segment. Whichever way
it is left, the pile comes out in front of everything else (`Scan.finish_readAll_pile`): it is written
with the segment, or put back in front of the plain text that follows. So repeated characters come out
one by one (`Language.highlight_replicate`).
-/

namespace Highlighter

namespace Processor

/-- The processor lets go of a segment behind the held character `h`: it leaves `h` to the edge, or
writes it in front of the segment, or puts it back there. -/
def frees (h : Char) : Processor → Bool
  | dropTrigger => true
  | putback held | putbackTrim held => held == String.singleton h
  | _ => false

variable {p : Processor} {k : Overlay} {h : Char}

/-- A pile of held characters is marked as it stands. -/
lemma mark_pile (hh : k.isIdentChar h = false) (n : Nat) (text : List Char) :
    k.mark (List.replicate n h ++ text) = List.replicate n h ++ k.mark text := by
  induction n with
  | zero => rfl
  | succ n ih => rw [List.replicate_succ, List.cons_append, Overlay.mark_cons hh, ih, List.cons_append]

/-- The held character may stand in front of a pile of its repeats or behind it. -/
lemma held_append_pile (h : Char) (n : Nat) (text : List Char) :
    (String.singleton h).toList ++ (List.replicate n h ++ text) =
      List.replicate n h ++ ((String.singleton h).toList ++ text) := by
  rw [String.toList_singleton, ← List.append_assoc, List.singleton_append, ← List.replicate_succ,
    List.replicate_succ', List.append_assoc]

/-- A pile in front of the segment is flushed first. -/
lemma flush_pile (hp : p.frees h) (hh : k.isIdentChar h = false) (n : Nat) (segment : List Char) :
    p.flush k (List.replicate n h ++ segment) = List.replicate n h ++ p.flush k segment := by
  cases p with
  | dropTrigger => rfl
  | putback held | putbackTrim held =>
    obtain rfl := beq_iff_eq.mp hp
    rw [flush, flush, held_append_pile, mark_pile hh]
  | _ => exact absurd hp Bool.false_ne_true

/-- Unless it is put back, a pile in front of the segment is written first. -/
lemma close_pile (hp : p.frees h) (hh : k.isIdentChar h = false) (hback : ∀ held, p ≠ .putback held)
    (n : Nat) (segment : List Char) (c : Char) :
    p.close k (List.replicate n h ++ (segment ++ [c])) =
      ⟨List.replicate n h ++ (p.close k (segment ++ [c])).written, []⟩ ∧
      (p.close k (segment ++ [c])).left = [] := by
  have htrim : (List.replicate n h ++ (segment ++ [c])).dropLast = List.replicate n h ++ segment := by
    rw [← List.append_assoc, List.dropLast_concat]
  cases p with
  | dropTrigger => exact ⟨by rw [close, close, htrim, List.dropLast_concat], rfl⟩
  | putbackTrim held =>
    obtain rfl := beq_iff_eq.mp hp
    exact ⟨by rw [close, close, htrim, List.dropLast_concat, held_append_pile, mark_pile hh], rfl⟩
  | putback held => exact absurd rfl (hback held)
  | _ => exact absurd hp Bool.false_ne_true

end Processor

namespace Grammar

variable {g : Grammar} {h : Char} {s t : State}

/-- Wherever the scanner goes from `s`, it lets go of what `s` holds; what is put back comes to the text
of the initial state. -/
def frees (g : Grammar) (h : Char) (s : State) : Bool :=
  (g.initial :: g.transitions.targets s).all fun t => t == s ||
    (g.processor s t).frees h &&
      match g.processor s t with
      | .putback _ => t == g.initial && g.edge s t == none
      | _ => true

/-- Wherever a character leads from such a state, what it holds is let go of. -/
lemma frees_next (hfrees : g.frees h s) {c : Char} (hnext : g.next s c = t) (hne : t ≠ s) :
    (g.processor s t).frees h ∧
      ∀ held, g.processor s t = .putback held → t = g.initial ∧ g.edge s t = none := by
  have hmem : t ∈ g.transitions.targets s :=
    (List.mem_cons.mp (hnext ▸ g.next_mem_cons_targets s c)).resolve_left hne
  have hexit := List.all_eq_true.mp hfrees t (List.mem_cons_of_mem _ hmem)
  rw [beq_eq_false_iff_ne.mpr hne, Bool.false_or, Bool.and_eq_true] at hexit
  refine ⟨hexit.1, fun held hheld => ?_⟩
  rw [hheld] at hexit
  simpa using hexit.2

/-- On its way to the initial state such a state lets go of what it holds. -/
lemma frees_initial (hfrees : g.frees h s) (hs : s ≠ g.initial) :
    (g.processor s g.initial).frees h := by
  have hexit := List.all_eq_true.mp hfrees _ List.mem_cons_self
  rw [beq_eq_false_iff_ne.mpr (Ne.symm hs), Bool.false_or, Bool.and_eq_true] at hexit
  exact hexit.1

/-- The initial state goes to a lookahead state on the character, and that state loops on it. -/
inductive PilesUp (g : Grammar) (h : Char) : Prop
  | intro {s : State} (hentry : g.transitions.entry? g.initial h = some s) (hahead : s.isLookahead)
    (hloop : g.next s h = s)

/-- Each lookahead state that loops on the key which leads to it holds the key and lets go of it, and the
key is one of `piled`. -/
def freesAll (g : Grammar) (piled : List Char) : Bool :=
  Key.all.all fun h => (g.transitions.explicit g.initial h).all fun s =>
    !s.isLookahead || g.next s h.toChar != s ||
      g.holds h s && g.frees h.toChar s && g.writesIn .marked && piled.contains h.toChar

end Grammar

namespace Scan

variable {g : Grammar} {h : Char} {s : State}

/-- A segment that began as a pile still begins with it. -/
lemma segment_pile (n : Nat) (out : String) (pending : List Char) :
    (⟨s, pending ++ List.replicate n h, out⟩ : Scan).segment =
      List.replicate n h ++ pending.reverse := by
  simp [Scan.segment]

/-- At the end of the text, the pile is flushed in front of the segment. -/
lemma finish_pile (hfrees : g.frees h s) (hs : s ≠ g.initial) (hh : g.keywords.isIdentChar h = false)
    (n : Nat) (out : String) (pending : List Char) :
    (⟨s, pending ++ List.replicate n h, out⟩ : Scan).finish g =
      out ++ String.ofList (List.replicate n h) ++ (⟨s, pending, ""⟩ : Scan).finish g := by
  have hflush := Processor.flush_pile (Grammar.frees_initial hfrees hs) hh n pending.reverse
  simp only [finish, Scan.segment, List.reverse_append, List.reverse_replicate, hflush,
    String.ofList_append, String.append_assoc, String.empty_append]

/-- What is put back goes on as plain text, from which the pile is written first. -/
lemma finish_readAll_putback (hg : g.writesIn .marked) (hh : g.keywords.isIdentChar h = false) (n : Nat)
    (out : String) (segment text : List Char) :
    ((⟨g.initial, (List.replicate n h ++ segment).reverse, out⟩ : Scan).readAll g text).finish g =
      out ++ String.ofList (List.replicate n h) ++
        ((⟨g.initial, segment.reverse, ""⟩ : Scan).readAll g text).finish g := by
  have hnone : ∀ c ∈ List.replicate n h, g.keywords.isIdentChar c = false :=
    fun c hc => List.eq_of_mem_replicate hc ▸ hh
  have hapart : g.keywords.Apart (List.replicate n h) (segment.reverse.reverse ++ text) :=
    fun c hc _ _ => .inl (hnone c (List.mem_of_getLast? hc))
  rw [List.reverse_append, finish_readAll_join hg out hapart, Manner.write, Overlay.mark_eq_self hnone]

/-- A pile of held characters comes out in front of everything else. -/
lemma finish_readAll_pile (hfrees : g.frees h s) (hs : s ≠ g.initial) (hg : g.writesIn .marked)
    (hh : g.keywords.isIdentChar h = false) (n : Nat) (out : String) {pending text : List Char} :
    ((⟨s, pending ++ List.replicate n h, out⟩ : Scan).readAll g text).finish g =
      out ++ String.ofList (List.replicate n h) ++
        ((⟨s, pending, ""⟩ : Scan).readAll g text).finish g := by
  induction text generalizing pending with
  | nil => exact finish_pile hfrees hs hh n out pending
  | cons c text ih =>
    rw [readAll_cons, readAll_cons]
    by_cases hstay : g.next s c = s
    · rw [read_of_stay hstay, read_of_stay hstay]
      exact @ih (c :: pending)
    obtain ⟨hfree, hback⟩ := Grammar.frees_next hfrees rfl hstay
    generalize hnext : g.next s c = t at hstay hfree hback
    by_cases hputback : ∃ held, g.processor s t = .putback held
    · -- the held character and the segment go on as plain text
      obtain ⟨held, hheld⟩ := hputback
      obtain ⟨rfl, hedge⟩ := hback held hheld
      rw [hheld] at hfree
      obtain rfl := beq_iff_eq.mp hfree
      rw [read_of_putback hnext hstay hheld hedge, read_of_putback hnext hstay hheld hedge,
        segment_pile, List.append_assoc, Processor.held_append_pile]
      exact finish_readAll_putback hg hh n out _ text
    · -- the pile is written, and the scanner goes on as without it
      obtain ⟨hclose, hleft⟩ := Processor.close_pile hfree hh
        (fun held hheld => hputback ⟨held, hheld⟩) n pending.reverse c
      rw [← finish_readAll_behind, read_of_leave hnext hstay, read_of_leave hnext hstay, segment_pile,
        List.append_assoc, hclose]
      simp only [behind, Scan.segment, hleft, String.ofList_append, String.append_assoc,
        String.empty_append]

end Scan

namespace Grammar

variable {g : Grammar} {h : Key} {s : State}

/-- All of the repeats but the last one are written in front of what the last one begins. -/
lemma highlight_pile (hentry : g.transitions.entry? g.initial h.toChar = some s)
    (hloop : g.next s h.toChar = s) (hholds : g.holds h s) (hfrees : g.frees h.toChar s)
    (hg : g.writesIn .marked) (n : Nat) (r : String) :
    g.highlight (String.ofList (List.replicate (n + 1) h.toChar) ++ r) =
      String.ofList (List.replicate n h.toChar) ++ g.highlight (String.singleton h.toChar ++ r) := by
  have hs : s ≠ g.initial := by
    simp only [holds, Bool.and_eq_true, bne_iff_ne] at hholds
    exact hholds.1.1.1
  have hheld : (Scan.start g).read g h.toChar = ⟨s, [], ""⟩ := by
    rw [Scan.read_held rfl hentry hholds]
    simp [Scan.start, Scan.segment]
  -- the first character leads to the lookahead state, and the others loop there
  have hpile : (Scan.start g).readAll g (List.replicate (n + 1) h.toChar) =
      ⟨s, [] ++ List.replicate n h.toChar, ""⟩ := by
    rw [List.replicate_succ, Scan.readAll_cons, hheld,
      Scan.readAll_of_stay fun c hc => List.eq_of_mem_replicate hc ▸ hloop, List.reverse_replicate,
      List.append_nil, List.nil_append]
  rw [highlight, highlight, Scan.ofText, Scan.ofText, String.toList_append, String.toList_append,
    String.toList_ofList, String.toList_singleton, Scan.readAll_append, Scan.readAll_append, hpile,
    Scan.finish_readAll_pile hfrees hs hg (isIdentChar_of_holds hholds), Scan.readAll_cons, hheld,
    String.empty_append]
  rfl

end Grammar

namespace Language

/-- The characters that lookahead states of a language pile up. -/
def piled : Language → List Char
  | c89 | sql => ['/']
  | pascal => ['(']
  | scheme => ['#']
  | _ => []

/-- In every language the lookahead states that pile up let go of their piles. -/
lemma freesAll_grammar (l : Language) : l.grammar.freesAll l.piled := by
  cases l <;> decide +kernel

/-- Repeated characters of a lookahead come out one by one: all of them but the last one are written
as they are, whatever text follows. Such a character is a slash in C89 and SQL, an opening parenthesis
in Pascal, and a hash sign in Scheme. -/
theorem highlight_replicate {l : Language} {h : Char} (hpiles : l.grammar.PilesUp h) (n : Nat)
    (r : String) :
    h ∈ l.piled ∧
      Registry.builtin.highlight (String.ofList (List.replicate (n + 1) h) ++ r) l.name =
        String.ofList (List.replicate n h) ++
          Registry.builtin.highlight (String.singleton h ++ r) l.name := by
  obtain ⟨hentry, hahead, hloop⟩ := hpiles
  obtain ⟨kh, rfl, hs⟩ := Transitions.entry?_eq_some.mp hentry
  -- what the check says about this key
  have hkey := List.all_eq_true.mp (freesAll_grammar l) kh (Key.mem_all kh)
  rw [hs, Option.all_some, hahead, hloop, bne_self_eq_false, Bool.not_true, Bool.false_or,
    Bool.false_or, Bool.and_eq_true, Bool.and_eq_true, Bool.and_eq_true, List.contains_iff_mem] at hkey
  obtain ⟨⟨⟨hholds, hfrees⟩, hwrites⟩, hpiled⟩ := hkey
  have hplain : l ≠ plainText := by
    rintro rfl
    exact absurd hpiled List.not_mem_nil
  refine ⟨hpiled, ?_⟩
  rw [Registry.highlight_builtin hplain, Registry.highlight_builtin hplain]
  generalize l.grammar = g at *
  exact Grammar.highlight_pile hentry hloop hholds hfrees hwrites n r

/-- The last of three hash signs begins a block comment of Scheme. -/
theorem highlight_replicate_comment :
    scheme.grammar.PilesUp '#' ∧
      Registry.builtin.highlight "###|x|#" scheme.name =
        "##" ++ Registry.builtin.highlight "#|x|#" scheme.name := by
  have hpiles : scheme.grammar.PilesUp '#' :=
    .intro (s := .schemeHash) (by decide +kernel) rfl (by decide +kernel)
  exact ⟨hpiles, (highlight_replicate hpiles 2 "|x|#").2⟩

end Language

end Highlighter
