import Highlighter.Proofs.Keyword.Cutting
import Highlighter.Proofs.Language.Ledgers
import Highlighter.Proofs.Scan.Step

/-!
# Abandoned lookahead

A lookahead state that meets an opener of another construct writes what it holds and opens that
construct, as the initial state would have done. The tables of each language are checked for all
pairs of such characters (`Language.yieldsAll_grammar`), and two steps of the scanner then do it
behind any text (`Language.ofText_yield`). The hash sign of PHP is the one character that gets lost:
the slash state enters line comments by a pair already, so the character is passed over when what the
initial state opens is copied, and behind a slash it opens nothing.
-/

namespace Highlighter

namespace Grammar

variable {g : Grammar} {h o : Key} {s t : State}

/-- The lookahead state `s` holds the key `h`: the initial state goes there without a trace. -/
def holds (g : Grammar) (h : Key) (s : State) : Bool :=
  s != g.initial && g.processor g.initial s == .trimTrigger && g.edge g.initial s == none &&
    !g.keywords.isIdentChar h.toChar

/-- A key that is held is part of no identifier. -/
lemma isIdentChar_of_holds (hholds : g.holds h s) : g.keywords.isIdentChar h.toChar = false := by
  rw [holds, Bool.and_eq_true, Bool.not_eq_true'] at hholds
  exact hholds.2

/-- On the key `o`, the state `s` writes `h` and opens `t` as the initial state does. -/
def yields (g : Grammar) (h o : Key) (s t : State) : Bool :=
  g.transitions.explicit s o == some t && t != s &&
    g.processor s t == .putbackTrim (String.singleton h.toChar) && g.edge s t == g.edge g.initial t

/-- On the key `o`, the state `s` puts `h` back into the text of the initial state. -/
def givesUp (g : Grammar) (h o : Key) (s : State) : Bool :=
  g.next s o.toChar == g.initial && s != g.initial &&
    g.processor s g.initial == .putback (String.singleton h.toChar) && g.edge s g.initial == none

/-- Each lookahead state yields to what the initial state opens, but for the characters `except`, on
which it gives up. -/
def yieldsAll (g : Grammar) (except : Char → Bool) : Bool :=
  Key.all.all fun h => (g.transitions.explicit g.initial h).all fun s => !s.isLookahead ||
    (g.holds h s && Key.all.all fun o => (g.transitions.explicit g.initial o).all fun t =>
      t == g.initial || o == h ||
        if except o.toChar then g.givesUp h o s else g.yields h o s t)

end Grammar

namespace Scan

variable {g : Grammar} {h o : Key} {s : State} {scan : Scan}

/-- The held key ends the text of the initial state and is not written yet. -/
lemma read_held (hscan : scan.state = g.initial)
    (hs : g.transitions.entry? g.initial h.toChar = some s) (hholds : g.holds h s) :
    scan.read g h.toChar =
      ⟨s, [], scan.written ++ String.ofList (g.keywords.mark scan.segment)⟩ := by
  simp only [Grammar.holds, Bool.and_eq_true, bne_iff_ne, beq_iff_eq, Bool.not_eq_true'] at hholds
  obtain ⟨⟨⟨haside, hprocessor⟩, hedge⟩, -⟩ := hholds
  have hnext : g.next scan.state h.toChar = s := hscan ▸ Grammar.next_of_entry hs
  rw [read_of_leave hnext (hscan ▸ haside), hscan, hprocessor, hedge]
  simp [Processor.close]

/-- Where the state yields, the held key is written and the construct opens. -/
lemma read_yielded {t : State} {written : String} (hh : g.keywords.isIdentChar h.toChar = false)
    (hyields : g.yields h o s t) :
    (⟨s, [], written⟩ : Scan).read g o.toChar =
      ⟨t, [], written ++ String.singleton h.toChar ++ (g.edge g.initial t).getD ""⟩ := by
  simp only [Grammar.yields, Bool.and_eq_true, bne_iff_ne, beq_iff_eq] at hyields
  obtain ⟨⟨⟨hentry, haside⟩, hprocessor⟩, hedge⟩ := hyields
  have hnext : g.next s o.toChar = t :=
    Grammar.next_of_entry (Transitions.entry?_eq_some.mpr ⟨o, rfl, hentry⟩)
  have hmark : g.keywords.mark [h.toChar] = [h.toChar] := Overlay.mark_eq_self (by simp [hh])
  rw [read_of_leave (s := ⟨s, [], written⟩) hnext haside]
  simp [Scan.segment, hprocessor, hedge, Processor.close, hmark]

/-- Where the state gives up, the held key is plain text again. -/
lemma read_givenUp {written : String} (hgives : g.givesUp h o s) :
    (⟨s, [], written⟩ : Scan).read g o.toChar = ⟨g.initial, [o.toChar, h.toChar], written⟩ := by
  simp only [Grammar.givesUp, Bool.and_eq_true, bne_iff_ne, beq_iff_eq] at hgives
  obtain ⟨⟨⟨hnext, haside⟩, hprocessor⟩, hedge⟩ := hgives
  rw [read_of_leave (s := ⟨s, [], written⟩) hnext (Ne.symm haside)]
  simp [Scan.segment, hprocessor, hedge, Processor.close]

end Scan

namespace Language

/-- The character that a lookahead state does not yield to: the hash sign of PHP behind a slash, which
opens line comments by a pair already. -/
def keepsBack (l : Language) (c : Char) : Bool := l == php && c == '#'

/-- The lookahead states of every language yield, with one exception. -/
lemma yieldsAll_grammar (l : Language) : l.grammar.yieldsAll l.keepsBack := by
  cases l <;> decide +kernel

/-- Behind any text, a character that a lookahead state holds is written when another one opens a
construct, which opens as it does from the initial state. Only the hash sign of PHP is hidden: it and
the slash before it are plain text. -/
theorem ofText_yield {l : Language} {p : List Char} {h o : Char} {s t : State}
    (hp : (Scan.ofText l.grammar p).state = l.grammar.initial)
    (hh : l.grammar.transitions.entry? l.grammar.initial h = some s) (hs : s.isLookahead)
    (ho : l.grammar.transitions.entry? l.grammar.initial o = some t) (ht : t ≠ l.grammar.initial)
    (hne : o ≠ h) :
    Scan.ofText l.grammar (p ++ [h, o]) =
      let written := (Scan.ofText l.grammar p).written ++
        String.ofList (l.grammar.keywords.mark (Scan.ofText l.grammar p).segment)
      if l.keepsBack o then ⟨l.grammar.initial, [o, h], written⟩
      else ⟨t, [], written ++ String.singleton h ++ (l.grammar.edge l.grammar.initial t).getD ""⟩ := by
  have hall := yieldsAll_grammar l
  generalize l.grammar = g at *
  obtain ⟨kh, rfl, hs'⟩ := Transitions.entry?_eq_some.mp hh
  obtain ⟨ko, rfl, ht'⟩ := Transitions.entry?_eq_some.mp ho
  have hkeys : ko ≠ kh := fun heq => hne (heq ▸ rfl)
  -- what the check says about these two keys
  have hheld := List.all_eq_true.mp hall kh (Key.mem_all kh)
  rw [hs', Option.all_some, hs, Bool.not_true, Bool.false_or, Bool.and_eq_true] at hheld
  obtain ⟨hholds, hopeners⟩ := hheld
  have hopener := List.all_eq_true.mp hopeners ko (Key.mem_all ko)
  rw [ht', Option.all_some, beq_eq_false_iff_ne.mpr ht, beq_eq_false_iff_ne.mpr hkeys, Bool.or_self,
    Bool.false_or] at hopener
  have hread : Scan.ofText g (p ++ [kh.toChar, ko.toChar]) =
      (((Scan.ofText g p).read g kh.toChar).read g ko.toChar) := Scan.ofText_append g p _
  rw [hread, Scan.read_held hp hh hholds]
  split at hopener
  · rename_i hback
    rw [Scan.read_givenUp hopener]
    exact (if_pos hback).symm
  · rename_i hback
    rw [Scan.read_yielded (Grammar.isIdentChar_of_holds hholds) hopener]
    exact (if_neg hback).symm

/-- One lookahead state yields to another one, behind a literal. -/
theorem ofText_yield_lookahead :
    let p := "'a'".toList
    let g := sql.grammar
    (Scan.ofText g p).state = g.initial ∧ g.transitions.entry? g.initial '-' = some .dashSeen ∧
      g.transitions.entry? g.initial '/' = some .slashSeen ∧
      Scan.ofText g (p ++ ['-', '/']) = ⟨.slashSeen, [], "<span class=\"literal\">'a'</span>-"⟩ := by
  have hp : (Scan.ofText sql.grammar "'a'".toList).state = sql.grammar.initial := by decide +kernel
  have hh : sql.grammar.transitions.entry? sql.grammar.initial '-' = some .dashSeen := by
    decide +kernel
  have ho : sql.grammar.transitions.entry? sql.grammar.initial '/' = some .slashSeen := by
    decide +kernel
  exact ⟨hp, hh, ho,
    (ofText_yield hp hh rfl ho (by decide +kernel) (by decide)).trans (by decide +kernel)⟩

/-- A hash sign opens a comment in PHP, but not behind a slash, although the two are no opener. -/
theorem slash_hides_hash :
    let g := php.grammar
    (Scan.ofText g []).state = g.initial ∧ g.transitions.entry? g.initial '/' = some .slashSeen ∧
      State.slashSeen.isLookahead ∧ g.transitions.entry? g.initial '#' = some .lineComment ∧
      "/#" ∉ ["/*", "//", "(*", "--", "#|", "#\\"] ∧
      ¬ Scan.ofText g ([] ++ ['/', '#']) =
        ⟨.lineComment, [], (Scan.ofText g []).written ++
          String.ofList (g.keywords.mark (Scan.ofText g []).segment) ++ String.singleton '/' ++
          (g.edge g.initial .lineComment).getD ""⟩ := by
  decide +kernel

end Language
end Highlighter
