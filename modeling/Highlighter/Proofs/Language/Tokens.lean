import Highlighter.Proofs.Language.Ledgers
import Highlighter.Proofs.Scan.Step

/-!
# Openers behind tokens

A quoted symbol and a character literal of Scheme run over identifier characters, so the opener of
another construct can stand right behind them. It closes the span of the token and opens its construct
as it does from the initial state (`Language.ofText_token_opener`). A single quote is the exception: it
is handed back to the plain text, so that of two symbols in a row only the first one is marked
(`Language.quote_hides_symbol`).
-/

namespace Highlighter

namespace Grammar

variable {g : Grammar} {s t : State} {o : Key}

/-- On the key `o`, the state `s` writes its segment, closes its span, and opens `t` as the initial
state does. -/
def reopens (g : Grammar) (s : State) (o : Key) (t : State) : Bool :=
  g.transitions.explicit s o == some t && t != s && g.processor s t == .dropTrigger &&
    g.edge s t == some (Span.close ++ (g.edge g.initial t).getD "")

/-- On the key `o`, the state `s` writes its segment, closes its span, and hands the key back to the
text of the initial state. -/
def handsBack (g : Grammar) (s : State) (o : Key) : Bool :=
  g.next s o.toChar == g.initial && s != g.initial &&
    g.processor s g.initial == .carryTrigger && g.edge s g.initial == some Span.close

/-- Each of the states opens what the initial state opens, but for the characters `except`, which it
hands back. -/
def reopensAll (g : Grammar) (states : List State) (except : Char → Bool) : Bool :=
  Key.all.all fun o => (g.transitions.explicit g.initial o).all fun t => t == g.initial ||
    states.all fun s => if except o.toChar then g.handsBack s o else g.reopens s o t

end Grammar

namespace Scan

variable {g : Grammar} {scan : Scan} {t : State} {o : Key}

/-- Where the state reopens a construct, its own span is closed before that opens. -/
lemma read_reopened (h : g.reopens scan.state o t) :
    scan.read g o.toChar =
      ⟨t, [], scan.written ++ String.ofList scan.segment ++ Span.close ++
        (g.edge g.initial t).getD ""⟩ := by
  simp only [Grammar.reopens, Bool.and_eq_true, bne_iff_ne, beq_iff_eq] at h
  obtain ⟨⟨⟨hentry, haside⟩, hprocessor⟩, hedge⟩ := h
  have hnext : g.next scan.state o.toChar = t :=
    Grammar.next_of_entry (Transitions.entry?_eq_some.mpr ⟨o, rfl, hentry⟩)
  rw [read_of_leave hnext haside, hprocessor, hedge]
  simp [Processor.close, String.append_assoc]

/-- Where the state hands the key back, its span is closed and the key is plain text. -/
lemma read_handedBack (h : g.handsBack scan.state o) :
    scan.read g o.toChar =
      ⟨g.initial, [o.toChar], scan.written ++ String.ofList scan.segment ++ Span.close⟩ := by
  simp only [Grammar.handsBack, Bool.and_eq_true, bne_iff_ne, beq_iff_eq] at h
  obtain ⟨⟨⟨hnext, haside⟩, hprocessor⟩, hedge⟩ := h
  rw [read_of_leave hnext (Ne.symm haside), hprocessor, hedge]
  simp [Processor.close]

end Scan

namespace Language

open State

/-- The states inside a quoted symbol and behind the first character of a character literal. -/
def tokenStates : List State := [schemeSymbol, schemeCharBody]

/-- The states inside Scheme tokens open what the initial state opens, but for the quote. -/
lemma reopensAll_scheme : scheme.grammar.reopensAll tokenStates (· == '\'') := by decide +kernel

/-- Behind a token of Scheme, a character that opens a construct closes the token and opens its
construct as it does from the initial state, with the same markup behind the closing tag. Only the
single quote goes to the plain text instead. -/
theorem ofText_token_opener {p : List Char} {o : Char} {t : State}
    (hp : (Scan.ofText scheme.grammar p).state ∈ tokenStates)
    (ho : scheme.grammar.transitions.entry? scheme.grammar.initial o = some t)
    (ht : t ≠ scheme.grammar.initial) :
    Scan.ofText scheme.grammar (p ++ [o]) =
      let closed := (Scan.ofText scheme.grammar p).written ++
        String.ofList (Scan.ofText scheme.grammar p).segment ++ Span.close
      if o = '\'' then ⟨scheme.grammar.initial, [o], closed⟩
      else ⟨t, [], closed ++ (scheme.grammar.edge scheme.grammar.initial t).getD ""⟩ := by
  have hall := reopensAll_scheme
  generalize scheme.grammar = g at *
  obtain ⟨k, rfl, hk⟩ := Transitions.entry?_eq_some.mp ho
  -- what the check says about this key and this state
  have hkey := List.all_eq_true.mp hall k (Key.mem_all k)
  rw [hk, Option.all_some, beq_eq_false_iff_ne.mpr ht, Bool.false_or] at hkey
  have hstate := List.all_eq_true.mp hkey _ hp
  rw [Scan.ofText_concat]
  by_cases hquote : k.toChar = '\''
  · rw [if_pos (beq_iff_eq.mpr hquote)] at hstate
    rw [Scan.read_handedBack hstate]
    exact (if_pos hquote).symm
  · rw [if_neg (mt beq_iff_eq.mp hquote)] at hstate
    rw [Scan.read_reopened hstate]
    exact (if_neg hquote).symm

/-- A string right behind a symbol that is spelled like a keyword. -/
theorem ofText_token_opener_string :
    let p := "'define".toList
    let g := scheme.grammar
    (Scan.ofText g p).state ∈ tokenStates ∧
      g.transitions.entry? g.initial '"' = some doubleQuoteLiteral ∧
      Scan.ofText g (p ++ ['"']) =
        ⟨doubleQuoteLiteral, [],
          "<span class=\"symbol\">'define</span><span class=\"literal\">\""⟩ := by
  have hp : (Scan.ofText scheme.grammar "'define".toList).state ∈ tokenStates := by decide +kernel
  have ho : scheme.grammar.transitions.entry? scheme.grammar.initial '"' =
      some doubleQuoteLiteral := by
    decide +kernel
  exact ⟨hp, ho, (ofText_token_opener hp ho (by decide +kernel)).trans (by decide +kernel)⟩

/-- A single quote opens a symbol in Scheme, but not right behind another symbol. -/
theorem quote_hides_symbol :
    let p := "'a".toList
    let g := scheme.grammar
    (Scan.ofText g p).state ∈ tokenStates ∧
      g.transitions.entry? g.initial '\'' = some schemeSymbol ∧
      ¬ Scan.ofText g (p ++ ['\'']) =
        ⟨schemeSymbol, [], (Scan.ofText g p).written ++ String.ofList (Scan.ofText g p).segment ++
          Span.close ++ (g.edge g.initial schemeSymbol).getD ""⟩ := by
  decide +kernel

end Language
end Highlighter
