import Highlighter.Language.Basic
import Highlighter.Proofs.Grammar.Reach
import Highlighter.Proofs.Keyword.Cutting

/-!
# Highlighting in pieces

A text can be highlighted in pieces where the scanner is in the initial state and no word goes on. What
was written before does not matter to the scanner (`Scan.finish_readAll_behind`), and the initial state
of every built-in language writes its text in one manner, whether it flushes a segment or leaves it
(`Language.writesIn_grammar`). So a segment that is flushed at the join is written as it would have been
with the text behind it (`Scan.finish_readAll_join`). Main statement: `Language.highlight_append`.
-/

namespace Highlighter

/-- How a processor writes text. -/
inductive Manner where
  /-- As it is. -/
  | verbatim
  /-- With its words marked. -/
  | marked
  /-- With entities. -/
  | escaped
  deriving DecidableEq

/-- Writes a text. -/
def Manner.write (k : Overlay) : Manner → List Char → List Char
  | verbatim, text => text
  | marked, text => k.mark text
  | escaped, text => Entity.escape text

/-- The manner of a processor that writes at once all that it does not carry over or leave to the edge. -/
def Processor.manner? : Processor → Option Manner
  | raw | dropTrigger | carryTrigger => some .verbatim
  | keywords | trimTrigger => some .marked
  | escape | escapeTrimTrigger | escapeCarry _ => some .escaped
  | discard | putback _ | putbackTrim _ => none

section Manner

variable {k : Overlay} {m : Manner} {p : Processor} {before segment after : List Char} {c : Char}

/-- Texts that are apart are written one by one. -/
lemma Manner.write_append (h : k.Apart before after) :
    m.write k (before ++ after) = m.write k before ++ m.write k after := by
  cases m with
  | verbatim => rfl
  | marked => exact Overlay.mark_append h
  | escaped => exact Entity.escape_append _ _

namespace Processor

/-- At the end of the text the processor writes in its manner. -/
lemma flush_of_manner (hp : p.manner? = some m) (segment : List Char) :
    p.flush k segment = m.write k segment := by
  cases p with
  | discard | putback | putbackTrim => exact nomatch hp
  | _ =>
    obtain rfl := Option.some.inj hp
    rfl

/-- Text in front of a segment is written first, and the rest is up to the segment alone. -/
lemma close_append (hp : p.manner? = some m) (h : k.Apart before (segment ++ [c])) :
    p.close k (before ++ (segment ++ [c])) =
      ⟨m.write k before ++ (p.close k (segment ++ [c])).written,
        (p.close k (segment ++ [c])).left⟩ := by
  have hassoc : before ++ (segment ++ [c]) = before ++ segment ++ [c] :=
    (List.append_assoc _ _ _).symm
  -- what the processor carries over or leaves to the edge are characters of the segment
  cases p with
  | discard | putback | putbackTrim => exact nomatch hp
  | raw =>
    obtain rfl := Option.some.inj hp
    rfl
  | keywords =>
    obtain rfl := Option.some.inj hp
    simp only [close, Manner.write, Overlay.mark_append h]
  | escape =>
    obtain rfl := Option.some.inj hp
    simp only [close, Manner.write, Entity.escape_append]
  | trimTrigger =>
    obtain rfl := Option.some.inj hp
    simp only [close, Manner.write, hassoc, List.dropLast_concat, Overlay.mark_append h.of_append]
  | dropTrigger | carryTrigger =>
    obtain rfl := Option.some.inj hp
    simp only [close, Manner.write, hassoc, List.dropLast_concat, List.getLast?_concat]
  | escapeTrimTrigger =>
    obtain rfl := Option.some.inj hp
    simp only [close, Manner.write, hassoc, List.dropLast_concat, Entity.escape_append]
  | escapeCarry chars =>
    obtain rfl := Option.some.inj hp
    by_cases hmem : c ∈ chars.toList
    · simp [close, Manner.write, hassoc, Option.filter, hmem, -List.append_assoc]
    · simp [close, Manner.write, Option.filter, hmem]

/-- What a processor leaves ends with the trigger. -/
lemma getLast?_left_close (p : Processor) (k : Overlay) (segment : List Char) (c : Char) :
    ∀ d ∈ (p.close k (segment ++ [c])).left.getLast?, d = c := by
  intro d hd
  cases p with
  | escapeCarry chars =>
    by_cases hmem : c ∈ chars.toList
    · simpa [close, Option.filter, hmem, eq_comm] using hd
    · simp [close, Option.filter, hmem] at hd
  | putback held =>
    rw [close, ← List.append_assoc] at hd
    simpa [eq_comm] using hd
  | carryTrigger => simpa [close, eq_comm] using hd
  | _ => simp [close] at hd

end Processor

end Manner

namespace Grammar

variable {g : Grammar} {m : Manner}

/-- The initial state writes its text in one manner, wherever the scanner goes from it. -/
def writesIn (g : Grammar) (m : Manner) : Bool :=
  (g.initial :: g.transitions.targets g.initial).all fun t =>
    (g.processor g.initial t).manner? == some m

/-- Such an initial state writes so when it goes to itself. -/
lemma writesIn_initial (h : g.writesIn m) : (g.processor g.initial g.initial).manner? = some m :=
  beq_iff_eq.mp (List.all_eq_true.mp h _ List.mem_cons_self)

/-- Such an initial state writes so wherever a character leads it. -/
lemma writesIn_next (h : g.writesIn m) (c : Char) :
    (g.processor g.initial (g.next g.initial c)).manner? = some m :=
  beq_iff_eq.mp (List.all_eq_true.mp h _ (g.next_mem_cons_targets g.initial c))

end Grammar

namespace Scan

variable {g : Grammar} {m : Manner}

/-- A held character is the last one that was read. -/
lemma getLast?_segment_ofText (g : Grammar) (text : List Char) :
    ∀ d ∈ (ofText g text).segment.getLast?, d ∈ text.getLast? := by
  rcases List.eq_nil_or_concat text with rfl | ⟨init, c, rfl⟩
  · exact fun d hd => hd
  intro d hd
  rw [List.concat_eq_append] at hd ⊢
  rw [List.getLast?_concat, Option.mem_some]
  rw [ofText_concat] at hd
  by_cases hstay : g.next (ofText g init).state c = (ofText g init).state
  · rw [read_of_stay hstay, segment_push, List.getLast?_concat, Option.mem_some] at hd
    exact hd
  · rw [read_of_leave rfl hstay, Scan.segment, List.reverse_reverse] at hd
    exact (Processor.getLast?_left_close _ _ _ _ d hd).symm

/-- A text that ends in the initial state is written in its manner. -/
lemma finish_initial (hg : g.writesIn m) (pending : List Char) (out : String) :
    (⟨g.initial, pending, out⟩ : Scan).finish g =
      out ++ String.ofList (m.write g.keywords pending.reverse) := by
  simp only [finish, Scan.segment, Processor.flush_of_manner (Grammar.writesIn_initial hg), if_true,
    String.append_empty]

/-- Text that the initial state holds can be written before the rest is read, if the rest does not
go on with a word of it. -/
lemma finish_readAll_join (hg : g.writesIn m) {before : List Char} (out : String)
    {pending text : List Char} (h : g.keywords.Apart before (pending.reverse ++ text)) :
    ((⟨g.initial, pending ++ before.reverse, out⟩ : Scan).readAll g text).finish g =
      out ++ String.ofList (m.write g.keywords before) ++
        ((⟨g.initial, pending, ""⟩ : Scan).readAll g text).finish g := by
  induction text generalizing pending with
  | nil =>
    rw [List.append_nil] at h
    rw [readAll, readAll, List.foldl_nil, List.foldl_nil, finish_initial hg, finish_initial hg,
      List.reverse_append, List.reverse_reverse, Manner.write_append h, String.ofList_append,
      String.append_assoc, String.empty_append]
  | cons c text ih =>
    rw [readAll_cons, readAll_cons]
    have hjoin : g.keywords.Apart before (pending.reverse ++ [c] ++ text) := by
      rwa [List.append_assoc]
    by_cases hstay : g.next g.initial c = g.initial
    · rw [read_of_stay hstay, read_of_stay hstay]
      rw [← List.reverse_cons] at hjoin
      exact ih hjoin
    · -- both leave the initial state, and from there on they go the same way
      have hclose := Processor.close_append (Grammar.writesIn_next hg c) hjoin.of_append
      rw [← finish_readAll_behind, read_of_leave rfl hstay, read_of_leave rfl hstay]
      simp only [behind, Scan.segment, List.reverse_append, List.reverse_reverse,
        List.append_assoc, hclose, String.ofList_append, String.append_assoc, String.empty_append]

end Scan

namespace Language

/-- How the initial state of a language writes its text. -/
def manner : Language → Manner
  | xml => .escaped
  | plainText => .verbatim
  | _ => .marked

/-- Every language writes the text of its initial state in its manner. -/
lemma writesIn_grammar (l : Language) : l.grammar.writesIn l.manner := by
  cases l <;> decide +kernel

/-- Where the scanner is in the initial state and no word goes on, a text can be highlighted in
pieces. -/
theorem highlight_append {l : Language} {p r : String}
    (hp : (Scan.ofText l.grammar p.toList).state = l.grammar.initial)
    (hjoin : l.grammar.keywords.Apart p.toList r.toList) :
    l.grammar.highlight (p ++ r) = l.grammar.highlight p ++ l.grammar.highlight r := by
  have hg := writesIn_grammar l
  generalize l.grammar = g at *
  generalize hscan : Scan.ofText g p.toList = scan at hp
  -- the segment of the scanner ends with the last character of the first text
  have hlast := Scan.getLast?_segment_ofText g p.toList
  rw [hscan] at hlast
  obtain ⟨state, pending, written⟩ := scan
  obtain rfl : state = g.initial := hp
  have hapart : g.keywords.Apart pending.reverse (([] : List Char).reverse ++ r.toList) :=
    fun c hc d hd => hjoin c (hlast c hc) d hd
  have hrest := Scan.finish_readAll_join hg written hapart
  rw [List.reverse_reverse, List.nil_append] at hrest
  rw [Grammar.highlight, Grammar.highlight, Grammar.highlight, String.toList_append,
    Scan.ofText_append, hscan, hrest, Scan.finish_initial hg]
  rfl

/-- A slash was put back in front of the word at the join, and a comment goes on behind it. -/
theorem highlight_append_comment :
    (Scan.ofText csharp.grammar "\"s\"/if".toList).state = csharp.grammar.initial ∧
      csharp.grammar.keywords.Apart "\"s\"/if".toList "/* else".toList ∧
      csharp.grammar.highlight ("\"s\"/if" ++ "/* else") =
        csharp.grammar.highlight "\"s\"/if" ++ csharp.grammar.highlight "/* else" := by
  have hp : (Scan.ofText csharp.grammar "\"s\"/if".toList).state = csharp.grammar.initial := by
    decide +kernel
  have hjoin : csharp.grammar.keywords.Apart "\"s\"/if".toList "/* else".toList := by
    decide +kernel
  exact ⟨hp, hjoin, highlight_append hp hjoin⟩

end Language
end Highlighter
