import Mathlib.Tactic.Lemma
import Highlighter.Keyword.Overlay

/-!
# Lexemes

A text cut into constructs and the plain text between them, by a look at two characters at a time.
This is how a reader of the language sees the text: there are no states, nothing is held back, and
plain text comes in stretches as long as they can be. `Lexeme.ofText` cuts, and `Lexeme.render` marks
the plain stretches and wraps the constructs as they are. Main statement: `flatMap_text_ofText`, the
pieces make up the text.
-/

namespace Highlighter

/-- How far a construct goes on behind its opener. If nothing ends it, it goes on to the end of the
text. -/
inductive Extent where
  /-- Through the first place where the two characters stand side by side. -/
  | pair (first last : Char)
  /-- To the first of the characters, which may be part of the construct. A backslash may take the
  character behind it, whatever that is. -/
  | stop (chars : List Char) (included escapes : Bool)
  deriving DecidableEq

namespace Extent

/-- The text through the two characters, and the text behind them. -/
def splitPair (first last : Char) : List Char → List Char × List Char
  | [] => ([], [])
  | c :: rest =>
    if c = first ∧ rest.head? = some last then ([first, last], rest.tail)
    else (splitPair first last rest).map (c :: ·) id

/-- The text to the first of the characters, and the text behind it; `taken` tells that a backslash
takes the first character of the text. -/
def splitStop (chars : List Char) (included escapes taken : Bool) :
    List Char → List Char × List Char
  | [] => ([], [])
  | c :: rest =>
    if taken then (splitStop chars included escapes false rest).map (c :: ·) id
    else if escapes ∧ c = '\\' then (splitStop chars included escapes true rest).map (c :: ·) id
    else if c ∉ chars then (splitStop chars included escapes false rest).map (c :: ·) id
    else if included then ([c], rest)
    else ([], c :: rest)

/-- The text of a construct behind its opener, and the text behind the construct. -/
def split : Extent → List Char → List Char × List Char
  | pair first last => splitPair first last
  | stop chars included escapes => splitStop chars included escapes false

/-- Splitting at a pair loses nothing. -/
lemma splitPair_append (first last : Char) (text : List Char) :
    (splitPair first last text).1 ++ (splitPair first last text).2 = text := by
  induction text with
  | nil => rfl
  | cons c rest ih =>
    rw [splitPair]
    split
    · rename_i h
      obtain ⟨rfl, hlast⟩ := h
      rw [List.head?_eq_some_iff] at hlast
      obtain ⟨tail, rfl⟩ := hlast
      rfl
    · exact congrArg (c :: ·) ih

/-- Splitting at one of some characters loses nothing. -/
lemma splitStop_append (chars : List Char) (included escapes taken : Bool) (text : List Char) :
    (splitStop chars included escapes taken text).1 ++
      (splitStop chars included escapes taken text).2 = text := by
  induction text generalizing taken with
  | nil => rfl
  | cons c rest ih =>
    rw [splitStop]
    split
    · exact congrArg (c :: ·) (ih false)
    split
    · exact congrArg (c :: ·) (ih true)
    split
    · exact congrArg (c :: ·) (ih false)
    split <;> rfl

/-- A construct and the text behind it make up the text. -/
lemma split_append (e : Extent) (text : List Char) :
    (e.split text).1 ++ (e.split text).2 = text := by
  cases e with
  | pair first last => exact splitPair_append first last text
  | stop chars included escapes => exact splitStop_append chars included escapes false text

/-- The text behind a construct is no longer than all of it. -/
lemma length_split (e : Extent) (text : List Char) : (e.split text).2.length ≤ text.length := by
  have hlength := congrArg List.length (e.split_append text)
  rw [List.length_append] at hlength
  omega

end Extent

/-- A construct of a language: the one or two characters that open it, the class of its span, and how
far it goes. -/
structure Rule where
  first : Char
  second : Option Char
  className : String
  extent : Extent
  deriving DecidableEq

namespace Rule

/-- The characters that open the construct. -/
def opener (r : Rule) : List Char := r.first :: r.second.toList

/-- Whether the construct is opened by `c` in front of `next`. -/
def opens (r : Rule) (c : Char) (next : Option Char) : Bool :=
  r.first == c && (r.second == none || r.second == next)

/-- What is left of the text behind the first character of the opener. -/
def behind (r : Rule) (rest : List Char) : List Char := rest.drop r.second.toList.length

/-- The text of the construct behind its opener, and the text behind the construct. -/
def split (r : Rule) (rest : List Char) : List Char × List Char := r.extent.split (r.behind rest)

/-- The text behind a construct is no longer than the text that it opens in. -/
lemma length_split (r : Rule) (rest : List Char) : (r.split rest).2.length ≤ rest.length :=
  Nat.le_trans (r.extent.length_split _) (by rw [behind, List.length_drop]; omega)

/-- The construct that is opened by `c` in front of `next`. -/
def opening? (rules : List Rule) (c : Char) (next : Option Char) : Option Rule :=
  rules.find? (·.opens c next)

/-- The text is the opener and what stands behind it. -/
lemma opener_append_behind {rules : List Rule} {r : Rule} {c : Char} {rest : List Char}
    (h : opening? rules c rest.head? = some r) : r.opener ++ r.behind rest = c :: rest := by
  have hopens := List.find?_some h
  simp only [opens, Bool.and_eq_true, Bool.or_eq_true, beq_iff_eq] at hopens
  obtain ⟨rfl, hsecond⟩ := hopens
  rw [opener, behind]
  cases hr : r.second with
  | none => rfl
  | some d =>
    rw [hr] at hsecond
    obtain ⟨tail, rfl⟩ := List.head?_eq_some_iff.mp (hsecond.resolve_left nofun).symm
    rfl

end Rule

/-- A piece of a text. -/
inductive Lexeme where
  /-- Text outside of all constructs. -/
  | plain (text : List Char)
  /-- A construct with its opener. -/
  | construct (className : String) (text : List Char)
  deriving DecidableEq

namespace Lexeme

/-- The plain characters of a run, which is newest first, unless there are none. -/
def ofRun (run : List Char) : List Lexeme := if run.isEmpty then [] else [plain run.reverse]

/-- The lexemes of a text; `run` holds the plain characters just before it, newest first. -/
def lexFrom (rules : List Rule) (run : List Char) : List Char → List Lexeme
  | [] => ofRun run
  | c :: rest =>
    match Rule.opening? rules c rest.head? with
    | none => lexFrom rules (c :: run) rest
    | some r =>
      ofRun run ++
        construct r.className (r.opener ++ (r.split rest).1) :: lexFrom rules [] (r.split rest).2
termination_by text => text.length
decreasing_by
  · exact Nat.lt_succ_self _
  · exact Nat.lt_succ_of_le (r.length_split rest)

/-- The lexemes of a text. -/
def ofText (rules : List Rule) (text : List Char) : List Lexeme := lexFrom rules [] text

/-- The text of a piece. -/
def text : Lexeme → List Char
  | plain text => text
  | construct _ text => text

/-- The lexeme of a run has its text. -/
lemma flatMap_text_ofRun (run : List Char) : (ofRun run).flatMap text = run.reverse := by
  cases run <;> simp [ofRun, text]

/-- The lexemes of a text have its text, behind the run before it. -/
lemma flatMap_text_lexFrom (rules : List Rule) (run cs : List Char) :
    (lexFrom rules run cs).flatMap text = run.reverse ++ cs := by
  induction run, cs using lexFrom.induct rules with
  | case1 run => rw [lexFrom, flatMap_text_ofRun, List.append_nil]
  | case2 run c rest h ih =>
    rw [lexFrom, h, ih, List.reverse_cons, List.append_assoc]
    rfl
  | case3 run c rest r h ih =>
    have hsplit : r.opener ++ (r.split rest).1 ++ (r.split rest).2 = c :: rest := by
      rw [List.append_assoc, Rule.split, Extent.split_append, Rule.opener_append_behind h]
    rw [lexFrom, h]
    simp only [List.flatMap_append, List.flatMap_cons, flatMap_text_ofRun, ih]
    rw [text, List.reverse_nil, List.nil_append, hsplit]

/-- The pieces of a text make up the text. -/
theorem flatMap_text_ofText (rules : List Rule) (text : List Char) :
    (ofText rules text).flatMap Lexeme.text = text :=
  flatMap_text_lexFrom rules [] text

/-- A piece as it is written: plain text with its words marked, constructs wrapped as they are. -/
def write (k : Overlay) : Lexeme → List Char
  | plain text => k.mark text
  | construct className text => Span.wrap className text

/-- All pieces as they are written. -/
def render (k : Overlay) (lexemes : List Lexeme) : List Char := lexemes.flatMap (write k)

end Lexeme
end Highlighter
