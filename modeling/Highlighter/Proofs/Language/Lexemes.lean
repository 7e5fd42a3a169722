import Highlighter.Proofs.Lexeme.Check
import Highlighter.Proofs.Registry.ByName

/-!
# The lexemes of the built-in languages

The constructs of the languages with block comments, as rules for a look at two characters at a time,
and the roles that the states play in their tables. Languages that add nothing but words to those of
another one share its check (`Follows.foldl_apply`). Main statements: `highlight_cFamily` and
`highlight_sql_pascal`, these languages write the lexemes of every text.
-/

namespace Highlighter

/-! ### Words play no part -/

/-- The call only changes which words there are. -/
def Call.isWords : Call → Bool
  | .keywords _ _ | .clearKeywords => true
  | _ => false

namespace Follows

variable {g : Grammar} {rules : List Rule} {roles : Roles}

/-- The name and the words can be exchanged, as long as identifiers stay the same. -/
lemma withWords (h : Follows g rules roles) (name : String) {k : Overlay}
    (hk : k.extraIdentChars = g.keywords.extraIdentChars) :
    Follows { g with name := name, keywords := k } rules roles where
  sound :=
    { apart := fun r hr hsecond => by
        have hapart := h.sound.apart r hr hsecond
        rwa [Overlay.isIdentChar, ← hk] at hapart
      alike := h.sound.alike
      quiet := h.sound.quiet }
  initial := h.initial
  known := h.known
  moves := h.moves
  finishes := h.finishes

/-- Calls that only change words leave the scanner following its rules. -/
lemma foldl_apply (h : Follows g rules roles) {calls : List Call}
    (hcalls : calls.all Call.isWords) :
    Follows (calls.foldl Grammar.apply g) rules roles := by
  induction calls generalizing g with
  | nil => exact h
  | cons c calls ih =>
    rw [List.all_cons, Bool.and_eq_true] at hcalls
    refine ih ?_ hcalls.2
    cases c with
    | keywords className words => exact h.withWords g.name rfl
    | clearKeywords => exact h.withWords g.name rfl
    | _ => exact absurd hcalls.1 nofun

end Follows

/-! ### Constructs -/

namespace Rule

/-- A comment opened by two characters, through the second one and `last`. -/
def blockComment (first second last : Char) : Rule :=
  ⟨first, some second, "comment", .pair second last⟩

/-- A comment opened by two characters, up to the end of the line. -/
def lineComment (first second : Char) (escapes : Bool) : Rule :=
  ⟨first, some second, "comment", .stop ['\n'] false escapes⟩

/-- A comment between two characters. -/
def enclosed (first last : Char) : Rule := ⟨first, none, "comment", .stop [last] true false⟩

/-- A literal through its quote, or through one of the characters `ends`. -/
def literal (quote : Char) (ends : List Char) (escapes : Bool) : Rule :=
  ⟨quote, none, "literal", .stop (quote :: ends) true escapes⟩

end Rule

namespace Language

open State Registry

/-- Block comments, and literals that end with their line. -/
def c89Rules : List Rule :=
  [.blockComment '/' '*' '/', .literal '"' ['\n'] true, .literal '\'' ['\n'] true]

/-- Line comments as well, which a backslash carries over the end of the line. -/
def cRules : List Rule := .lineComment '/' '/' true :: c89Rules

/-- The constructs of the C family. -/
def cFamilyRules : Language → List Rule
  | c89 => c89Rules
  | _ => cRules

/-- Comments behind `--`, block comments, and literals without escapes. -/
def sqlRules : List Rule :=
  [.lineComment '-' '-' false, .blockComment '/' '*' '/', .literal '"' [] false,
   .literal '\'' [] false]

/-- Three kinds of comments, and literals without escapes that end with their line. -/
def pascalRules : List Rule :=
  [.lineComment '/' '/' false, .blockComment '(' '*' ')', .enclosed '\x7b' '\x7d',
   .literal '\'' ['\n'] false]

/-! ### Roles -/

/-- The roles of the states in C89. -/
def c89Roles : Roles
  | normal => some .plain
  | slashSeen => some (.held '/')
  | blockCommentBody => some (.inside (.blockComment '/' '*' '/') false)
  | blockCommentEnd => some (.inside (.blockComment '/' '*' '/') true)
  | doubleQuoteLiteral => some (.inside (.literal '"' ['\n'] true) false)
  | doubleQuoteEscape => some (.inside (.literal '"' ['\n'] true) true)
  | singleQuoteLiteral => some (.inside (.literal '\'' ['\n'] true) false)
  | singleQuoteEscape => some (.inside (.literal '\'' ['\n'] true) true)
  | _ => none

/-- The roles of the states in C. -/
def cRoles : Roles
  | lineComment => some (.inside (.lineComment '/' '/' true) false)
  | lineCommentEscape => some (.inside (.lineComment '/' '/' true) true)
  | s => c89Roles s

/-- The roles of the states in SQL. -/
def sqlRoles : Roles
  | normal => some .plain
  | slashSeen => some (.held '/')
  | dashSeen => some (.held '-')
  | blockCommentBody => some (.inside (.blockComment '/' '*' '/') false)
  | blockCommentEnd => some (.inside (.blockComment '/' '*' '/') true)
  | lineComment => some (.inside (.lineComment '-' '-' false) false)
  | doubleQuoteLiteral => some (.inside (.literal '"' [] false) false)
  | singleQuoteLiteral => some (.inside (.literal '\'' [] false) false)
  | _ => none

/-- The roles of the states in Pascal. -/
def pascalRoles : Roles
  | normal => some .plain
  | slashSeen => some (.held '/')
  | parenSeen => some (.held '(')
  | blockCommentBody => some (.inside (.blockComment '(' '*' ')') false)
  | blockCommentEnd => some (.inside (.blockComment '(' '*' ')') true)
  | lineComment => some (.inside (.lineComment '/' '/' false) false)
  | braceComment => some (.inside (.enclosed '\x7b' '\x7d') false)
  | singleQuoteLiteral => some (.inside (.literal '\'' ['\n'] false) false)
  | _ => none

/-- The scanner of C89 follows its rules. -/
lemma follows_c89 : Follows c89.grammar c89Rules c89Roles := follows_of_check (by decide +kernel)

/-- The scanner of C follows its rules. -/
lemma follows_c : Follows (Recipe.tables Recipe.c) cRules cRoles :=
  follows_of_check (by decide +kernel)

/-- The scanner of SQL follows its rules. -/
lemma follows_sql : Follows sql.grammar sqlRules sqlRoles := follows_of_check (by decide +kernel)

/-- The scanner of Pascal follows its rules. -/
lemma follows_pascal : Follows pascal.grammar pascalRules pascalRoles :=
  follows_of_check (by decide +kernel)

/-- A language that adds words to C follows its rules. -/
lemma follows_words {l : Language} (hl : l ≠ plainText) {words : List Call}
    (hrecipe : l.recipe = Recipe.c ++ words) (hwords : words.all Call.isWords) :
    Follows l.grammar cRules cRoles := by
  rw [grammar_eq hl, hrecipe, Recipe.tables, List.foldl_append]
  exact (follows_c.foldl_apply hwords).withWords l.name rfl

/-- The scanners of the C family follow their rules. -/
lemma follows_cFamily {l : Language} (hl : l ∈ [c89, c, cpp, java, csharp]) :
    ∃ roles, Follows l.grammar l.cFamilyRules roles := by
  cases l with
  | c89 => exact ⟨c89Roles, follows_c89⟩
  | c => exact ⟨cRoles, follows_words nofun (List.append_nil _).symm rfl⟩
  | cpp => exact ⟨cRoles, follows_words nofun rfl rfl⟩
  | java => exact ⟨cRoles, follows_words nofun rfl rfl⟩
  | csharp => exact ⟨cRoles, follows_words nofun rfl rfl⟩
  | _ => exact absurd hl (by decide)

/-- The languages of the C family write the lexemes of every text. -/
theorem highlight_cFamily {l : Language} (hl : l ∈ [c89, c, cpp, java, csharp]) (text : String) :
    builtin.highlight text l.name =
      String.ofList (Lexeme.render l.grammar.keywords
        (Lexeme.ofText l.cFamilyRules text.toList)) := by
  have hplain : l ≠ plainText := by
    rintro rfl
    exact absurd hl (by decide)
  obtain ⟨roles, hfollows⟩ := follows_cFamily hl
  rw [highlight_builtin hplain, hfollows.highlight_eq_render]

/-- A slash that is given up in front of a literal, in which a quote is escaped and a comment opener
is text. -/
theorem highlight_cFamily_literal :
    csharp ∈ [c89, c, cpp, java, csharp] ∧
      builtin.highlight "a/\"b\\\"/* */\"" csharp.name =
        String.ofList (Lexeme.render csharp.grammar.keywords
          [.plain "a/".toList, .construct "literal" "\"b\\\"/* */\"".toList]) := by
  have hlexemes : Lexeme.ofText csharp.cFamilyRules "a/\"b\\\"/* */\"".toList =
      [.plain "a/".toList, .construct "literal" "\"b\\\"/* */\"".toList] := by decide +kernel
  have hl : csharp ∈ [c89, c, cpp, java, csharp] := by decide
  exact ⟨hl, by rw [highlight_cFamily hl, hlexemes]⟩

/-- SQL and Pascal write the lexemes of every text. -/
theorem highlight_sql_pascal (text : String) :
    builtin.highlight text sql.name =
        String.ofList (Lexeme.render sql.grammar.keywords (Lexeme.ofText sqlRules text.toList)) ∧
      builtin.highlight text pascal.name =
        String.ofList (Lexeme.render pascal.grammar.keywords
          (Lexeme.ofText pascalRules text.toList)) := by
  rw [highlight_builtin (l := sql) nofun, highlight_builtin (l := pascal) nofun]
  exact ⟨follows_sql.highlight_eq_render text, follows_pascal.highlight_eq_render text⟩

end Language
end Highlighter
