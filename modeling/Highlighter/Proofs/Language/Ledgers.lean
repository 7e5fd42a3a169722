import Highlighter.Language.Basic
import Highlighter.Proofs.Grammar.Derivation
import Highlighter.Proofs.Grammar.Soundness

/-!
# The ledgers of the built-in languages

Two ledgers serve all built-in languages: `Ledger.code` for those that write the text as it is, in
which no span opens inside another one, and `Ledger.markup` for the one that escapes it, in which
attribute values nest in tags. The tables are checked once for languages that differ in their words
only. Main statements: `Language.kept`, and `Language.build_builder`, every built-in grammar is
handed out.
-/

namespace Highlighter

open State

namespace Ledger

/-- Programming languages: a lookahead state holds the character that led to it, and literals,
comments and symbols stand side by side. -/
def code : Ledger where
  escapes := false
  held
    | slashSeen => ['/']
    | dashSeen => ['-']
    | parenSeen => ['(']
    | schemeHash => ['#']
    | _ => []
  spans
    | doubleQuoteLiteral | doubleQuoteEscape | singleQuoteLiteral | singleQuoteEscape
    | backtickLiteral | backtickEscape | schemeCharLiteral | schemeCharBody => ["literal"]
    | blockCommentBody | blockCommentEnd | lineComment | lineCommentEscape | braceComment =>
      ["comment"]
    | schemeSymbol => ["symbol"]
    | _ => []
  allows opened className :=
    opened.isEmpty &&
      ["keyword", "preprocessor", "comment", "literal", "symbol"].contains className

/-- Markup languages: nothing is held, tags and entities stand side by side, and attribute values
inside tags. -/
def markup : Ledger where
  escapes := true
  held _ := []
  spans
    | xmlTagStart | xmlTag | xmlProcessingInstruction => ["tag"]
    | htmlEntity => ["entity"]
    | doubleQuoteLiteral | singleQuoteLiteral => ["literal", "tag"]
    | _ => []
  allows
    | [], "tag" | [], "entity" | ["tag"], "literal" => true
    | _, _ => false

end Ledger

namespace Recipe

/-- The grammar that a recipe makes of nothing. -/
def tables (calls : List Call) : Grammar := calls.foldl Grammar.apply (.empty "")

/-- Calls behind a recipe that only mark words keep the ledger of its tables. -/
lemma kept_append {l : Ledger} {calls words : List Call} (h : l.Kept (tables calls))
    (hwords : words.all (Call.marks (l.allows []))) : l.Kept (tables (calls ++ words)) := by
  rw [tables, List.foldl_append]
  exact h.foldl_apply hwords

/-- The scanner of C keeps its ledger. -/
lemma kept_c : Ledger.code.Kept (tables c) := Ledger.kept_of_keeps (by decide +kernel)

/-- The scanner of scripts with long strings keeps its ledger. -/
lemma kept_multilineScript : Ledger.code.Kept (tables multilineScript) :=
  Ledger.kept_of_keeps (by decide +kernel)

end Recipe

namespace Language

/-- The ledger of a language. -/
def ledger : Language → Ledger
  | xml => .markup
  | _ => .code

/-- The grammar of a language is that of its recipe, under its name. -/
lemma grammar_eq {l : Language} (hl : l ≠ plainText) :
    l.grammar = { Recipe.tables l.recipe with name := l.name } := by
  have hbase : l.base = .empty "" := by cases l <;> first | rfl | exact absurd rfl hl
  rw [grammar, hbase, Grammar.foldl_withName]
  rfl

/-- The tables keep their ledgers. Languages that add nothing but words to those of another one share
its check. -/
lemma kept_recipe {l : Language} (hl : l ≠ plainText) :
    l.ledger.Kept (Recipe.tables l.recipe) := by
  cases l with
  | c89 => exact Ledger.kept_of_keeps (by decide +kernel)
  | c => exact Recipe.kept_c
  | cpp => exact Recipe.kept_append Recipe.kept_c rfl
  | php => exact Ledger.kept_of_keeps (by decide +kernel)
  | perl => exact Recipe.kept_append Recipe.kept_multilineScript rfl
  | java => exact Recipe.kept_append Recipe.kept_c rfl
  | csharp => exact Recipe.kept_append Recipe.kept_c rfl
  | ruby => exact Recipe.kept_append Recipe.kept_multilineScript rfl
  | python => exact Ledger.kept_of_keeps (by decide +kernel)
  | pascal => exact Ledger.kept_of_keeps (by decide +kernel)
  | sql => exact Ledger.kept_of_keeps (by decide +kernel)
  | xml => exact Ledger.kept_of_keeps (by decide +kernel)
  | scheme => exact Ledger.kept_of_keeps (by decide +kernel)
  | plainText => exact absurd rfl hl

/-- Every built-in grammar but that of plain text keeps its ledger. -/
theorem kept {l : Language} (hl : l ≠ plainText) : l.ledger.Kept l.grammar := by
  rw [grammar_eq hl]
  exact (kept_recipe hl).withOverlay l.name (kept_recipe hl).classes

/-- The grammar of a language has no defect. -/
lemma defect?_eq_none (l : Language) : l.grammar.defect? = none := by
  by_cases hl : l = plainText
  · subst hl
    decide +kernel
  · exact (kept hl).defect?_eq_none

/-- The recipe of a language asks for no wide key. -/
lemma wideKeys_builder (l : Language) : l.builder.wideKeys = [] := by
  rw [builder, Builder.wideKeys_run, Builder.derive, List.nil_append]
  cases l <;> decide +kernel

/-- Every built-in grammar is handed out. -/
theorem build_builder (l : Language) : l.builder.build = .ok l.grammar := by
  have hdefect := defect?_eq_none l
  rw [← grammar_builder] at hdefect ⊢
  exact Builder.build_eq_ok (wideKeys_builder l) hdefect

end Language
end Highlighter
