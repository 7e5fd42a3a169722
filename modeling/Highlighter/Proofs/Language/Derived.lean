import Highlighter.Proofs.Language.Content
import Highlighter.Proofs.Language.Lexemes
import Highlighter.Proofs.Lexeme.Pages

/-!
# Languages that derive from C

The languages of the C family cut a text into the same lexemes, but for the line comments that C89 does
not know; the words that they mark stand in spans of their own. Without these spans, what is written
hangs on the lexemes alone (`unwrap_highlight`). Main statement: `unwrap_highlight_eq`, the languages
that derive from C mark the same comments and literals, and so does C89 where there are no line
comments.
-/

namespace Highlighter.Language

open Strip Registry

/-- The classes of the spans around words. -/
def wordClasses : List String := ["keyword", "preprocessor"]

variable {l : Language} {text : String}

/-- The words of the C family are keywords and directives. -/
lemma className_mem_wordClasses (hl : l ∈ [c89, c, cpp, java, csharp]) :
    ∀ s ∈ l.grammar.keywords.sets, s.className ∈ wordClasses := by
  cases l with
  | c89 | c | cpp | java | csharp => decide
  | _ => exact absurd hl (by decide)

/-- The constructs of the C family have allowed classes, and none of those of words. -/
lemma className_cFamilyRules (l : Language) :
    ∀ r ∈ l.cFamilyRules, Ledger.code.allows [] r.className ∧ r.className ∉ wordClasses := by
  cases l <;> decide

/-- Without the spans of its words, a text is written in its lexemes, with no words at all. -/
theorem unwrap_highlight (hl : l ∈ [c89, c, cpp, java, csharp]) (htext : SpellsNoTag text.toList) :
    unwrap wordClasses (builtin.highlight text l.name) =
      String.ofList (Lexeme.render .empty (Lexeme.ofText l.cFamilyRules text.toList)) := by
  have hplain : l ≠ plainText := by
    rintro rfl
    exact absurd hl (by decide)
  obtain ⟨roles, hfollows⟩ := follows_cFamily hl
  have hrule : ∀ lexeme ∈ Lexeme.ofText l.cFamilyRules text.toList, ∀ c ∈ lexeme.className?,
      Ledger.code.allows [] c ∧ c ∉ wordClasses := by
    intro lexeme hlexeme c hc
    obtain ⟨r, hr, rfl⟩ := Lexeme.exists_rule_of_mem_lexFrom hlexeme c hc
    exact className_cFamilyRules l r hr
  have hclasses : ∀ s ∈ l.grammar.keywords.sets, Ledger.code.allows [] s.className :=
    ledger_eq_code (l := l) (by rintro rfl; exact absurd hl (by decide)) ▸ (kept hplain).classes
  -- the output is the page of the lexemes, and is read as that page
  have hread : read (builtin.highlight text l.name).toList =
      Lexeme.page l.grammar.keywords (Lexeme.ofText l.cFamilyRules text.toList) := by
    refine read_page htext ?_ ?_ (Lexeme.nest_page hclasses fun x hx c hc => (hrule x hx c hc).1)
    · rw [Lexeme.spell_page, highlight_builtin hplain, hfollows.highlight_eq_render,
        String.toList_ofList]
    · rw [Lexeme.content_page, Lexeme.flatMap_text_ofText]
  rw [unwrap, hread, Lexeme.unwrap_page (className_mem_wordClasses hl)
    fun x hx c hc => (hrule x hx c hc).2, Lexeme.spell_page]

/-- C89 cuts a text without line comments as C does. -/
lemma ofText_c89Rules (hslashes : ¬ "//".toList <:+: text.toList) :
    Lexeme.ofText cRules text.toList = Lexeme.ofText c89Rules text.toList :=
  Lexeme.ofText_cons_of_not_infix hslashes

/-- The languages that derive from C write the same, but for the spans of their words, and C89
writes it as well where no two slashes stand side by side. -/
theorem unwrap_highlight_eq (htext : SpellsNoTag text.toList) :
    (∀ l ∈ [c, cpp, java, csharp], ∀ l' ∈ [c, cpp, java, csharp],
      unwrap wordClasses (builtin.highlight text l.name) =
        unwrap wordClasses (builtin.highlight text l'.name)) ∧
    (¬ "//".toList <:+: text.toList → ∀ l ∈ [c, cpp, java, csharp],
      unwrap wordClasses (builtin.highlight text c89.name) =
        unwrap wordClasses (builtin.highlight text l.name)) := by
  -- the derived languages add words to the constructs of C
  have hderived : ∀ l ∈ [c, cpp, java, csharp],
      unwrap wordClasses (builtin.highlight text l.name) =
        String.ofList (Lexeme.render .empty (Lexeme.ofText cRules text.toList)) := by
    intro l hl
    have hrules : l.cFamilyRules = cRules := by
      cases l with
      | c89 => exact absurd hl (by decide)
      | _ => rfl
    rw [unwrap_highlight (List.mem_cons_of_mem _ hl) htext, hrules]
  refine ⟨fun l hl l' hl' => (hderived l hl).trans (hderived l' hl').symm, fun hslashes l hl => ?_⟩
  rw [hderived l hl, ofText_c89Rules hslashes]
  exact unwrap_highlight (by decide) htext

/-- A word that only one of the languages knows, in front of a comment behind an abandoned lookahead
and of a literal that breaks off. -/
theorem unwrap_highlight_eq_unfinished :
    SpellsNoTag "#define class if/ /* int */ \"</ \\".toList ∧
      ¬ "//".toList <:+: "#define class if/ /* int */ \"</ \\".toList ∧
      unwrap wordClasses (builtin.highlight "#define class if/ /* int */ \"</ \\" cpp.name) =
        unwrap wordClasses (builtin.highlight "#define class if/ /* int */ \"</ \\" java.name) ∧
      unwrap wordClasses (builtin.highlight "#define class if/ /* int */ \"</ \\" c89.name) =
        unwrap wordClasses (builtin.highlight "#define class if/ /* int */ \"</ \\" csharp.name) := by
  have htext : SpellsNoTag "#define class if/ /* int */ \"</ \\".toList := by decide
  have hslashes : ¬ "//".toList <:+: "#define class if/ /* int */ \"</ \\".toList := by decide
  obtain ⟨hderived, hc89⟩ := unwrap_highlight_eq htext
  exact ⟨htext, hslashes, hderived cpp (by decide) java (by decide),
    hc89 hslashes csharp (by decide)⟩

end Highlighter.Language
