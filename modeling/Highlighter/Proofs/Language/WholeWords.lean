import Highlighter.Proofs.Language.Content
import Highlighter.Proofs.Scan.WholeWords

/-!
# Keywords are whole words

Every built-in grammar is seamless, so that what it marks as a word is a whole word of the text
(`Language.wholeWord_of_highlight`), wherever the scanner cuts the text. Scheme is the hard case: a token
ends with any character that does not go on with it, a letter beyond ASCII included, which is carried
over to the plain text; but no word of Scheme begins with such a letter.
-/

namespace Highlighter

namespace Recipe

variable {l : Ledger} {calls words words' : List Call}

/-- Calls that only mark words leave the tables of the calls before. -/
lemma tables_append (h : words.all (Call.marks (l.allows []))) :
    tables (calls ++ words) = { tables calls with keywords := (tables (calls ++ words)).keywords } := by
  rw [tables, List.foldl_append]
  exact Grammar.foldl_marks _ h

/-- The same calls and more words. -/
lemma seamless_append (h : l.Seamless (tables calls)) (hwords : words.all (Call.marks (l.allows [])))
    (hcovers : (tables calls).keywords.Covers (tables (calls ++ words)).keywords) :
    l.Seamless (tables (calls ++ words)) := by
  rw [tables_append hwords]
  exact h.withOverlay hcovers

/-- The same calls with other words. -/
lemma seamless_rewords (h : l.Seamless (tables (calls ++ words)))
    (hwords : words.all (Call.marks (l.allows []))) (hwords' : words'.all (Call.marks (l.allows [])))
    (hcovers : (tables (calls ++ words)).keywords.Covers (tables (calls ++ words')).keywords) :
    l.Seamless (tables (calls ++ words')) := by
  rw [tables_append hwords] at h
  rw [tables_append hwords']
  exact h.withOverlay hcovers

/-- The scanner of C is seamless. -/
lemma seamless_c : Ledger.code.Seamless (tables c) := Ledger.seamless_of_check (by decide +kernel)

/-- The scanner of Perl is seamless. -/
lemma seamless_perl : Ledger.code.Seamless (tables perl) :=
  Ledger.seamless_of_check (by decide +kernel)

end Recipe

namespace Language

open Strip Registry

/-- Languages with words are seamless. -/
lemma seamless_recipe {l : Language} (hl : l ≠ xml) (hplain : l ≠ plainText) :
    Ledger.code.Seamless (Recipe.tables l.recipe) := by
  cases l with
  | c89 => exact Ledger.seamless_of_check (by decide +kernel)
  | c => exact Recipe.seamless_c
  | cpp => exact Recipe.seamless_append Recipe.seamless_c rfl (by decide +kernel)
  | php => exact Ledger.seamless_of_check (by decide +kernel)
  | perl => exact Recipe.seamless_perl
  | java => exact Recipe.seamless_append Recipe.seamless_c rfl (by decide +kernel)
  | csharp => exact Recipe.seamless_append Recipe.seamless_c rfl (by decide +kernel)
  | ruby => exact Recipe.seamless_rewords Recipe.seamless_perl rfl rfl (by decide +kernel)
  | python => exact Ledger.seamless_of_check (by decide +kernel)
  | pascal => exact Ledger.seamless_of_check (by decide +kernel)
  | sql => exact Ledger.seamless_of_check (by decide +kernel)
  | xml => exact absurd rfl hl
  | scheme => exact Ledger.seamless_of_check (by decide +kernel)
  | plainText => exact absurd rfl hplain

/-- Every built-in grammar with words is seamless. -/
theorem seamless {l : Language} (hl : l ≠ xml) (hplain : l ≠ plainText) :
    Ledger.code.Seamless l.grammar := by
  rw [grammar_eq hplain]
  exact (seamless_recipe hl hplain).withName l.name

/-- A highlighted text is a page of the text that marks whole words. -/
lemma exists_page_marked {l : Language} (hl : l ≠ xml) (hplain : l ≠ plainText) (text : String) :
    ∃ p : Page, p.spell Page.plain = (builtin.highlight text l.name).toList ∧
      p.content = text.toList ∧ p.nest Ledger.code.allows [] = some [] ∧
      l.grammar.keywords.MarksWhole [] [] p := by
  have hkept := kept hplain
  rw [ledger_eq_code hl] at hkept
  rw [highlight_builtin hplain]
  exact hkept.exists_page_marked (seamless hl hplain) text

/-- The language of markup and that of plain text have no words. -/
lemma not_hasClass {l : Language} (hl : l = xml ∨ l = plainText) (className : String) :
    ¬ l.grammar.keywords.HasClass className := by
  have hsets : l.grammar.keywords.sets = [] := by rcases hl with rfl | rfl <;> rfl
  rintro ⟨s, hs, -⟩
  exact absurd hs (by simp [hsets])

/-- Keywords are whole words of the text. Between its tags, a span with a class of the overlay has a
run of identifier characters, as long as it can be in the text, and the class is that of the run. -/
theorem wholeWord_of_highlight {l : Language} {text : String} (htext : SpellsNoTag text.toList)
    {className : String} (hclass : l.grammar.keywords.HasClass className) {before after : Page}
    (hread : read (builtin.highlight text l.name).toList =
      before ++ .tag (.opening className) :: after) :
    ∃ (word : List Char) (tail : Page), after = Page.text word ++ .tag .closing :: tail ∧
      text.toList = before.content ++ word ++ tail.content ∧
      l.grammar.keywords.WholeWord before.content word tail.content className := by
  have hl : l ≠ xml := fun h => not_hasClass (.inl h) className hclass
  have hplain : l ≠ plainText := fun h => not_hasClass (.inr h) className hclass
  obtain ⟨p, hspell, hcontent, hnest, hmarks⟩ := exists_page_marked hl hplain text
  rw [read_page htext hspell hcontent hnest] at hread
  obtain ⟨word, tail, rfl, hword⟩ := hmarks before className after hread hclass
  rw [List.nil_append, List.append_nil] at hword
  refine ⟨word, tail, rfl, ?_, hword⟩
  rw [← hcontent, hread]
  simp [Page.content]

/-- The letter that ends the symbol is carried over to a run that is no word; the next run is one. -/
theorem wholeWord_of_highlight_carried :
    SpellsNoTag "'aéif (if x)".toList ∧ scheme.grammar.keywords.HasClass "keyword" ∧
      ∃ before after : Page, read (builtin.highlight "'aéif (if x)" scheme.name).toList =
          before ++ .tag (.opening "keyword") :: after ∧
        ∃ (word : List Char) (tail : Page), after = Page.text word ++ .tag .closing :: tail ∧
          "'aéif (if x)".toList = before.content ++ word ++ tail.content ∧
          scheme.grammar.keywords.WholeWord before.content word tail.content "keyword" := by
  have htext : SpellsNoTag "'aéif (if x)".toList := by decide +kernel
  have hclass : scheme.grammar.keywords.HasClass "keyword" := by
    unfold Overlay.HasClass
    decide +kernel
  have hread : read (builtin.highlight "'aéif (if x)" scheme.name).toList =
      read "<span class=\"symbol\">'a</span>éif (".toList ++
        .tag (.opening "keyword") :: read "if</span> x)".toList := by
    rw [highlight_builtin (l := scheme) nofun]
    decide +kernel
  exact ⟨htext, hclass, _, _, hread, wholeWord_of_highlight htext hclass hread⟩

end Language
end Highlighter
