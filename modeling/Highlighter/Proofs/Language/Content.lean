import Highlighter.Check
import Highlighter.Proofs.Registry.ByName
import Highlighter.Proofs.Scan.Tracking

/-!
# The content of highlighted texts

Taking the markup off a highlighted text gives the text back. Languages that write the text as it is
need a text that spells no tag, since nothing tells its tags from inserted ones (`read_code`); the
language that escapes the text needs nothing (`read_markup`).
-/

namespace Highlighter.Language

open Strip Registry

/-- A highlighted text is a page of the text whose spans are all closed. -/
lemma exists_page {l : Language} (hl : l ≠ plainText) (text : String) :
    ∃ p : Page, p.spell l.ledger.encode = (builtin.highlight text l.name).toList ∧
      p.content = text.toList ∧ p.nest l.ledger.allows [] = some [] := by
  rw [highlight_builtin hl]
  exact (kept hl).exists_page text

/-- In code, every span that may open has a well-formed class. -/
lemma isClassName_of_code_allows (opened : List String) (className : String)
    (h : Ledger.code.allows opened className) : Tag.isClassName className := by
  have hclasses : ["keyword", "preprocessor", "comment", "literal", "symbol"].all
      Tag.isClassName := by decide +kernel
  simp only [Ledger.code, Bool.and_eq_true, List.contains_iff_mem] at h
  exact List.all_eq_true.mp hclasses className h.2

/-- In markup, every span that may open has a well-formed class. -/
lemma isClassName_of_markup_allows (opened : List String) (className : String)
    (h : Ledger.markup.allows opened className) : Tag.isClassName className := by
  simp only [Ledger.markup] at h
  split at h
  · decide +kernel
  · decide +kernel
  · decide +kernel
  · exact absurd h (by simp)

/-- All languages but one keep the ledger of code. -/
lemma ledger_eq_code {l : Language} (hl : l ≠ xml) : l.ledger = .code := by
  cases l <;> first | rfl | exact absurd rfl hl

/-- A page of a text that spells no tag is read as it was written. -/
lemma read_page {html text : List Char} {p : Page} (htext : SpellsNoTag text)
    (hspell : p.spell Page.plain = html) (hcontent : p.content = text)
    (hnest : p.nest Ledger.code.allows [] = some []) : read html = p := by
  subst hspell hcontent
  exact read_spell (Page.wellFormed_of_nest isClassName_of_code_allows hnest) htext

/-- What is read from a highlighted text that spells no tag has the text as its content, and its
spans stand side by side. -/
lemma read_code {l : Language} (hl : l ≠ xml) {text : String} (htext : SpellsNoTag text.toList) :
    (read (builtin.highlight text l.name).toList).content = text.toList ∧
      (read (builtin.highlight text l.name).toList).nest Ledger.code.allows [] = some [] := by
  suffices h : ∃ p : Page, p.spell Page.plain = (builtin.highlight text l.name).toList ∧
      p.content = text.toList ∧ p.nest Ledger.code.allows [] = some [] by
    obtain ⟨p, hspell, hcontent, hnest⟩ := h
    rw [read_page htext hspell hcontent hnest]
    exact ⟨hcontent, hnest⟩
  by_cases hplain : l = plainText
  · subst hplain
    refine ⟨Page.text text.toList, ?_, Page.content_text _, Page.nest_text _ _⟩
    rw [highlight_plainText, Page.spell_text, Page.flatMap_plain]
  · have h := exists_page hplain text
    rwa [ledger_eq_code hl] at h

/-- What is read from highlighted markup is a page of the text whose characters are escaped. -/
lemma read_markup (text : String) :
    ∃ p : Page, p.spell Entity.ofChar = (builtin.highlight text xml.name).toList ∧
      read (builtin.highlight text xml.name).toList = p.escaped ∧
      p.content = text.toList ∧ p.nest Ledger.markup.allows [] = some [] := by
  obtain ⟨p, hspell, hcontent, hnest⟩ := exists_page (l := xml) nofun text
  refine ⟨p, hspell, ?_, hcontent, hnest⟩
  have htags := Page.wellFormed_of_nest isClassName_of_markup_allows hnest
  have htext : SpellsNoTag p.escaped.content := by
    rw [Page.content_escaped]
    exact spellsNoTag_of_not_mem (Entity.not_mem_escape (by decide) (by decide) _)
  rw [← Page.tags_escaped] at htags
  rw [← hspell]
  exact Page.spell_escaped ▸ read_spell htags htext

/-- Only the markup language goes by its name. -/
lemma sameIgnoringCase_xml {l : Language} :
    Ascii.sameIgnoringCase l.name xml.name = decide (l = xml) := by
  cases l <;> decide +kernel

/-- A text that spells no tag is recovered from what any language but markup makes of it. -/
theorem recoverSource_highlight {l : Language} (hl : l ≠ xml) {text : String}
    (htext : SpellsNoTag text.toList) :
    recoverSource (builtin.highlight text l.name) l.name = text := by
  rw [recoverSource, sameIgnoringCase_xml, decide_eq_false hl, strip_eq_content_read,
    (read_code hl htext).1]
  exact String.ofList_toList

/-- A text with a tag-like head, which breaks off in an escape behind an abandoned lookahead. -/
theorem recoverSource_highlight_unfinished :
    csharp ≠ xml ∧ SpellsNoTag "a</b /* <span */ /\"</sp\\".toList ∧
      recoverSource (builtin.highlight "a</b /* <span */ /\"</sp\\" csharp.name) csharp.name
        = "a</b /* <span */ /\"</sp\\" :=
  ⟨by decide, by decide +kernel, recoverSource_highlight (by decide) (by decide +kernel)⟩

/-- Every text is recovered from what the markup language makes of it. -/
theorem recoverSource_highlight_xml (text : String) :
    recoverSource (builtin.highlight text xml.name) xml.name = text := by
  obtain ⟨p, -, hread, hcontent, -⟩ := read_markup text
  rw [recoverSource, sameIgnoringCase_xml, decide_eq_true rfl, strip_eq_content_read, hread,
    Page.content_escaped, hcontent]
  simp only [if_true, Entity.unescape_escape]
  exact String.ofList_toList

end Highlighter.Language
