import Mathlib.Data.List.Infix
import Highlighter.Proofs.Markup.Page

/-!
# Reading pages back

`Strip.read` cuts a highlighted text into pieces with the recognizer that stripping uses, so that
stripping keeps exactly the characters among the pieces (`strip_eq_content_read`). Main statement:
`read_spell`, a page whose text spells no tag is read back as it was written. A text fragment in
front of a tag cannot swallow the tag, since a tag has its only `<` at the beginning
(`prefix_content`).
-/

namespace Highlighter.Strip

/-- The tag that a text starts with, if it starts with one. -/
def tagAt (text : List Char) : Tag :=
  if Span.close.toList.isPrefixOf text then .closing
  else .opening (String.ofList ((text.drop openingHead.length).takeWhile isClassChar))

/-- Goes on reading: `skip` is the number of characters that still belong to the tag read last. -/
def readFrom (skip : Nat) : List Char → Page
  | [] => []
  | c :: rest =>
    match skip with
    | skip + 1 => readFrom skip rest
    | 0 =>
      if c = '<' then
        match tagLength? (c :: rest) with
        | some n => .tag (tagAt (c :: rest)) :: readFrom (n - 1) rest
        | none => .char c :: readFrom 0 rest
      else .char c :: readFrom 0 rest

/-- The pieces of a highlighted text. -/
def read (html : List Char) : Page := readFrom 0 html

/-- The text has neither a closing tag in it nor what opening tags start with. -/
def SpellsNoTag (text : List Char) : Prop :=
  ¬ Span.close.toList <:+: text ∧ ¬ openingHead <:+: text

instance (text : List Char) : Decidable (SpellsNoTag text) :=
  inferInstanceAs (Decidable (_ ∧ _))

/-- The closing tag, character by character. -/
lemma close_eq : Span.close.toList = ['<', '/', 's', 'p', 'a', 'n', '>'] := by decide +kernel

/-- What every opening tag starts with, character by character. -/
lemma openingHead_eq :
    openingHead = ['<', 's', 'p', 'a', 'n', ' ', 'c', 'l', 'a', 's', 's', '=', '"'] := by
  decide +kernel

/-- Stripping keeps the text of the pieces. -/
lemma strip_eq_content_read (html : List Char) : strip html = (read html).content := by
  suffices h : ∀ skip, stripFrom [] skip html = (readFrom skip html).content from h 0
  induction html with
  | nil => exact fun _ => rfl
  | cons c rest ih =>
    intro skip
    cases skip with
    | succ skip => exact ih skip
    | zero =>
      by_cases hc : c = '<'
      · subst hc
        cases hn : tagLength? ('<' :: rest) with
        | some n => simp [stripFrom, readFrom, hn, ih, Page.content]
        | none => simp [stripFrom, readFrom, hn, stripFrom_eq_append rest ['<'], ih, Page.content]
      · simp [stripFrom, readFrom, hc, stripFrom_eq_append rest [c], ih, Page.content]

/-- A part of a text that spells no tag spells none. -/
lemma SpellsNoTag.of_infix {a b : List Char} (h : SpellsNoTag b) (hab : a <:+: b) :
    SpellsNoTag a :=
  ⟨fun ha => h.1 (ha.trans hab), fun ha => h.2 (ha.trans hab)⟩

/-- A text without a less-than sign spells no tag. -/
lemma spellsNoTag_of_not_mem {text : List Char} (h : '<' ∉ text) : SpellsNoTag text := by
  refine ⟨fun ha => h (ha.subset ?_), fun ha => h (ha.subset ?_)⟩
  · rw [close_eq]; exact List.mem_cons_self
  · rw [openingHead_eq]; exact List.mem_cons_self

/-- What a page begins with is found in its text if it has no first character of tags in it. -/
lemma prefix_content {w : List Char} {p : Page} (hw : '<' ∉ w) (h : w <+: p.spell Page.plain) :
    w <+: p.content := by
  induction p generalizing w with
  | nil => exact h
  | cons x p ih =>
    cases w with
    | nil => exact List.nil_prefix
    | cons a w =>
      cases x with
      | char c =>
        obtain ⟨rfl, hp⟩ := List.cons_prefix_cons.mp h
        exact List.cons_prefix_cons.mpr ⟨rfl, ih (fun ha => hw (List.mem_cons_of_mem _ ha)) hp⟩
      | tag t =>
        obtain ⟨cs, hcs⟩ := t.spell_eq_cons
        rw [Page.spell, hcs, List.cons_append] at h
        obtain ⟨rfl, -⟩ := List.cons_prefix_cons.mp h
        exact absurd List.mem_cons_self hw

/-- No tag is recognized at a character of a text that spells no tag. -/
lemma tagLength?_eq_none {c : Char} {p : Page} (h : SpellsNoTag (c :: p.content)) :
    tagLength? (c :: p.spell Page.plain) = none := by
  -- only the first character of a tag is `<`, so the rest of it cannot reach into a tag of the page
  have lift : ∀ {w : List Char}, '<' ∉ w → '<' :: w <+: c :: p.spell Page.plain →
      '<' :: w <:+: c :: p.content := by
    intro w hw h
    obtain ⟨rfl, hp⟩ := List.cons_prefix_cons.mp h
    exact (List.cons_prefix_cons.mpr ⟨rfl, prefix_content hw hp⟩).isInfix
  have hclose : ¬ Span.close.toList <+: c :: p.spell Page.plain := by
    intro hp
    apply h.1
    rw [close_eq] at hp ⊢
    exact lift (by decide) hp
  have hopen : ¬ openingHead <+: c :: p.spell Page.plain := by
    intro hp
    apply h.2
    rw [openingHead_eq] at hp ⊢
    exact lift (by decide) hp
  simp only [tagLength?, openingLength?, List.isPrefixOf_iff_prefix]
  rw [if_neg hclose, if_neg hopen]

/-- A class name ends at the quote behind it. -/
lemma takeWhile_isClassChar {name : List Char} (h : ∀ c ∈ name, isClassChar c)
    (rest : List Char) : (name ++ '"' :: rest).takeWhile isClassChar = name := by
  rw [List.takeWhile_append_of_pos h, List.takeWhile_cons_of_neg (by decide), List.append_nil]

/-- What every opening tag ends with, character by character. -/
lemma openingEnd_eq : "\">".toList = openingEnd := by decide +kernel

/-- An opening tag is its head, the class name and its end. -/
lemma spell_opening (className : String) :
    (Tag.opening className).spell = openingHead ++ className.toList ++ openingEnd := by
  simp only [Tag.spell, Span.opening, String.toList_append, openingEnd_eq]
  rfl

/-- No opening tag begins like the closing one. -/
lemma not_closing_at_opening (className : String) (rest : List Char) :
    ¬ Span.close.toList <+: (Tag.opening className).spell ++ rest := by
  rw [spell_opening, close_eq, openingHead_eq]
  simp

/-- A written tag is recognized with its whole length, whatever stands behind it. -/
lemma tagLength?_spell {t : Tag} (ht : t.WellFormed) (rest : List Char) :
    tagLength? (t.spell ++ rest) = some t.spell.length := by
  cases t with
  | closing => simp [tagLength?, Tag.spell, ← String.length_toList]
  | opening className =>
    obtain ⟨hne, hname⟩ := Tag.wellFormed_opening.mp ht
    have hlength : (Tag.opening className).spell.length
        = openingHead.length + className.toList.length + openingEnd.length := by
      simp only [spell_opening, List.length_append]
    simp only [tagLength?, List.isPrefixOf_iff_prefix, if_neg (not_closing_at_opening className rest),
      openingLength?, hlength]
    simp only [spell_opening, List.append_assoc]
    simp [takeWhile_isClassChar hname, hne, openingEnd]

/-- The tag that a written tag starts with is that tag. -/
lemma tagAt_spell {t : Tag} (ht : t.WellFormed) (rest : List Char) :
    tagAt (t.spell ++ rest) = t := by
  cases t with
  | closing => simp [tagAt, Tag.spell]
  | opening className =>
    obtain ⟨-, hname⟩ := Tag.wellFormed_opening.mp ht
    simp only [tagAt, List.isPrefixOf_iff_prefix, if_neg (not_closing_at_opening className rest)]
    simp only [spell_opening, List.append_assoc]
    simp [takeWhile_isClassChar hname, openingEnd]

/-- The characters of the tag read last are passed over. -/
lemma readFrom_length_append (cs rest : List Char) :
    readFrom cs.length (cs ++ rest) = readFrom 0 rest := by
  induction cs with
  | nil => rfl
  | cons c cs ih => exact ih

/-- A written tag is read as one piece. -/
lemma read_tag {t : Tag} (ht : t.WellFormed) (rest : List Char) :
    read (t.spell ++ rest) = .tag t :: read rest := by
  have hlength := tagLength?_spell ht rest
  have htag := tagAt_spell ht rest
  obtain ⟨cs, hcs⟩ := t.spell_eq_cons
  rw [hcs, List.cons_append] at hlength htag ⊢
  simp only [read, readFrom, if_true, hlength, htag, List.length_cons, Nat.add_sub_cancel,
    readFrom_length_append]

/-- A recognized tag is written at the beginning of the text with just the recognized length. -/
lemma eq_spell_tagAt {text : List Char} {n : Nat} (h : tagLength? text = some n) :
    ∃ rest, text = (tagAt text).spell ++ rest ∧ n = (tagAt text).spell.length := by
  unfold tagLength? at h
  unfold tagAt
  -- both look for a closing tag first
  split at h
  · rename_i hclose
    obtain ⟨rest, hrest⟩ := List.isPrefixOf_iff_prefix.mp hclose
    rw [if_pos hclose, ← Option.some.inj h]
    exact ⟨rest, hrest.symm, String.length_toList.symm⟩
  · rename_i hclose
    rw [if_neg hclose]
    simp only [openingLength?] at h
    split at h
    · rename_i hhead
      obtain ⟨body, rfl⟩ := List.isPrefixOf_iff_prefix.mp hhead
      rw [List.drop_left] at h ⊢
      split at h
      · rename_i hname
        rw [Bool.and_eq_true, List.isPrefixOf_iff_prefix] at hname
        obtain ⟨rest, hrest⟩ := hname.2
        have hbody := List.prefix_iff_eq_append.mp (List.takeWhile_prefix isClassChar (l := body))
        rw [← hrest] at hbody
        refine ⟨rest, ?_, ?_⟩
        · rw [spell_opening, String.toList_ofList, List.append_assoc, List.append_assoc, hbody]
        · rw [← Option.some.inj h, spell_opening, String.toList_ofList, List.length_append,
            List.length_append]
      · exact absurd h (by simp)
    · exact absurd h (by simp)

/-- The pieces spell the text that they are read from, but for what is skipped. -/
lemma spell_readFrom (skip : Nat) (html : List Char) :
    (readFrom skip html).spell Page.plain = html.drop skip := by
  induction html generalizing skip with
  | nil => simp [readFrom, Page.spell]
  | cons c rest ih =>
    cases skip with
    | succ skip => exact ih skip
    | zero =>
      have hchar : Page.spell Page.plain (.char c :: readFrom 0 rest) = c :: rest := by
        rw [Page.spell, ih]
        rfl
      rw [readFrom]
      split
      -- a less-than sign begins a tag, whose other characters are skipped then, or stands for
      -- itself
      · split
        · rename_i n hn
          obtain ⟨rest', htext, hlength⟩ := eq_spell_tagAt hn
          obtain ⟨cs, hcs⟩ := (tagAt (c :: rest)).spell_eq_cons
          rw [hcs, List.cons_append] at htext
          rw [hcs] at hlength
          obtain ⟨rfl, rfl⟩ := List.cons.inj htext
          rw [Page.spell, ih, hcs, hlength, List.length_cons, Nat.add_sub_cancel, List.drop_left]
          rfl
        · exact hchar
      · exact hchar

/-- Reading loses nothing: the pieces are written as the text they were read from. -/
theorem spell_read (html : List Char) : (read html).spell Page.plain = html :=
  spell_readFrom 0 html

/-- A page whose text spells no tag is read back as it was written. -/
theorem read_spell {p : Page} (htags : ∀ t ∈ p.tags, t.WellFormed)
    (htext : SpellsNoTag p.content) : read (p.spell Page.plain) = p := by
  induction p with
  | nil => rfl
  | cons x p ih =>
    cases x with
    | char c =>
      have hp : read (Page.spell Page.plain p) = p :=
        ih htags (htext.of_infix (List.suffix_cons c _).isInfix)
      have hnone := tagLength?_eq_none htext
      rw [read] at hp
      rw [Page.spell, Page.plain, List.singleton_append, read, readFrom]
      -- only a less-than sign is looked at, and here no tag begins with it
      by_cases hc : c = '<'
      · rw [if_pos hc, hnone, hp]
      · rw [if_neg hc, hp]
    | tag t =>
      rw [Page.spell, read_tag (htags t List.mem_cons_self)]
      rw [ih (fun t ht => htags t (List.mem_cons_of_mem _ ht)) htext]

/-- Stripping a page whose text spells no tag leaves the text. -/
theorem strip_spell {p : Page} (htags : ∀ t ∈ p.tags, t.WellFormed)
    (htext : SpellsNoTag p.content) : strip (p.spell Page.plain) = p.content := by
  rw [strip_eq_content_read, read_spell htags htext]

end Highlighter.Strip

/-! ### Texts and tags -/

namespace Highlighter

/-- A text of any length, or a tag. -/
inductive Fragment where
  | text (cs : List Char)
  | tag (t : Tag)
  deriving DecidableEq

namespace Fragment

/-- A fragment as it is written. -/
def spell : Fragment → List Char
  | text cs => cs
  | tag t => t.spell

/-- The text of a fragment. -/
def content : Fragment → List Char
  | text cs => cs
  | tag _ => []

/-- The pieces of a fragment. -/
def page : Fragment → Page
  | text cs => .text cs
  | tag t => [.tag t]

variable {fragments : List Fragment} {f : Fragment} {t : Tag}

/-- The pieces of a fragment are spelled as the fragment is written. -/
lemma spell_page (f : Fragment) : f.page.spell Page.plain = f.spell := by
  cases f with
  | text cs => rw [page, Page.spell_text, Page.flatMap_plain, spell]
  | tag t => exact List.append_nil _

/-- The pieces of a fragment have its text. -/
lemma content_page (f : Fragment) : f.page.content = f.content := by
  cases f with
  | text cs => exact Page.content_text cs
  | tag t => rfl

/-- The only tag among the pieces of a fragment is the fragment itself. -/
lemma mem_tags_page : t ∈ f.page.tags ↔ f = tag t := by
  cases f with
  | text cs => simp [page]
  | tag t' => simp [page, Page.tags, eq_comm]

/-- The pieces of several fragments are spelled as the fragments are written. -/
lemma spell_flatMap_page (fragments : List Fragment) :
    Page.spell Page.plain (fragments.flatMap page) = fragments.flatMap spell := by
  induction fragments with
  | nil => rfl
  | cons f fragments ih => rw [List.flatMap_cons, Page.spell_append, spell_page, ih, List.flatMap_cons]

/-- The pieces of several fragments have their texts. -/
lemma content_flatMap_page (fragments : List Fragment) :
    Page.content (fragments.flatMap page) = fragments.flatMap content := by
  induction fragments with
  | nil => rfl
  | cons f fragments ih =>
    rw [List.flatMap_cons, Page.content_append, content_page, ih, List.flatMap_cons]

/-- The tags among the pieces of several fragments are those among the fragments. -/
lemma mem_tags_flatMap_page : t ∈ Page.tags (fragments.flatMap page) ↔ tag t ∈ fragments := by
  induction fragments with
  | nil => simp [Page.tags]
  | cons f fragments ih =>
    rw [List.flatMap_cons, Page.tags_append, List.mem_append, mem_tags_page, ih, List.mem_cons,
      eq_comm]

end Fragment

namespace Strip

/-- Stripping takes away the tags that were written between texts, and nothing else, whatever the texts
end in, if the texts do not spell a tag together. -/
theorem strip_fragments (fragments : List Fragment) (htags : ∀ t, .tag t ∈ fragments → t.WellFormed)
    (htext : SpellsNoTag (fragments.flatMap Fragment.content)) :
    strip (fragments.flatMap Fragment.spell) = fragments.flatMap Fragment.content := by
  rw [← Fragment.content_flatMap_page] at htext ⊢
  rw [← Fragment.spell_flatMap_page]
  exact strip_spell (fun t ht => htags t (Fragment.mem_tags_flatMap_page.mp ht)) htext

/-- Texts that end in the beginning of a tag, or begin with the end of one. -/
theorem strip_fragments_partial :
    let fragments : List Fragment :=
      [.text "a<".toList, .tag (.opening "pre-word"), .text "span".toList, .tag .closing,
       .text "</".toList, .tag .closing, .text "span\">".toList]
    fragments.flatMap Fragment.spell =
        "a<<span class=\"pre-word\">span</span></</span>span\">".toList ∧
      strip (fragments.flatMap Fragment.spell) = "a<span</span\">".toList := by
  intro fragments
  have htags : ∀ t, .tag t ∈ fragments → t.WellFormed := by
    intro t ht
    simp only [fragments, List.mem_cons, reduceCtorEq, Fragment.tag.injEq, List.not_mem_nil,
      false_or, or_false] at ht
    rcases ht with rfl | rfl | rfl
    · exact rfl
    · exact trivial
    · exact trivial
  have htext : SpellsNoTag (fragments.flatMap Fragment.content) := by decide +kernel
  refine ⟨by decide +kernel, ?_⟩
  rw [strip_fragments fragments htags htext]
  decide +kernel

end Strip
end Highlighter
