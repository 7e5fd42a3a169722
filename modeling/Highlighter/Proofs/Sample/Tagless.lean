import Mathlib.Data.List.Infix
import Highlighter.Sample.Text
import Highlighter.Proofs.Keyword.Spelling
import Highlighter.Proofs.Markup.Reader
import Highlighter.Proofs.Random.Always
import Highlighter.Proofs.Registry.Registrations

/-!
# Samples spell no tags

Every tag of the markup has the letters `span` in it. So a sample text spells no tag if each `n` in
it stands where no tag can have one: behind something that is not the end of `spa` and no part of
it, or before a character that does not go on in a tag. A text of this kind is `Harmless`. The
property is one of the text alone, and it holds of two texts in a row if it holds of both, so no
tag is spelled across the pieces of a sample either. It remains to go through the pieces: those put
together from single characters have no `n`, and of the fixed ones (the keywords of the built-in
languages among them) each is checked.

## Main results

* `harmless_words`: the keywords of a language are harmless
* `always_piece`: every piece that can be drawn is harmless
* `spellsNoTag_of_text`: a sample text spells no tag and is as long as it was to be
-/

namespace Highlighter.Sample

open Strip

/-- The text before an `n` cannot be a part of `spa` and does not end with it. -/
def BreaksBefore (before : List Char) : Prop :=
  ¬ before <:+ ['s', 'p', 'a'] ∧ ¬ ['s', 'p', 'a'] <:+ before

/-- The text behind an `n` goes on with a character that does not go on in tags. -/
def BreaksBehind : List Char → Prop
  | [] => False
  | c :: _ => c ≠ '>' ∧ c ≠ ' '

instance (before : List Char) : Decidable (BreaksBefore before) :=
  inferInstanceAs (Decidable (_ ∧ _))

instance (after : List Char) : Decidable (BreaksBehind after) :=
  match after with
  | [] => inferInstanceAs (Decidable False)
  | _ :: _ => inferInstanceAs (Decidable (_ ∧ _))

/-- No `n` of the text can be that of a tag, whatever the text stands between. -/
def Harmless (text : List Char) : Prop :=
  ∀ i < text.length, text[i]? = some 'n' →
    BreaksBefore (text.take i) ∨ BreaksBehind (text.drop (i + 1))

instance (text : List Char) : Decidable (Harmless text) :=
  inferInstanceAs (Decidable (∀ i < text.length, _ → _))

variable {a b cs : List Char}

/-- More text in front takes nothing away. -/
lemma BreaksBefore.append_left (h : BreaksBefore b) (a : List Char) : BreaksBefore (a ++ b) := by
  refine ⟨fun hs => h.1 ((List.suffix_append a b).trans hs), fun hs => ?_⟩
  rcases List.suffix_or_suffix_of_suffix hs (List.suffix_append a b) with hs | hs
  · exact h.2 hs
  · exact h.1 hs

/-- More text behind takes nothing away. -/
lemma BreaksBehind.append_right (h : BreaksBehind a) (b : List Char) : BreaksBehind (a ++ b) := by
  cases a with
  | nil => exact h.elim
  | cons c a => exact h

/-- A text without an `n` is harmless. -/
lemma harmless_of_not_mem (h : 'n' ∉ cs) : Harmless cs :=
  fun _ _ hi => absurd (List.mem_of_getElem? hi) h

/-- The empty text is harmless. -/
lemma harmless_nil : Harmless [] := harmless_of_not_mem List.not_mem_nil

/-- Two harmless texts in a row make a harmless one. -/
lemma Harmless.append (ha : Harmless a) (hb : Harmless b) : Harmless (a ++ b) := by
  intro i hi hn
  rcases Nat.lt_or_ge i a.length with hlt | hge
  · rw [List.getElem?_append_left hlt] at hn
    rw [List.take_append_of_le_length hlt.le, List.drop_append_of_le_length hlt]
    exact (ha i hlt hn).imp_right (·.append_right b)
  · obtain ⟨j, rfl⟩ := Nat.exists_eq_add_of_le hge
    rw [List.getElem?_append_right hge, Nat.add_sub_cancel_left] at hn
    rw [List.length_append] at hi
    rw [List.take_length_add_append, Nat.add_assoc, List.drop_length_add_append]
    exact (hb j (Nat.lt_of_add_lt_add_left hi) hn).imp_left (·.append_left a)

/-- Around each `n` of a harmless text one of the two sides breaks the tag. -/
lemma Harmless.breaks {before after : List Char} (h : Harmless (before ++ 'n' :: after)) :
    BreaksBefore before ∨ BreaksBehind after := by
  have hn := h before.length (by simp) (by simp)
  rwa [List.take_left, ← List.drop_drop, List.drop_left] at hn

/-- A harmless text has no `span` in front of an angle bracket or a space. -/
lemma Harmless.not_infix (h : Harmless cs) (pre : List Char) {c : Char} (post : List Char)
    (hc : ¬ (c ≠ '>' ∧ c ≠ ' ')) : ¬ pre ++ ['s', 'p', 'a'] ++ 'n' :: c :: post <:+: cs := by
  rintro ⟨before, after, rfl⟩
  rw [← List.append_assoc, List.append_assoc, List.cons_append, List.cons_append,
    ← List.append_assoc] at h
  rcases h.breaks with hbefore | hbehind
  · exact hbefore.2 (List.suffix_append _ _)
  · exact hc hbehind

/-- A harmless text spells no tag. -/
lemma Harmless.spellsNoTag (h : Harmless cs) : SpellsNoTag cs := by
  rw [SpellsNoTag, close_eq, openingHead_eq]
  exact ⟨h.not_infix ['<', '/'] [] (by decide),
    h.not_infix ['<'] ['c', 'l', 'a', 's', 's', '=', '"'] (by decide)⟩

/-- A capital text has no `n`. -/
lemma harmless_upper (s : String) : Harmless (Ascii.upper s) := by
  have htoUpper : ∀ c : Char, c.toUpper ≠ 'n' := by
    intro c
    by_cases hc : c.toNat < 128
    · have hascii : ∀ n < 128, (Char.ofNat n).toUpper ≠ 'n' := by decide
      rw [← Char.ofNat_toNat c]
      exact hascii _ hc
    -- only ASCII letters have a capital
    · have hletter : ¬ ('a'.val ≤ c.val ∧ c.val ≤ 'z'.val) := by
        rintro ⟨-, hz⟩
        have hle : c.toNat ≤ 122 := UInt32.le_iff_toNat_le.mp hz
        exact hc (by omega)
      have hself : c.toUpper = c := dif_neg hletter
      rintro hn
      rw [hself] at hn
      exact hc (hn ▸ by decide)
  refine harmless_of_not_mem fun hmem => ?_
  obtain ⟨c, -, hc⟩ := List.mem_map.mp hmem
  exact htoUpper c hc

/-- No piece of the flavor has an `n` that can be that of a tag. -/
structure HarmlessFlavor (f : Flavor) : Prop where
  lineComments : ∀ opener ∈ f.lineComments, Harmless opener.toList
  blockComments : ∀ c ∈ f.blockComments, Harmless c.1.toList ∧ Harmless c.2.toList
  quotes : 'n' ∉ f.quotes
  extras : ∀ extra ∈ f.extras, Harmless extra.toList

/-- The pieces of every language are harmless. -/
lemma harmlessFlavor_ofName (language : String) : HarmlessFlavor (Flavor.ofName language) := by
  have hmixed : HarmlessFlavor Flavor.mixed := by
    constructor <;> decide +kernel
  rw [Flavor.ofName]
  split
  · rename_i l _
    cases l <;> first | exact hmixed | (constructor <;> decide +kernel)
  · exact hmixed

/-- The words in the recipe of a language are harmless. -/
lemma harmless_recipe (l : Language) : ∀ c ∈ l.recipe, ∀ w ∈ c.words, Harmless w.toList := by
  cases l <;> decide +kernel

/-- The words of a built grammar are harmless. -/
lemma harmless_wordsOf (l : Language) : ∀ w ∈ wordsOf l.grammar, Harmless w.toList := by
  intro w hw
  rw [wordsOf, Std.ExtTreeSet.mem_toList, WordSet.mem_ofList, List.mem_flatMap] at hw
  obtain ⟨s, hs, hw⟩ := hw
  exact Language.everyWord_grammar (harmless_recipe l) s hs w (Std.ExtTreeSet.mem_toList.mp hw)

/-- The words that samples of a language are drawn from are harmless. -/
lemma harmless_words (language : String) : ∀ w ∈ words language, Harmless w.toList := by
  rw [words, Registry.lists_builtin.byName?_eq]
  cases hfind : (Language.all.map Registry.Record.ofLanguage).find? fun c =>
      c.key = Unicode.lowercase language with
  | none => exact nofun
  | some c =>
    obtain ⟨l, -, rfl⟩ := List.mem_map.mp (List.mem_of_find?_eq_some hfind)
    exact harmless_wordsOf l

variable {σ : Type}

/-- Many harmless pieces make a harmless one. -/
lemma always_many {draw : Draw σ (List Char)} (h : draw.Always Harmless) (n : Nat) :
    (Draw.many n draw).Always Harmless :=
  Draw.always_many harmless_nil Harmless.append h n

variable [RandomSource σ]

/-- A character from a list without `n` is harmless. -/
lemma always_oneOf {chars : Array Char} (h : 'n' ∉ chars.toList) :
    Draw.Always (oneOf chars : Draw σ _) Harmless := by
  refine Draw.always_pick?_bind (Draw.always_pure harmless_nil) fun c hc => Draw.always_pure ?_
  exact harmless_of_not_mem fun hn => h (List.mem_singleton.mp hn ▸ Array.mem_toList_iff.mpr hc)

/-- A name is harmless. -/
lemma always_identifier : Draw.Always (identifier : Draw σ _) Harmless :=
  Draw.always_bind fun length =>
    (always_oneOf (by decide)).bind fun first hfirst =>
      (always_many (always_oneOf (by decide)) (length - 1)).bind fun later hlater =>
        Draw.always_pure (hfirst.append hlater)

/-- A number is harmless. -/
lemma always_integer : Draw.Always (integer : Draw σ _) Harmless :=
  Draw.always_bind (always_many (always_oneOf (by decide)))

/-- A run of blanks is harmless. -/
lemma always_blanks : Draw.Always (blanks : Draw σ _) Harmless :=
  Draw.always_bind (always_many (always_oneOf (by decide)))

/-- A character of a body is harmless. -/
lemma always_bodyChar : Draw.Always (bodyChar : Draw σ _) Harmless :=
  Draw.always_bind fun wide =>
    Draw.always_ite (always_oneOf (by decide)) (always_oneOf (by decide))

/-- A body is harmless. -/
lemma always_body (longest : Nat) : Draw.Always (body longest : Draw σ _) Harmless :=
  Draw.always_bind (always_many always_bodyChar)

/-- A keyword is harmless when the words it is drawn from are. -/
lemma always_keyword {words : Array String} (hwords : ∀ w ∈ words, Harmless w.toList) :
    Draw.Always (keyword words : Draw σ _) Harmless := by
  refine Draw.always_pick?_bind always_identifier fun w hw =>
    Draw.always_bind fun capital => Draw.always_pure ?_
  split
  · exact harmless_upper w
  · exact hwords w hw

/-- A body between a harmless opener and a harmless closer is harmless. -/
lemma always_construct {opener closer : List Char} (hopener : Harmless opener)
    (hcloser : Harmless closer) (longest : Nat) :
    Draw.Always (construct opener longest closer : Draw σ _) Harmless := by
  refine (always_body longest).bind fun inside hinside =>
    Draw.always_bind fun closed => Draw.always_pure ((hopener.append hinside).append ?_)
  split
  · exact hcloser
  · exact harmless_nil

/-- Whichever piece is drawn, it is harmless. -/
lemma always_piece {flavor : Flavor} {words : Array String} (hflavor : HarmlessFlavor flavor)
    (hwords : ∀ w ∈ words, Harmless w.toList) :
    Draw.Always (piece flavor words : Draw σ _) Harmless := by
  have hnil : Draw.Always (pure [] : Draw σ (List Char)) Harmless := Draw.always_pure harmless_nil
  refine Draw.always_bind fun kind => ?_
  -- the kinds of pieces are told apart one after the other
  refine Draw.always_ite always_identifier ?_
  refine Draw.always_ite (always_keyword hwords) ?_
  refine Draw.always_ite always_integer ?_
  refine Draw.always_ite always_blanks ?_
  refine Draw.always_ite ?lineComment (Draw.always_ite ?blockComment (Draw.always_ite ?literal
    (Draw.always_ite ?extra (Draw.always_ite ?wide ?operator))))
  case lineComment =>
    refine Draw.always_pick?_bind hnil fun opener hopener => ?_
    have hopener := hflavor.lineComments opener (List.mem_toArray.mp hopener)
    exact always_construct hopener (by decide) 30
  case blockComment =>
    refine Draw.always_pick?_bind hnil fun comment hcomment => ?_
    obtain ⟨hopener, hcloser⟩ := hflavor.blockComments comment (List.mem_toArray.mp hcomment)
    exact always_construct hopener hcloser 40
  case literal =>
    refine Draw.always_pick?_bind hnil fun quote hquote => ?_
    have hquote : Harmless [quote] := harmless_of_not_mem fun hn =>
      hflavor.quotes (List.mem_singleton.mp hn ▸ List.mem_toArray.mp hquote)
    exact always_construct hquote hquote 20
  case extra =>
    refine Draw.always_pick?_bind (Draw.always_pure (by decide)) fun extra hextra => ?_
    exact Draw.always_pure (hflavor.extras extra (List.mem_toArray.mp hextra))
  case wide => exact always_oneOf (by decide)
  case operator =>
    have hoperators : ∀ operator ∈ operators, Harmless operator.toList := by decide
    have hspace : ∀ spaced : Bool, Harmless (if spaced then [' '] else []) := by decide
    refine Draw.always_pick?_bind ?_ fun operator hoperator => ?_
    · exact Draw.always_bind fun spaced => Draw.always_pure (hspace spaced)
    · exact Draw.always_bind fun spaced =>
        Draw.always_pure ((hoperators operator hoperator).append (hspace spaced))

/-- A text that is long enough is not extended. -/
lemma extend_of_le {flavor : Flavor} {words : Array String} {target : Nat} {text : String}
    (h : target ≤ text.utf8ByteSize) (rounds : Nat) :
    (extend flavor words target rounds text : Draw σ _) = pure (some text) := by
  cases rounds <;> rw [extend, if_pos h]

/-- A harmless text that is long enough is handed out. -/
lemma always_extend_of_le {flavor : Flavor} {words : Array String} {target : Nat} {text : String}
    (htext : Harmless text.toList) (hlong : target ≤ text.utf8ByteSize) (rounds : Nat) :
    Draw.Always (extend flavor words target rounds text : Draw σ _) fun made =>
      ∀ t ∈ made, Harmless t.toList ∧ target ≤ t.utf8ByteSize := by
  rw [extend_of_le hlong]
  exact Draw.always_pure fun t ht => Option.some.inj ht ▸ ⟨htext, hlong⟩

/-- A harmless text is extended by harmless pieces until it is long enough. -/
lemma always_extend {flavor : Flavor} {words : Array String} (hflavor : HarmlessFlavor flavor)
    (hwords : ∀ w ∈ words, Harmless w.toList) {target rounds : Nat} {text : String}
    (htext : Harmless text.toList) :
    Draw.Always (extend flavor words target rounds text : Draw σ _) fun made =>
      ∀ t ∈ made, Harmless t.toList ∧ target ≤ t.utf8ByteSize := by
  induction rounds generalizing text with
  | zero =>
    by_cases hlong : target ≤ text.utf8ByteSize
    · exact always_extend_of_le htext hlong 0
    · rw [extend, if_neg hlong]
      exact Draw.always_pure nofun
  | succ rounds ih =>
    by_cases hlong : target ≤ text.utf8ByteSize
    · exact always_extend_of_le htext hlong (rounds + 1)
    · rw [extend, if_neg hlong]
      refine (always_piece hflavor hwords).bind fun cs hcs => ih ?_
      rw [String.toList_append, String.toList_ofList]
      exact htext.append hcs

/-- A sample text spells no tag and has the length that was asked for, whatever is drawn for
it. -/
theorem spellsNoTag_of_text {language : String} {target rounds : Nat} {s : σ} {t : String}
    (h : (text rounds language target s).1 = some t) :
    SpellsNoTag t.toList ∧ target ≤ t.utf8ByteSize := by
  have hwords : ∀ w ∈ (words language).toArray, Harmless w.toList := fun w hw =>
    harmless_words language w (List.mem_toArray.mp hw)
  have hstart : Harmless "".toList := by decide
  obtain ⟨hharmless, hlong⟩ :=
    always_extend (harmlessFlavor_ofName language) hwords hstart s t h
  exact ⟨hharmless.spellsNoTag, hlong⟩

/-- A draw that ends with a word in which there is an `n`. -/
theorem spellsNoTag_of_text_include :
    (text 64 "C" 8 (⟨87⟩ : SplitMix)).1 = some "?#include" ∧
      SpellsNoTag "?#include".toList ∧ 8 ≤ "?#include".utf8ByteSize := by
  have h : (text 64 "C" 8 (⟨87⟩ : SplitMix)).1 = some "?#include" := by decide +kernel
  exact ⟨h, spellsNoTag_of_text h⟩

end Highlighter.Sample
