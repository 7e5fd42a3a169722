import Highlighter.Proofs.Markup.Reader

/-!
# Escaped text

What is known of a text whose special characters are spelled as entities. Main statements:
`unescape_escape_passes`, the three passes of `unescape` give the text back, although each of them works
on what the one before has left; and `entity_of_ampersand`, every ampersand of an escaped page starts
an entity.
-/

namespace Highlighter

namespace Text

variable {pattern replacement rest : List Char}

/-- A match at the front is replaced, and the rest goes on behind it. -/
lemma replaceAll_append (hp : pattern ≠ []) :
    replaceAll pattern replacement (pattern ++ rest)
      = replacement ++ replaceAll pattern replacement rest := by
  have hskip : ∀ cs : List Char, replaceFrom pattern replacement [] cs.length (cs ++ rest)
      = replaceFrom pattern replacement [] 0 rest := by
    intro cs
    induction cs with
    | nil => rfl
    | cons c cs ih => exact ih
  cases pattern with
  | nil => exact absurd rfl hp
  | cons c cs =>
    have hprefix : (c :: cs).isPrefixOf (c :: (cs ++ rest)) := by simp
    rw [List.cons_append, replaceAll, replaceFrom, if_pos hprefix, replaceFrom_eq_append,
      List.length_cons, Nat.add_sub_cancel, hskip cs]
    simp [replaceAll]

/-- A character that no match begins at is kept. -/
lemma replaceAll_cons {c : Char} (h : ¬ pattern <+: c :: rest) :
    replaceAll pattern replacement (c :: rest) = c :: replaceAll pattern replacement rest := by
  rw [replaceAll, replaceFrom, if_neg (by simpa using h), replaceFrom_eq_append]
  rfl

/-- Characters other than the first of the pattern are kept. -/
lemma replaceAll_append_of_not_mem {a : Char} {w : List Char} (h : a ∉ w) :
    replaceAll (a :: pattern) replacement (w ++ rest)
      = w ++ replaceAll (a :: pattern) replacement rest := by
  induction w with
  | nil => rfl
  | cons c w ih =>
    have hc : ¬ a :: pattern <+: c :: (w ++ rest) := by
      intro hp
      obtain ⟨rfl, -⟩ := List.cons_prefix_cons.mp hp
      exact h List.mem_cons_self
    rw [List.cons_append, replaceAll_cons hc, ih (fun hw => h (List.mem_cons_of_mem _ hw))]
    rfl

end Text

namespace Entity

/-- The characters that are spelled as entities. -/
def special : List Char := ['&', '<', '>']

/-- The special characters, one by one. -/
lemma mem_special {c : Char} : c ∈ special ↔ c = '&' ∨ c = '<' ∨ c = '>' := by
  simp [special]

/-- A character that is not special stands for itself. -/
lemma ofChar_of_not_special {c : Char} (h : c ∉ special) : ofChar c = [c] := by
  rw [mem_special, not_or, not_or] at h
  unfold ofChar
  split
  · exact absurd rfl h.1
  · exact absurd rfl h.2.1
  · exact absurd rfl h.2.2
  · rfl

/-- The entity of a special character is an ampersand and a name, in which no special character
occurs. -/
lemma ofChar_of_special {c : Char} (h : c ∈ special) :
    ∃ name, ofChar c = '&' :: name ∧ ∀ x ∈ special, x ∉ name := by
  rcases mem_special.mp h with rfl | rfl | rfl
  · exact ⟨['a', 'm', 'p', ';'], rfl, by simp [special]⟩
  · exact ⟨['l', 't', ';'], rfl, by simp [special]⟩
  · exact ⟨['g', 't', ';'], rfl, by simp [special]⟩

/-- No entity begins another one. -/
lemma eq_of_prefix_ofChar {c d : Char} (hc : c ∈ special) (hd : d ∈ special) {rest : List Char}
    (h : ofChar c <+: ofChar d ++ rest) : c = d := by
  rcases mem_special.mp hc with rfl | rfl | rfl <;> rcases mem_special.mp hd with rfl | rfl | rfl <;>
    simp [ofChar] at h ⊢

/-- The spelling of a character when the entities of some characters have been read back. -/
def ofCharBut (done : List Char) (c : Char) : List Char := if c ∈ done then [c] else ofChar c

/-- One pass reads back the entities of one character and changes nothing else. -/
lemma replaceAll_flatMap {done : List Char} {x : Char} (hx : x ∈ special) (hdone : '&' ∉ done)
    (text : List Char) :
    Text.replaceAll (ofChar x) [x] (text.flatMap (ofCharBut done))
      = text.flatMap (ofCharBut (x :: done)) := by
  obtain ⟨name, hname, -⟩ := ofChar_of_special hx
  -- the first character of the pattern is an ampersand: it can only match where an entity starts
  induction text with
  | nil => rfl
  | cons c text ih =>
    rw [List.flatMap_cons, List.flatMap_cons, ← ih]
    by_cases hc : c ∈ done
    · have hne : '&' ∉ [c] := fun h => hdone (List.mem_singleton.mp h ▸ hc)
      simp only [ofCharBut, hc, List.mem_cons, or_true, if_true, hname]
      exact Text.replaceAll_append_of_not_mem hne
    · by_cases hcx : c = x
      · subst hcx
        simp only [ofCharBut, hc, List.mem_cons, true_or, if_true, if_false]
        exact Text.replaceAll_append (by simp [hname])
      · simp only [ofCharBut, hc, List.mem_cons, hcx, or_self, if_false]
        by_cases hs : c ∈ special
        · obtain ⟨rest, hrest, hnot⟩ := ofChar_of_special hs
          -- another entity stands there, and no entity begins like another one
          have hp : ¬ ofChar x <+: '&' :: (rest ++ text.flatMap (ofCharBut done)) := by
            intro h
            rw [← List.cons_append, ← hrest] at h
            exact hcx (eq_of_prefix_ofChar hx hs h).symm
          rw [hrest, List.cons_append, Text.replaceAll_cons hp, hname,
            Text.replaceAll_append_of_not_mem (hnot '&' (by decide)), List.cons_append]
        · have hne : '&' ∉ [c] := fun h => hs (List.mem_singleton.mp h ▸ by decide)
          rw [ofChar_of_not_special hs, hname]
          exact Text.replaceAll_append_of_not_mem hne

/-- One pass over the whole text for each of the characters, which reads its entities back. -/
def passes (order text : List Char) : List Char :=
  order.foldl (fun text c => Text.replaceAll (ofChar c) [c] text) text

/-- Passes are made one after the other. -/
lemma passes_append {order order' text : List Char} :
    passes (order ++ order') text = passes order' (passes order text) :=
  List.foldl_append

/-- As long as the ampersand is left alone, each pass reads back what it is about. -/
lemma passes_flatMap {order done : List Char} (horder : ∀ c ∈ order, c ∈ special) (hamp : '&' ∉ order)
    (hdone : '&' ∉ done) (text : List Char) :
    passes order (text.flatMap (ofCharBut done)) = text.flatMap (ofCharBut (order.reverse ++ done)) := by
  induction order generalizing done with
  | nil => rfl
  | cons c order ih =>
    obtain ⟨hc, horder⟩ := List.forall_mem_cons.mp horder
    rw [List.mem_cons, not_or] at hamp
    have hdone' : '&' ∉ c :: done := by
      rw [List.mem_cons, not_or]
      exact ⟨hamp.1, hdone⟩
    rw [passes, List.foldl_cons, replaceAll_flatMap hc hdone, ← passes, ih horder hamp.2 hdone',
      List.reverse_cons, List.append_assoc, List.singleton_append]

/-- Before any entity is read back, every special character is spelled as one. -/
lemma ofCharBut_nil : ofCharBut [] = ofChar := by
  funext c
  simp [ofCharBut]

/-- The pass for the ampersand may come last. -/
lemma passes_escape_amp {order : List Char} (horder : ∀ c ∈ order, c ∈ special) (hamp : '&' ∉ order)
    (text : List Char) :
    passes (order ++ ['&']) (escape text) = text.flatMap (ofCharBut ('&' :: order.reverse)) :=
  calc passes (order ++ ['&']) (escape text)
      = Text.replaceAll (ofChar '&') ['&'] (passes order (text.flatMap (ofCharBut []))) := by
        rw [passes_append, ofCharBut_nil]
        rfl
    _ = text.flatMap (ofCharBut ('&' :: order.reverse)) := by
        rw [passes_flatMap horder hamp (by decide), List.append_nil,
          replaceAll_flatMap (by decide) (by simpa using hamp)]

/-- What needs no entity or has been read back stands as it is. -/
lemma flatMap_ofCharBut {done text : List Char} (h : ∀ c ∈ text, c ∈ special → c ∈ done) :
    text.flatMap (ofCharBut done) = text := by
  induction text with
  | nil => rfl
  | cons c text ih =>
    obtain ⟨hc, htext⟩ := List.forall_mem_cons.mp h
    have hplain : ofCharBut done c = [c] := by
      unfold ofCharBut
      split
      · rfl
      · rename_i hdone
        exact ofChar_of_not_special fun hs => hdone (hc hs)
    rw [List.flatMap_cons, hplain, ih htext]
    rfl

/-- A special character is read back from its entity by the passes that its own is among. -/
lemma passes_ofChar {order : List Char} (horder : ∀ c ∈ order, c ∈ special) (hamp : '&' ∉ order)
    {x : Char} (hx : x ∈ order) : passes order (ofChar x) = [x] := by
  have hread := passes_flatMap horder hamp List.not_mem_nil [x]
  rw [List.append_nil, ofCharBut_nil, List.flatMap_singleton] at hread
  rw [hread]
  refine flatMap_ofCharBut fun c hc _ => ?_
  rwa [List.mem_singleton.mp hc, List.mem_reverse]

/-- Passes in an order in which the ampersand comes last undo escaping. -/
lemma passes_escape {order : List Char} (horder : (order ++ ['&']).Perm special) (text : List Char) :
    passes (order ++ ['&']) (escape text) = text := by
  have hnodup : (order ++ ['&']).Nodup := horder.nodup_iff.mpr (by decide)
  have hamp : '&' ∉ order := fun h =>
    (List.nodup_append.mp hnodup).2.2 _ h _ List.mem_cons_self rfl
  have hspecial : ∀ c ∈ order, c ∈ special := fun c hc =>
    horder.mem_iff.mp (List.mem_append_left _ hc)
  rw [passes_escape_amp hspecial hamp]
  refine flatMap_ofCharBut fun c _ hc => ?_
  simpa [or_comm] using horder.mem_iff.mpr hc

/-- Reading the entities back undoes escaping. -/
theorem unescape_escape (text : List Char) : unescape (escape text) = text :=
  have horder : (['<', '>'] ++ ['&']).Perm special := by decide
  passes_escape horder text

/-- In any other order, a character comes behind the ampersand. The text that spells its entity is misread:
the ampersand of the entity is read back, and then the entity is. -/
lemma exists_misread {order : List Char} (horder : order.Perm special)
    (hlast : order.getLast? ≠ some '&') : ∃ text, passes order (escape text) ≠ text := by
  have hamp : '&' ∈ order := horder.mem_iff.mpr (by decide)
  have hnodup : order.Nodup := horder.nodup_iff.mpr (by decide)
  have hspecial : ∀ c ∈ order, c ∈ special := fun c => horder.mem_iff.mp
  obtain ⟨before, behind, rfl⟩ := List.append_of_mem hamp
  obtain ⟨-, hcons, hapart⟩ := List.nodup_append.mp hnodup
  have hbefore : '&' ∉ before := fun h => hapart _ h _ List.mem_cons_self rfl
  have hbehind : '&' ∉ behind := (List.nodup_cons.mp hcons).1
  obtain ⟨x, hx⟩ : ∃ x, x ∈ behind := by
    refine List.exists_mem_of_ne_nil behind ?_
    rintro rfl
    exact hlast List.getLast?_concat
  have hxspecial : x ∈ special := hspecial x (List.mem_append_right _ (List.mem_cons_of_mem _ hx))
  obtain ⟨name, hname, hplain⟩ := ofChar_of_special hxspecial
  -- once the ampersand is read back, the text looks like the entity that it spells
  have hfirst : passes (before ++ ['&']) (escape (ofChar x)) = ofChar x := by
    rw [passes_escape_amp (fun c hc => hspecial c (List.mem_append_left _ hc)) hbefore]
    refine flatMap_ofCharBut fun c hc hs => ?_
    rw [hname] at hc
    obtain rfl | hc := List.mem_cons.mp hc
    · exact List.mem_cons_self
    · exact absurd hc (hplain c hs)
  -- a later pass takes it for that entity
  have hrest : passes behind (ofChar x) = [x] :=
    passes_ofChar (fun c hc => hspecial c (List.mem_append_right _ (List.mem_cons_of_mem _ hc)))
      hbehind hx
  refine ⟨ofChar x, ?_⟩
  rw [List.append_cons, passes_append, hfirst, hrest, hname]
  intro h
  obtain ⟨rfl, -⟩ := List.cons.inj h
  exact hbehind hx

/-- Reading the entities back undoes escaping, although each pass works on what the one before has left. It
is the order of the passes that makes it so: what is read back is the text just for those orders in which
the ampersand comes last. -/
theorem unescape_escape_passes :
    (∀ text, unescape (escape text) = text) ∧
      ∀ order, order.Perm special →
        ((∀ text, passes order (escape text) = text) ↔ order.getLast? = some '&') := by
  refine ⟨unescape_escape, fun order horder => ⟨fun h => ?_, fun hlast text => ?_⟩⟩
  · by_contra hlast
    obtain ⟨text, htext⟩ := exists_misread horder hlast
    exact htext (h text)
  · obtain ⟨front, rfl⟩ := List.getLast?_eq_some_iff.mp hlast
    exact passes_escape horder text

/-- A text that spells entities, and entities of entities. -/
theorem unescape_escape_passes_nested :
    let text := "&lt; &amp;amp;gt; <a>".toList
    ['>', '<', '&'].Perm special ∧ passes ['>', '<', '&'] (escape text) = text ∧
      ¬ ∀ text, passes ['&', '<', '>'] (escape text) = text := by
  intro text
  have horder : ['>', '<', '&'].Perm special := by decide
  have horder' : ['&', '<', '>'].Perm special := by decide
  refine ⟨horder, (unescape_escape_passes.2 _ horder).mpr rfl text, fun h => ?_⟩
  exact absurd ((unescape_escape_passes.2 _ horder').mp h) (by decide)

/-- In an escaped text there is no special character but the ampersand. -/
lemma not_mem_escape {x : Char} (hx : x ∈ special) (hne : x ≠ '&') (text : List Char) :
    x ∉ escape text := by
  intro h
  obtain ⟨c, -, hc⟩ := List.mem_flatMap.mp h
  by_cases hs : c ∈ special
  · obtain ⟨name, hname, hnot⟩ := ofChar_of_special hs
    rw [hname] at hc
    rcases List.mem_cons.mp hc with rfl | hc
    · exact hne rfl
    · exact hnot x hx hc
  · rw [ofChar_of_not_special hs] at hc
    rw [List.mem_singleton] at hc
    exact hs (hc ▸ hx)

end Entity

namespace Page

/-- The page on which every character of the text is spelled as it stands in a page. -/
def escaped : Page → Page
  | [] => []
  | .char c :: p => text (Entity.ofChar c) ++ escaped p
  | .tag t :: p => .tag t :: escaped p

variable {p : Page} {allows : List String → String → Bool}

/-- An escaped page spells each character of the text as an entity where it needs one. -/
lemma spell_escaped : (escaped p).spell plain = p.spell Entity.ofChar := by
  induction p with
  | nil => rfl
  | cons x p ih => cases x <;> simp [escaped, spell, ih]

/-- The text of an escaped page is the escaped text. -/
lemma content_escaped : (escaped p).content = Entity.escape p.content := by
  induction p with
  | nil => rfl
  | cons x p ih => cases x <;> simp [escaped, content, Entity.escape] <;> exact ih

/-- Escaping a page leaves its tags as they are. -/
lemma tags_escaped : (escaped p).tags = p.tags := by
  induction p with
  | nil => rfl
  | cons x p ih => cases x <;> simp [escaped, tags, ih]

/-- The tags of an escaped page nest as before. -/
lemma nest_escaped {opened : List String} :
    nest allows opened (escaped p) = nest allows opened p := by
  induction p generalizing opened with
  | nil => rfl
  | cons x p ih =>
    cases x with
    | char c => simp [escaped, nest_append, nest, ih]
    | tag t =>
      cases t with
      | opening className => simp [escaped, nest, ih]
      | closing => cases opened <;> simp [escaped, nest, ih]

/-- No tag has an ampersand in it. -/
lemma not_mem_spell_tag {t : Tag} (ht : t.WellFormed) : '&' ∉ t.spell := by
  cases t with
  | closing =>
    rw [Tag.spell, Strip.close_eq]
    decide
  | opening className =>
    obtain ⟨-, hname⟩ := Tag.wellFormed_opening.mp ht
    rw [Strip.spell_opening, Strip.openingHead_eq, Strip.openingEnd]
    intro h
    rw [List.mem_append, List.mem_append] at h
    obtain (h | h) | h := h
    · exact absurd h (by decide)
    · exact absurd (hname '&' h) (by decide)
    · exact absurd h (by decide)

/-- A suffix that begins with a character reaches past every text without it. -/
lemma suffix_of_suffix_append {a : Char} {w cs rest : List Char} (hw : a ∉ w)
    (h : a :: rest <:+ w ++ cs) : a :: rest <:+ cs := by
  induction w with
  | nil => exact h
  | cons c w ih =>
    rcases List.suffix_cons_iff.mp h with h | h
    · obtain ⟨rfl, -⟩ := List.cons.inj h
      exact absurd List.mem_cons_self hw
    · exact ih (fun ha => hw (List.mem_cons_of_mem _ ha)) h

/-- Every ampersand of an escaped page starts an entity. -/
theorem entity_of_ampersand (htags : ∀ t ∈ tags p, t.WellFormed) {rest : List Char}
    (h : '&' :: rest <:+ p.spell Entity.ofChar) :
    ∃ c ∈ Entity.special, Entity.ofChar c <+: '&' :: rest := by
  induction p with
  | nil => exact absurd (List.suffix_nil.mp h) (by simp)
  | cons x p ih =>
    cases x with
    | tag t =>
      exact ih (fun t ht => htags t (List.mem_cons_of_mem _ ht))
        (suffix_of_suffix_append (not_mem_spell_tag (htags t List.mem_cons_self)) h)
    | char c =>
      by_cases hs : c ∈ Entity.special
      -- the ampersand is the first character of the entity, and there is no other one in it
      · obtain ⟨name, hname, hnot⟩ := Entity.ofChar_of_special hs
        rw [spell, hname, List.cons_append] at h
        rcases List.suffix_cons_iff.mp h with h | h
        · refine ⟨c, hs, ?_⟩
          rw [h, hname, ← List.cons_append]
          exact List.prefix_append _ _
        · exact ih htags (suffix_of_suffix_append (hnot '&' (by decide)) h)
      · rw [spell, Entity.ofChar_of_not_special hs] at h
        have hc : '&' ∉ [c] := fun hc => hs (List.mem_singleton.mp hc ▸ by decide)
        exact ih htags (suffix_of_suffix_append hc h)

end Page
end Highlighter
