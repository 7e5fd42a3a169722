import Highlighter.Proofs.Keyword.Cutting

/-!
# Whole words

The overlay sees a part of the text only, and a word that it marks there need not be a whole word of the
text. It is one if the part is cut out where no word is: at its end no identifier goes on (`Apart`), and
at its beginning none goes on that the overlay knows (`Fresh`). Main statements: `marksWhole_page`, for
the page that marking such a part makes, and `MarksWhole.append`, which puts pages together.
-/

namespace Highlighter.Overlay

variable {k : Overlay} {before middle after word : List Char} {className : String} {c : Char}

/-- A class that the overlay marks words with. -/
def HasClass (k : Overlay) (className : String) : Prop := ∃ s ∈ k.sets, s.className = className

/-- Between `before` and `after`, `word` is a run of identifier characters as long as it can be, and a
word of the class. -/
structure WholeWord (k : Overlay) (before word after : List Char) (className : String) : Prop where
  nonempty : word ≠ []
  ident : ∀ c ∈ word, k.isIdentChar c
  begins : ∀ c ∈ before.getLast?, k.isIdentChar c = false
  ends : ∀ c ∈ after.head?, k.isIdentChar c = false
  known : k.classify (String.ofList word) = some className

/-- Between `before` and `after`, the spans of the page that have a class of the overlay wrap whole
words of that class. -/
def MarksWhole (k : Overlay) (before after : List Char) (p : Page) : Prop :=
  ∀ (q : Page) (className : String) (r : Page), p = q ++ .tag (.opening className) :: r →
    k.HasClass className → ∃ (word : List Char) (tail : Page),
      r = Page.text word ++ .tag .closing :: tail ∧
        k.WholeWord (before ++ q.content) word (tail.content ++ after) className

/-- No known word begins inside an identifier: of the two characters where the texts meet, one is part
of no identifier, or the second one begins no known word. -/
def Fresh (k : Overlay) (before after : List Char) : Prop :=
  ∀ c ∈ before.getLast?, ∀ d ∈ after.head?, k.isIdentChar c = false ∨ k.isIdentChar d = false ∨
    ∀ word, k.classify (String.ofList (d :: word)) = none

/-- A text that begins afresh still does when its end is cut off. -/
lemma Fresh.of_append (h : k.Fresh before (middle ++ after)) : k.Fresh before middle := by
  intro c hc d hd
  refine h c hc d ?_
  rw [List.head?_append, Option.mem_def.mp hd]
  rfl

/-- Behind a character of no identifier every word begins afresh. -/
lemma fresh_of_getLast? (h : ∀ c ∈ before.getLast?, k.isIdentChar c = false) (after : List Char) :
    k.Fresh before after :=
  fun c hc _ _ => .inl (h c hc)

/-- A character of no identifier begins afresh. -/
lemma fresh_of_head? (h : ∀ c ∈ after.head?, k.isIdentChar c = false) (before : List Char) :
    k.Fresh before after :=
  fun _ _ d hd => .inr (.inl (h d hd))

/-- Behind a character of no identifier the texts are apart. -/
lemma apart_of_getLast? (h : ∀ c ∈ before.getLast?, k.isIdentChar c = false) (after : List Char) :
    k.Apart before after :=
  fun c hc _ _ => .inl (h c hc)

/-- In front of a character of no identifier the texts are apart. -/
lemma apart_of_head? (h : ∀ c ∈ after.head?, k.isIdentChar c = false) (before : List Char) :
    k.Apart before after :=
  fun _ _ d hd => .inr (h d hd)

/-- At the start of the text every word begins afresh. -/
lemma fresh_nil (after : List Char) : k.Fresh [] after := fun _ hc => absurd hc (by simp)

/-- Every text is apart from the end. -/
lemma apart_nil (before : List Char) : k.Apart before [] := fun _ _ _ hd => absurd hd (by simp)

/-- A page that opens no span of the overlay. -/
lemma marksWhole_of_tags {p : Page}
    (h : ∀ className, .opening className ∈ p.tags → ¬ k.HasClass className) :
    k.MarksWhole before after p := by
  rintro q className r rfl hclass
  exact absurd hclass (h className (by simp [Page.tags]))

/-- A page without tags marks nothing. -/
lemma marksWhole_text (cs : List Char) : k.MarksWhole before after (Page.text cs) :=
  marksWhole_of_tags fun _ h => absurd h (by simp)

/-- A page goes on with a page: each has the text of the other one beside it. -/
lemma MarksWhole.append {p q : Page} (hp : k.MarksWhole before (q.content ++ after) p)
    (hq : k.MarksWhole (before ++ p.content) after q) : k.MarksWhole before after (p ++ q) := by
  intro u className r h hclass
  -- the tag stands in the second page or in the first one
  rcases List.append_eq_append_iff.mp h with ⟨v, rfl, hr⟩ | ⟨v, rfl, hr⟩
  · obtain ⟨word, tail, hspan, hword⟩ := hq v className r hr hclass
    rw [List.append_assoc, ← Page.content_append] at hword
    exact ⟨word, tail, hspan, hword⟩
  · cases v with
    | nil =>
      obtain ⟨word, tail, hspan, hword⟩ := hq [] className r hr.symm hclass
      rw [Page.content, List.append_nil, List.append_nil] at hword
      exact ⟨word, tail, hspan, hword⟩
    | cons x v =>
      obtain ⟨rfl, rfl⟩ := List.cons.inj hr
      obtain ⟨word, tail, rfl, hword⟩ := hp u className v rfl hclass
      rw [← List.append_assoc, ← Page.content_append] at hword
      exact ⟨word, tail ++ q, by simp, hword⟩

/-- The page of a run marks it whole, if nothing of it stands before or behind. -/
lemma marksWhole_runPage {run : List Char} (hrun : ∀ c ∈ run, k.isIdentChar c)
    (hfresh : k.Fresh before run) (hapart : k.Apart run after) :
    k.MarksWhole before after (k.runPage run) := by
  cases run with
  | nil => exact marksWhole_text []
  | cons d run =>
    cases hclass : k.classify (String.ofList (d :: run)) with
    | none =>
      have hpage : k.runPage (d :: run) = Page.text (d :: run) := by
        rw [runPage, if_neg (by simp), hclass]
      rw [hpage]
      exact marksWhole_text _
    | some className =>
      have hpage : k.runPage (d :: run) =
          .tag (.opening className) :: (Page.text (d :: run) ++ [.tag .closing]) := by
        rw [runPage, if_neg (by simp), hclass]
        rfl
      rw [hpage]
      intro q className' r h hclass'
      cases q with
      | nil =>
        obtain ⟨hopening, rfl⟩ := List.cons.inj h
        obtain rfl : className = className' := by simpa using hopening
        refine ⟨d :: run, [], rfl, ⟨List.cons_ne_nil _ _, hrun, fun c hc => ?_, fun c hc => ?_, hclass⟩⟩
        -- the run begins afresh, so no identifier character stands in front of it
        · rw [Page.content, List.append_nil] at hc
          rcases hfresh c hc d rfl with hc | hd | hnone
          · exact hc
          · exact absurd (hrun d List.mem_cons_self) (by simp [hd])
          · exact absurd (hclass.symm.trans (hnone run)) (Option.some_ne_none _)
        -- its last character is part of an identifier, so the one behind it is not
        · obtain ⟨e, he⟩ : ∃ e, (d :: run).getLast? = some e :=
            ⟨_, List.getLast?_eq_some_getLast (List.cons_ne_nil d run)⟩
          rcases hapart e he c hc with he' | hc
          · exact absurd (hrun e (List.mem_of_getLast? he)) (by simp [he'])
          · exact hc
      | cons x q =>
        -- behind its opening tag, the page of a run has its closing tag only
        have hmem : Tag.opening className' ∈ Page.tags (Page.text (d :: run) ++ [.tag .closing]) := by
          rw [(List.cons.inj h).2]
          simp [Page.tags]
        exact absurd hmem (by simp [Page.tags])

/-- The page of a text marks whole words, with the run just before it. -/
lemma marksWhole_pageFrom {run text : List Char} (hrun : ∀ c ∈ run, k.isIdentChar c)
    (hfresh : k.Fresh before (run.reverse ++ text)) (hapart : k.Apart (run.reverse ++ text) after) :
    k.MarksWhole before after (k.pageFrom run text) := by
  induction text generalizing before run with
  | nil =>
    rw [List.append_nil] at hfresh hapart
    exact marksWhole_runPage (fun c hc => hrun c (List.mem_reverse.mp hc)) hfresh hapart
  | cons c text ih =>
    rw [pageFrom]
    split
    -- the run goes on
    · rename_i hc
      refine ih (List.forall_mem_cons.mpr ⟨hc, hrun⟩) ?_ ?_
      · rwa [List.reverse_cons, List.append_assoc]
      · rwa [List.reverse_cons, List.append_assoc]
    -- the run ends, and the next one has a character in front that is part of no identifier
    · rename_i hc
      rw [Bool.not_eq_true] at hc
      have hrest : k.MarksWhole (before ++ run.reverse ++ [c]) after (k.pageFrom [] text) := by
        refine ih (List.forall_mem_nil _) (fresh_of_getLast? (by simpa using hc) _) fun d hd => hapart d ?_
        rw [List.reverse_nil, List.nil_append] at hd
        rw [List.getLast?_append, List.getLast?_cons, Option.mem_def.mp hd]
        rfl
      have hchar : k.MarksWhole (before ++ run.reverse) after (.char c :: k.pageFrom [] text) :=
        MarksWhole.append (p := Page.text [c]) (marksWhole_text _) hrest
      refine MarksWhole.append (marksWhole_runPage (fun d hd => hrun d (List.mem_reverse.mp hd))
        hfresh.of_append (apart_of_head? (by simpa [Page.content] using hc) _)) ?_
      rwa [content_runPage]

/-- In a part of the text that is cut out between words, marking marks whole words. -/
theorem marksWhole_page {text : List Char} (hfresh : k.Fresh before text)
    (hapart : k.Apart text after) : k.MarksWhole before after (k.page text) := by
  unfold page
  split
  · exact marksWhole_text text
  · exact marksWhole_pageFrom (List.forall_mem_nil _) hfresh hapart

/-- The words are looked up as they are spelled, and each of them begins with an ASCII character. -/
def beginsAscii (k : Overlay) : Bool :=
  !k.ignoreCase && k.sets.all fun s => s.keys.toList.all fun w => w.toList.head?.all (·.toNat < 128)

/-- A word that begins beyond ASCII is not known. -/
lemma classify_of_wide (h : k.beginsAscii) (hc : 128 ≤ c.toNat) (word : List Char) :
    k.classify (String.ofList (c :: word)) = none := by
  simp only [beginsAscii, Bool.and_eq_true, Bool.not_eq_true', List.all_eq_true] at h
  obtain ⟨hcase, hsets⟩ := h
  rw [classify, Option.map_eq_none_iff, List.find?_eq_none]
  intro s hs hkey
  rw [lookupKey, hcase, if_neg Bool.false_ne_true, decide_eq_true_iff] at hkey
  have hascii := hsets s hs _ (Std.ExtTreeSet.mem_toList.mpr hkey)
  rw [String.toList_ofList, List.head?_cons, Option.all_some, decide_eq_true_iff] at hascii
  omega

end Highlighter.Overlay
