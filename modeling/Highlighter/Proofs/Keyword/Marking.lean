import Highlighter.Keyword.Overlay
import Highlighter.Proofs.Markup.Page

/-!
# Marked text as a page

What the keyword overlay writes, piece by piece. Main statements: `spell_page`, the page is written
as `Overlay.mark` writes it; `content_page`, its text is the text that was marked; `nest_page`, where
the classes of the overlay may open, the page leaves no span open.
-/

namespace Highlighter.Overlay

variable {k : Overlay} {allows : List String → String → Bool}

/-- The page of a run of identifier characters. -/
def runPage (k : Overlay) (run : List Char) : Page :=
  if run.isEmpty then []
  else
    match k.classify (String.ofList run) with
    | some className => .tag (.opening className) :: Page.text run ++ [.tag .closing]
    | none => Page.text run

/-- The page of a text; `run` holds the identifier characters just before it, newest first. -/
def pageFrom (k : Overlay) (run : List Char) : List Char → Page
  | [] => k.runPage run.reverse
  | c :: rest =>
    if k.isIdentChar c then pageFrom k (c :: run) rest
    else k.runPage run.reverse ++ .char c :: pageFrom k [] rest

/-- The page that marking a text makes. -/
def page (k : Overlay) (text : List Char) : Page :=
  if k.sets.isEmpty then Page.text text else k.pageFrom [] text

/-- Closing a run writes its page. -/
lemma spell_runPage (done run : List Char) :
    (k.closeRun done run).reverse = done.reverse ++ (k.runPage run.reverse).spell Page.plain := by
  unfold closeRun runPage markWord
  cases run with
  | nil => simp [Page.spell]
  | cons c run =>
    cases k.classify (String.ofList (c :: run).reverse) with
    | none => simp [Page.plain]
    | some className => simp [Page.spell, Page.plain, Tag.spell, Span.wrap]

/-- The page of a run has the run for its text. -/
lemma content_runPage (run : List Char) : (k.runPage run).content = run := by
  unfold runPage
  split
  · rename_i h
    exact (List.isEmpty_iff.mp h).symm
  · split <;> simp [Page.content]

/-- The class of a word is that of some set. -/
lemma exists_of_classify {word className : String} (h : k.classify word = some className) :
    ∃ s ∈ k.sets, s.className = className := by
  obtain ⟨s, hs, rfl⟩ := Option.map_eq_some_iff.mp h
  exact ⟨s, List.mem_of_find?_eq_some hs, rfl⟩

/-- The page of a run closes what it opens. -/
lemma nest_runPage {opened : List String} (h : ∀ s ∈ k.sets, allows opened s.className)
    (run : List Char) : (k.runPage run).nest allows opened = some opened := by
  unfold runPage
  split
  · rfl
  · split
    · rename_i className hclass
      obtain ⟨s, hs, rfl⟩ := exists_of_classify hclass
      rw [List.cons_append, Page.nest, if_pos (h s hs), Page.nest_append, Page.nest_text]
      rfl
    · exact Page.nest_text _ _

/-- Marking writes the page of the text and of the run before it. -/
lemma spell_pageFrom (done run text : List Char) :
    k.markFrom done run text = done.reverse ++ (k.pageFrom run text).spell Page.plain := by
  induction text generalizing done run with
  | nil => exact spell_runPage done run
  | cons c text ih =>
    unfold markFrom pageFrom
    split
    -- the run goes on: nothing is written yet
    · exact ih done (c :: run)
    · rw [ih, List.reverse_cons, spell_runPage, Page.spell_append]
      simp [Page.spell, Page.plain]

/-- The page has the run and the text for its text. -/
lemma content_pageFrom (run text : List Char) :
    (k.pageFrom run text).content = run.reverse ++ text := by
  induction text generalizing run with
  | nil => rw [pageFrom, content_runPage, List.append_nil]
  | cons c text ih =>
    unfold pageFrom
    split
    · rw [ih]; simp
    · rw [Page.content_append, content_runPage, Page.content, ih]; rfl

/-- The page of a text closes what it opens. -/
lemma nest_pageFrom {opened : List String} (h : ∀ s ∈ k.sets, allows opened s.className)
    (run text : List Char) : (k.pageFrom run text).nest allows opened = some opened := by
  induction text generalizing run with
  | nil => exact nest_runPage h _
  | cons c text ih =>
    unfold pageFrom
    split
    · exact ih _
    · rw [Page.nest_append, nest_runPage h]
      exact ih _

/-- The page of a text is written as marking writes the text. -/
theorem spell_page (text : List Char) : (k.page text).spell Page.plain = k.mark text := by
  unfold page mark
  split
  · rw [Page.spell_text, Page.flatMap_plain]
  · exact (spell_pageFrom [] [] text).symm

/-- Marking keeps the text. -/
theorem content_page (text : List Char) : (k.page text).content = text := by
  unfold page
  split
  · exact Page.content_text text
  · exact content_pageFrom [] text

/-- Marking closes each span that it opens. -/
theorem nest_page {opened : List String} (h : ∀ s ∈ k.sets, allows opened s.className)
    (text : List Char) : (k.page text).nest allows opened = some opened := by
  unfold page
  split
  · exact Page.nest_text _ _
  · exact nest_pageFrom h [] text

end Highlighter.Overlay
