import Highlighter.Proofs.Keyword.Marking
import Highlighter.Proofs.Markup.Reader

/-!
# Unwrapping

Taking the spans of some classes off a page and leaving the others. `Page.unwrap` removes each opening
tag of such a class and the closing tag that belongs to it, so it has to know which spans are open;
`unwrap_append` puts together what it leaves of two pages, if the first one closes its spans. Main
statement: `unwrap_page`, what marking the words of a text has wrapped is unwrapped to the text.
-/

namespace Highlighter

namespace Page

variable {classes opened : List String} {className : String} {p q : Page} {k : Overlay}

/-- The page without the spans of some classes. `opened` holds the classes of the spans that are open
in front of the page, innermost first; a closing tag belongs to the innermost one. -/
def unwrapFrom (classes : List String) : (opened : List String) → Page → Page
  | _, [] => []
  | opened, .char c :: p => .char c :: unwrapFrom classes opened p
  | opened, .tag (.opening className) :: p =>
    if className ∈ classes then unwrapFrom classes (className :: opened) p
    else .tag (.opening className) :: unwrapFrom classes (className :: opened) p
  | [], .tag .closing :: p => .tag .closing :: unwrapFrom classes [] p
  | className :: opened, .tag .closing :: p =>
    if className ∈ classes then unwrapFrom classes opened p
    else .tag .closing :: unwrapFrom classes opened p

/-- The page without the spans of some classes. -/
def unwrap (classes : List String) (p : Page) : Page := unwrapFrom classes [] p

/-- A page inside a span. -/
def span (className : String) (p : Page) : Page := .tag (.opening className) :: p ++ [.tag .closing]

/-- What follows a page is unwrapped in the light of the spans that are open behind it. -/
lemma unwrapFrom_append {allows : List String → String → Bool} {opened' : List String}
    (h : nest allows opened p = some opened') :
    unwrapFrom classes opened (p ++ q) =
      unwrapFrom classes opened p ++ unwrapFrom classes opened' q := by
  induction p generalizing opened with
  | nil =>
    obtain rfl := Option.some.inj h
    rfl
  | cons x p ih =>
    cases x with
    | char c => exact congrArg (.char c :: ·) (ih h)
    | tag t =>
      cases t with
      | opening className =>
        rw [nest] at h
        split at h
        · rw [List.cons_append, unwrapFrom, unwrapFrom, ih h]
          split <;> rfl
        · cases h
      | closing =>
        -- there is a span to close, since the page nests
        cases opened with
        | nil => cases h
        | cons className opened =>
          rw [List.cons_append, unwrapFrom, unwrapFrom, ih h]
          split <;> rfl

/-- A page that closes its spans is unwrapped on its own. -/
lemma unwrap_append {allows : List String → String → Bool} (h : nest allows [] p = some []) :
    unwrap classes (p ++ q) = unwrap classes p ++ unwrap classes q :=
  unwrapFrom_append h

/-- There is nothing to unwrap in a page without tags. -/
lemma unwrapFrom_text (cs : List Char) : unwrapFrom classes opened (text cs) = text cs := by
  induction cs with
  | nil => rfl
  | cons c cs ih => exact congrArg (.char c :: ·) ih

/-- The closing tag goes with the opening tag. -/
lemma unwrap_span (cs : List Char) :
    unwrap classes (span className (text cs)) =
      if className ∈ classes then text cs else span className (text cs) := by
  have hnest : nest (fun _ _ => true) [className] (text cs) = some [className] := nest_text _ cs
  have hrest : unwrapFrom classes [className] (text cs ++ [.tag .closing]) =
      text cs ++ unwrapFrom classes [className] [.tag .closing] := by
    rw [unwrapFrom_append hnest, unwrapFrom_text]
  rw [unwrap, span, List.cons_append, unwrapFrom, hrest, unwrapFrom]
  split
  · rw [unwrapFrom, List.append_nil]
  · rfl

end Page

namespace Overlay

variable {classes : List String} {k : Overlay}

/-- A run whose class is unwrapped is left as it stands. -/
lemma unwrap_runPage (hk : ∀ s ∈ k.sets, s.className ∈ classes) (run : List Char) :
    (k.runPage run).unwrap classes = Page.text run := by
  unfold runPage
  split
  · rename_i hrun
    rw [List.isEmpty_iff.mp hrun]
    rfl
  · split
    · rename_i className hclass
      obtain ⟨s, hs, rfl⟩ := exists_of_classify hclass
      exact (Page.unwrap_span run).trans (if_pos (hk s hs))
    · exact Page.unwrapFrom_text run

/-- A text whose words are unwrapped is left as it stands. -/
lemma unwrap_pageFrom (hk : ∀ s ∈ k.sets, s.className ∈ classes) (run text : List Char) :
    (k.pageFrom run text).unwrap classes = Page.text (run.reverse ++ text) := by
  induction text generalizing run with
  | nil => rw [pageFrom, unwrap_runPage hk, List.append_nil]
  | cons c text ih =>
    unfold pageFrom
    split
    · rw [ih, List.reverse_cons, List.append_assoc]
      rfl
    · have hnest : (k.runPage run.reverse).nest (fun _ _ => true) [] = some [] :=
        nest_runPage (fun _ _ => rfl) _
      have hrest : Page.unwrap classes (.char c :: k.pageFrom [] text) = Page.text (c :: text) :=
        congrArg (Piece.char c :: ·) (ih [])
      rw [Page.unwrap_append hnest, unwrap_runPage hk, hrest]
      exact List.map_append.symm

/-- Marked words are unwrapped to the text that was marked. -/
theorem unwrap_page (hk : ∀ s ∈ k.sets, s.className ∈ classes) (text : List Char) :
    (k.page text).unwrap classes = Page.text text := by
  unfold page
  split
  · exact Page.unwrapFrom_text text
  · exact unwrap_pageFrom hk [] text

end Overlay

namespace Strip

/-- The highlighted text without the spans of some classes. -/
def unwrap (classes : List String) (html : String) : String :=
  String.ofList (((read html.toList).unwrap classes).spell Page.plain)

end Strip
end Highlighter
