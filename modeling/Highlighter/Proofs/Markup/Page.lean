import Mathlib.Tactic.Lemma
import Highlighter.Markup

/-!
# Pages

A highlighted text seen as a row of pieces, each a character of the text or a span tag. `Page.spell`
writes a page down, `Page.content` is the text without the tags and `Page.tags` the tags without the
text. `Page.nest` follows the spans that are open: it says what is open behind a page, and fails at
the first tag that is out of place. All of them go piece by piece, so each comes with its `append`
lemma and its lemma for pages without tags (`Page.text`).
-/

namespace Highlighter

/-- A span tag. -/
inductive Tag where
  | opening (className : String)
  | closing
  deriving DecidableEq

namespace Tag

/-- A tag as it is written. -/
def spell : Tag → List Char
  | opening className => (Span.opening className).toList
  | closing => Span.close.toList

/-- The name of a class has small ASCII letters and hyphens only, and at least one. -/
def isClassName (className : String) : Bool :=
  !className.toList.isEmpty && className.toList.all Strip.isClassChar

/-- Opening tags have the name of a class. -/
def WellFormed : Tag → Prop
  | opening className => isClassName className
  | closing => True

/-- An opening tag is well-formed when its class has characters, all of which a class can have. -/
lemma wellFormed_opening {className : String} :
    (opening className).WellFormed ↔
      className.toList ≠ [] ∧ ∀ c ∈ className.toList, Strip.isClassChar c := by
  simp [WellFormed, isClassName]

/-- Every tag begins with a less-than sign. -/
lemma spell_eq_cons (t : Tag) : ∃ cs, t.spell = '<' :: cs := by
  cases t with
  | opening className => exact ⟨_, by simp [spell, Span.opening]; rfl⟩
  | closing => exact ⟨_, rfl⟩

end Tag

/-- A piece of a page. -/
inductive Piece where
  | char (c : Char)
  | tag (t : Tag)
  deriving DecidableEq

/-- A highlighted text in pieces. -/
abbrev Page := List Piece

namespace Page

variable {encode : Char → List Char} {allows : List String → String → Bool} {p q : Page}

/-- The page of a text without tags. -/
def text (cs : List Char) : Page := cs.map .char

/-- A page as it is written, with a spelling for the characters of the text. -/
def spell (encode : Char → List Char) : Page → List Char
  | [] => []
  | .char c :: p => encode c ++ spell encode p
  | .tag t :: p => t.spell ++ spell encode p

/-- Characters that stand for themselves. -/
def plain (c : Char) : List Char := [c]

/-- The text of a page. -/
def content : Page → List Char
  | [] => []
  | .char c :: p => c :: content p
  | .tag _ :: p => content p

/-- The tags of a page. -/
def tags : Page → List Tag
  | [] => []
  | .char _ :: p => tags p
  | .tag t :: p => t :: tags p

/-- The classes of the spans that are open behind a page, innermost first, if `opened` are open in
front of it. A span opens only where `allows` lets it, and only an open span closes. -/
def nest (allows : List String → String → Bool) (opened : List String) :
    Page → Option (List String)
  | [] => some opened
  | .char _ :: p => nest allows opened p
  | .tag (.opening className) :: p =>
    if allows opened className then nest allows (className :: opened) p else none
  | .tag .closing :: p =>
    match opened with
    | [] => none
    | _ :: opened => nest allows opened p

/-- Pages are spelled one after the other. -/
@[simp] lemma spell_append : spell encode (p ++ q) = spell encode p ++ spell encode q := by
  induction p with
  | nil => rfl
  | cons x p ih => cases x <;> simp [spell, ih]

/-- The texts of pages stand one behind the other. -/
@[simp] lemma content_append : content (p ++ q) = content p ++ content q := by
  induction p with
  | nil => rfl
  | cons x p ih => cases x <;> simp [content, ih]

/-- The tags of pages stand one behind the other. -/
@[simp] lemma tags_append : tags (p ++ q) = tags p ++ tags q := by
  induction p with
  | nil => rfl
  | cons x p ih => cases x <;> simp [tags, ih]

/-- The second page goes on with the spans that the first leaves open. -/
lemma nest_append {opened : List String} :
    nest allows opened (p ++ q) = (nest allows opened p).bind (nest allows · q) := by
  induction p generalizing opened with
  | nil => rfl
  | cons x p ih =>
    cases x with
    | char c => exact ih
    | tag t =>
      cases t with
      | opening className =>
        simp only [List.cons_append, nest]
        split
        · exact ih
        · rfl
      | closing =>
        cases opened with
        | nil => rfl
        | cons className opened => exact ih

/-- A page without tags is spelled character by character. -/
@[simp] lemma spell_text (cs : List Char) : spell encode (text cs) = cs.flatMap encode := by
  induction cs with
  | nil => rfl
  | cons c cs ih => simpa [text, spell] using ih

/-- A page without tags has its own text. -/
@[simp] lemma content_text (cs : List Char) : content (text cs) = cs := by
  induction cs with
  | nil => rfl
  | cons c cs ih => simpa [text, content] using ih

/-- A page without tags has no tags. -/
@[simp] lemma tags_text (cs : List Char) : tags (text cs) = [] := by
  induction cs with
  | nil => rfl
  | cons c cs ih => exact ih

/-- A page without tags opens and closes nothing. -/
@[simp] lemma nest_text (opened : List String) (cs : List Char) :
    nest allows opened (text cs) = some opened := by
  induction cs with
  | nil => rfl
  | cons c cs ih => simpa [text, nest] using ih

/-- Characters that stand for themselves spell the text. -/
@[simp] lemma flatMap_plain (cs : List Char) : cs.flatMap plain = cs :=
  List.flatMap_singleton' cs

/-- Where only names of classes are allowed to open, the tags of a page that nests are well
formed. -/
lemma wellFormed_of_nest (hallows : ∀ opened c, allows opened c → Tag.isClassName c)
    {opened opened' : List String} (h : nest allows opened p = some opened') :
    ∀ t ∈ tags p, t.WellFormed := by
  induction p generalizing opened with
  | nil => exact fun t ht => absurd ht (by simp [tags])
  | cons x p ih =>
    cases x with
    | char c => exact ih h
    | tag t =>
      cases t with
      | opening className =>
        simp only [nest] at h
        split at h
        · rename_i hc
          intro t ht
          rcases List.mem_cons.mp ht with rfl | ht
          · exact hallows _ _ hc
          · exact ih h t ht
        · exact absurd h (by simp)
      | closing =>
        -- a closing tag is well-formed in any case; it changes which spans are open
        cases opened with
        | nil => exact absurd h (by simp [nest])
        | cons className opened =>
          intro t ht
          rcases List.mem_cons.mp ht with rfl | ht
          · exact trivial
          · exact ih h t ht

end Page
end Highlighter
