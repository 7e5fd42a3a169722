import Highlighter.Text.Basic

/-!
# Markup

The highlighter puts `span` elements with one class around pieces of a text. Inside a page, `&`, `<` and
`>` are spelled as entities: `escape` does so, and `unescape` takes three passes over the text, one entity
each; the ampersand comes last, so that no entity is made out of the pieces of two. `strip` removes every
span tag from a highlighted text, which gives the text back if it spells no span tag itself.
-/

namespace Highlighter.Span

/-- The closing tag. -/
def close : String := "</span>"

/-- The opening tag of a class. -/
def opening (className : String) : String := "<span class=\"" ++ className ++ "\">"

/-- An opening tag and the text that it introduces. -/
def openWith (className text : String) : String := opening className ++ text

/-- A text inside a span of a class. -/
def wrap (className : String) (text : List Char) : List Char :=
  (opening className).toList ++ text ++ close.toList

end Highlighter.Span

namespace Highlighter.Entity

/-- A character as it stands in a page. -/
def ofChar : Char → List Char
  | '&' => ['&', 'a', 'm', 'p', ';']
  | '<' => ['&', 'l', 't', ';']
  | '>' => ['&', 'g', 't', ';']
  | c => [c]

/-- The text with `&`, `<` and `>` spelled as entities. -/
def escape (text : List Char) : List Char := text.flatMap ofChar

/-- There is nothing to escape in the empty text. -/
@[simp] theorem escape_nil : escape [] = [] := rfl

/-- Texts are escaped one by one. -/
@[simp] theorem escape_append (a b : List Char) : escape (a ++ b) = escape a ++ escape b :=
  List.flatMap_append

/-- The text with the three entities read back, `&lt;` first and `&amp;` last. -/
def unescape (text : List Char) : List Char :=
  Text.replaceAll (ofChar '&') ['&']
    (Text.replaceAll (ofChar '>') ['>'] (Text.replaceAll (ofChar '<') ['<'] text))

end Highlighter.Entity

namespace Highlighter.Strip

/-- The characters of a class name in a tag. -/
def isClassChar (c : Char) : Bool := ('a' ≤ c && c ≤ 'z') || c = '-'

/-- What every opening tag starts with. -/
def openingHead : List Char := "<span class=\"".toList

/-- What every opening tag ends with. -/
def openingEnd : List Char := ['"', '>']

/-- The length of the opening tag that a text starts with: its class is not empty and has small
ASCII letters and hyphens only. -/
def openingLength? (text : List Char) : Option Nat :=
  if openingHead.isPrefixOf text then
    let body := text.drop openingHead.length
    let name := body.takeWhile isClassChar
    if !name.isEmpty && openingEnd.isPrefixOf (body.drop name.length) then
      some (openingHead.length + name.length + openingEnd.length)
    else none
  else none

/-- The length of the tag that a text starts with. -/
def tagLength? (text : List Char) : Option Nat :=
  if Span.close.toList.isPrefixOf text then some Span.close.length else openingLength? text

/-- Goes on stripping: `done` is the text kept so far, newest first, and `skip` the number of
characters that still belong to the tag removed last. -/
def stripFrom (done : List Char) (skip : Nat) : List Char → List Char
  | [] => done.reverse
  | c :: rest =>
    match skip with
    | skip + 1 => stripFrom done skip rest
    | 0 =>
      if c = '<' then
        match tagLength? (c :: rest) with
        | some n => stripFrom done (n - 1) rest
        | none => stripFrom (c :: done) 0 rest
      else stripFrom (c :: done) 0 rest

/-- The text without its span tags. -/
def strip (html : List Char) : List Char := stripFrom [] 0 html

/-- What was kept before does not change what is kept next. -/
theorem stripFrom_eq_append (html : List Char) :
    ∀ (done : List Char) (skip : Nat),
      stripFrom done skip html = done.reverse ++ stripFrom [] skip html := by
  induction html with
  | nil => intro done skip; simp [stripFrom]
  | cons c rest ih =>
    intro done skip
    cases skip with
    | succ skip => exact ih done skip
    | zero =>
      simp only [stripFrom]
      split
      · split
        · exact ih done _
        · rw [ih (c :: done), ih [c]]; simp
      · rw [ih (c :: done), ih [c]]; simp

end Highlighter.Strip
