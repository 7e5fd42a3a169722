import Highlighter.Markup
import Highlighter.Registry.Basic
import Highlighter.Text.Excerpt

/-!
# Checking a highlighted text

A highlighter keeps the content of a text: plain text is left as it is, and taking the markup off a
highlighted text gives the text back. `check` finds out whether a registry keeps one text.
-/

namespace Highlighter

/-- The text that a highlighted one was made from. The entities are read back where the language
escapes its text. -/
def recoverSource (html language : String) : String :=
  let text := Strip.strip html.toList
  String.ofList
    (if Ascii.sameIgnoringCase language Language.xml.name then Entity.unescape text else text)

/-- How a text was not kept. -/
inductive Fault where
  /-- Plain text came out with changes. -/
  | plainChanged
  /-- Without its markup the output differs from the text at a byte; both are shown around it. -/
  | contentLost (place : Nat) (got want : String)
  deriving DecidableEq

/-- Two texts as they are shown around the byte at which they part. -/
def shownApart (got want : String) (place : Nat) : String :=
  "\n  got:  " ++ Text.shownAround got place ++ "\n  want: " ++ Text.shownAround want place

/-- The byte at which two strings part. -/
def divergence (a b : String) : Nat := Text.firstDivergence (Utf8.ofString a) (Utf8.ofString b)

/-- The words for a fault. -/
def Fault.message : Fault → String
  | plainChanged => "Plain Text changed its input"
  | contentLost place got want =>
    "content not preserved at byte " ++ toString place ++ ":" ++ shownApart got want place

/-- How the registry does not keep a text of a language, if it does not. -/
def Registry.check (r : Registry) (source language : String) : Option Fault :=
  let html := r.highlight source language
  if Ascii.sameIgnoringCase language Language.plainText.name && html != source then
    some .plainChanged
  else
    let back := recoverSource html language
    if back = source then none else some (.contentLost (divergence back source) back source)

end Highlighter
