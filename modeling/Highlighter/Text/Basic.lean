import Highlighter.Unicode.Classes

/-!
# Texts

What names, numbers and pages need of texts. Names are compared without regard to the case of ASCII
letters; every other character has to be the same. An unsigned number of 64 bits may have blanks around
it and a plus sign in front, and the rest is ASCII digits. `replaceAll` goes from left to right and
replaces every occurrence of a pattern that does not overlap one replaced before it.
-/

namespace Highlighter.Ascii

/-- The text with its ASCII letters small. -/
def lower (s : String) : List Char := s.toList.map Char.toLower

/-- The text with its ASCII letters capital. -/
def upper (s : String) : List Char := s.toList.map Char.toUpper

/-- Equal up to the case of ASCII letters. -/
def sameIgnoringCase (a b : String) : Bool := lower a == lower b

end Highlighter.Ascii

namespace Highlighter.Text

/-! ### Numerals -/

/-- The value of ASCII digits; none for no digits or another character. -/
def digitsValue? (digits : List Char) : Option Nat :=
  if !digits.isEmpty && digits.all Char.isDigit then
    some (digits.foldl (fun value c => value * 10 + (c.toNat - '0'.toNat)) 0)
  else none

/-- The number that a text spells, if it has 64 bits. -/
def numeral? (text : List Char) : Option Nat :=
  let digits :=
    match Unicode.trim text with
    | '+' :: rest => rest
    | rest => rest
  (digitsValue? digits).filter (· < Nat.pow 2 64)

/-! ### Replacing a text inside a text -/

/-- Goes on replacing: `done` is what was written so far, newest first, and `skip` the number of
characters that still belong to the occurrence replaced last. -/
def replaceFrom (pattern replacement : List Char) (done : List Char) (skip : Nat) :
    List Char → List Char
  | [] => done.reverse
  | c :: rest =>
    match skip with
    | skip + 1 => replaceFrom pattern replacement done skip rest
    | 0 =>
      if pattern.isPrefixOf (c :: rest) then
        replaceFrom pattern replacement (replacement.reverse ++ done) (pattern.length - 1) rest
      else replaceFrom pattern replacement (c :: done) 0 rest

/-- The text with every occurrence of a non-empty pattern replaced. -/
def replaceAll (pattern replacement text : List Char) : List Char :=
  replaceFrom pattern replacement [] 0 text

/-- What was written before does not change what is written next. -/
theorem replaceFrom_eq_append (pattern replacement : List Char) (text : List Char) :
    ∀ (done : List Char) (skip : Nat),
      replaceFrom pattern replacement done skip text
        = done.reverse ++ replaceFrom pattern replacement [] skip text := by
  induction text with
  | nil => intro done skip; simp [replaceFrom]
  | cons c rest ih =>
    intro done skip
    cases skip with
    | succ skip => exact ih done skip
    | zero =>
      simp only [replaceFrom]
      split
      · rw [ih, ih (replacement.reverse ++ [])]; simp
      · rw [ih, ih [c]]; simp

end Highlighter.Text
