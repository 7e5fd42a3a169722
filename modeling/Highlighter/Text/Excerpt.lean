import Highlighter.Text.Utf8
import Highlighter.Unicode.Visible

/-!
# Quoted excerpts

A text appears inside a message between double quotes, with a backslash before a quote or a backslash,
short escapes for NUL, tab, line feed and carriage return, and the code point in hexadecimal for every
other character that cannot be seen. Two texts that differ are shown around the first byte at which they
part, in excerpts that are widened to whole characters.
-/

namespace Highlighter.Text

/-! ### Quoted text -/

/-- A character inside quotes. -/
def quoteChar (c : Char) : List Char :=
  match c with
  | '\x00' => ['\\', '0']
  | '\t' => ['\\', 't']
  | '\n' => ['\\', 'n']
  | '\r' => ['\\', 'r']
  | '"' => ['\\', '"']
  | '\\' => ['\\', '\\']
  | c =>
    if Unicode.isVisible c then [c]
    else ['\\', 'u', '\x7b'] ++ Nat.toDigits 16 c.toNat ++ ['\x7d']

/-- A text between quotes. -/
def quoted (text : List Char) : String :=
  String.ofList ('"' :: text.flatMap quoteChar ++ ['"'])

/-! ### Where two texts part -/

/-- The length of a text in bytes. -/
def byteLength (text : List Char) : Nat := (Utf8.encode text).length

/-- The number of bytes that two texts have in common at their start. -/
def firstDivergence (a b : Bytes) : Nat := ((a.zip b).takeWhile fun (x, y) => x = y).length

/-- A piece of a text and the byte at which it begins. -/
structure Excerpt where
  low : Nat
  text : List Char

/-- The byte behind the excerpt. -/
def Excerpt.high (e : Excerpt) : Nat := e.low + byteLength e.text

/-- Passes over the characters that end at or before byte `limit`; the text begins at byte `pos`. -/
def seek (limit pos : Nat) : List Char → Excerpt
  | [] => ⟨pos, []⟩
  | c :: rest =>
    let next := pos + (Utf8.encodeChar c).length
    if next ≤ limit then seek limit next rest else ⟨pos, c :: rest⟩

/-- The characters that begin before byte `limit`; the text begins at byte `pos`. -/
def takeTo (limit pos : Nat) : List Char → List Char
  | [] => []
  | c :: rest =>
    if pos < limit then c :: takeTo limit (pos + (Utf8.encodeChar c).length) rest else []

/-- How many bytes an excerpt shows on each side. -/
def margin : Nat := 40

/-- The excerpt of a text around byte `place`. -/
def excerpt (text : List Char) (place : Nat) : Excerpt :=
  let start := seek (place - margin) 0 text
  ⟨start.low, takeTo (place + margin) start.low start.text⟩

/-- The excerpt between quotes. -/
def shownAround (text : String) (place : Nat) : String := quoted (excerpt text.toList place).text

end Highlighter.Text
