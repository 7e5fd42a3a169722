/-!
# JSON values

The tree of a JSON text. The texts in it have a type of their own: a value that is to be written has
strings, and one that was read has the bytes between the quotes, which are looked at only where a
text is asked for. A value is written over several lines, with two spaces for each level; inside
quotes only the quote, the backslash and the control characters below U+0020 are escaped.
-/

namespace Highlighter

/-- A JSON value with texts of type `τ`. Numbers keep their spelling, and the fields of a record
their order and their repetitions. -/
inductive Json (τ : Type) where
  | null
  | bool (b : Bool)
  | number (spelling : String)
  | text (t : τ)
  | list (items : List (Json τ))
  | record (fields : List (τ × Json τ))

namespace Json

instance {τ : Type} : Inhabited (Json τ) := ⟨null⟩

/-- The value of a natural number. -/
def nat (n : Nat) : Json String := number (toString n)

/-- The value of a list of strings. -/
def texts (ts : List String) : Json String := list (ts.map text)

/-! ### Writing -/

/-- A hexadecimal digit. -/
def hexDigit (n : Nat) : Char := Char.ofNat (if n < 10 then '0'.toNat + n else 'a'.toNat + (n - 10))

/-- A character inside quotes. -/
def escapeChar (c : Char) : List Char :=
  match c with
  | '"' => ['\\', '"']
  | '\\' => ['\\', '\\']
  | '\x08' => ['\\', 'b']
  | '\x0c' => ['\\', 'f']
  | '\n' => ['\\', 'n']
  | '\r' => ['\\', 'r']
  | '\t' => ['\\', 't']
  | c =>
    if c.toNat < 0x20 then
      ['\\', 'u', '0', '0', hexDigit (c.toNat / 16), hexDigit (c.toNat % 16)]
    else [c]

/-- A text between quotes. -/
def quote (s : String) : List Char := '"' :: s.toList.flatMap escapeChar ++ ['"']

/-- The beginning of a line at a level. -/
def newline (level : Nat) : List Char := '\n' :: List.replicate (2 * level) ' '

mutual

/-- The text of a value at a level. -/
def print (level : Nat) : Json String → List Char
  | null => ['n', 'u', 'l', 'l']
  | bool true => ['t', 'r', 'u', 'e']
  | bool false => ['f', 'a', 'l', 's', 'e']
  | number spelling => spelling.toList
  | text t => quote t
  | list [] => ['[', ']']
  | list (item :: items) =>
    '[' :: newline (level + 1) ++ print (level + 1) item ++ printItems (level + 1) items ++
      newline level ++ [']']
  | record [] => ['\x7b', '\x7d']
  | record (field :: fields) =>
    '\x7b' :: newline (level + 1) ++ printField (level + 1) field ++
      printFields (level + 1) fields ++ newline level ++ ['\x7d']

/-- The text of the items behind the first one. -/
def printItems (level : Nat) : List (Json String) → List Char
  | [] => []
  | item :: items => ',' :: newline level ++ print level item ++ printItems level items

/-- The text of a field. -/
def printField (level : Nat) : String × Json String → List Char
  | (name, value) => quote name ++ [':', ' '] ++ print level value

/-- The text of the fields behind the first one. -/
def printFields (level : Nat) : List (String × Json String) → List Char
  | [] => []
  | field :: fields => ',' :: newline level ++ printField level field ++ printFields level fields

end

/-- The text of a value. -/
def pretty (value : Json String) : String := String.ofList (print 0 value)

end Json
end Highlighter
