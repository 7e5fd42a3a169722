import Highlighter.Json.Basic
import Highlighter.Json.Number

/-!
# Reading JSON

`parse?` reads the tree of a JSON text from bytes. It holds the text to the grammar of JSON, but
leaves the texts inside quotes as they are spelled; `text?` reads one of those, and refuses bytes
that are not well-formed and halves of surrogate pairs. `isPlain` tells the values that can be
read as a whole: all texts can be read, no number is too large, and the nesting is bounded.
-/

namespace Highlighter.Json

/-- A JSON value as it was read. -/
abbrev Spelled := Json Bytes

/-- Space, tab, line feed and carriage return may stand between the parts of a value. -/
def isSpace (b : UInt8) : Bool := b == 0x20 || b == 0x09 || b == 0x0A || b == 0x0D

/-- The bytes without the spaces in front. -/
def skipSpaces (bytes : Bytes) : Bytes := bytes.dropWhile isSpace

/-- A hexadecimal digit, small or capital. -/
def isHexDigit (b : UInt8) : Bool :=
  isDigit b || (0x41 ≤ b && b ≤ 0x46) || (0x61 ≤ b && b ≤ 0x66)

/-- A byte that makes an escape with the backslash before it: a quote, a backslash, a slash, or
one of the letters b, f, n, r and t. -/
def isShortEscape (b : UInt8) : Bool :=
  [0x22, 0x5C, 0x2F, 0x62, 0x66, 0x6E, 0x72, 0x74].contains b

/-- Reads up to the closing quote. Gives the bytes in between, as they are spelled, and the rest. -/
def quotedBytes? : Bytes → Option (Bytes × Bytes)
  | [] => none
  | b :: rest =>
    if b = 0x22 then some ([], rest)
    else if b < 0x20 then none
    else if b = 0x5C then
      match rest with
      | [] => none
      | e :: rest =>
        if isShortEscape e then (quotedBytes? rest).map fun (raw, rest) => (b :: e :: raw, rest)
        else if e = 0x75 then
          match rest with
          | h₁ :: h₂ :: h₃ :: h₄ :: rest =>
            if isHexDigit h₁ && isHexDigit h₂ && isHexDigit h₃ && isHexDigit h₄ then
              (quotedBytes? rest).map fun (raw, rest) =>
                (b :: e :: h₁ :: h₂ :: h₃ :: h₄ :: raw, rest)
            else none
          | _ => none
        else none
    else (quotedBytes? rest).map fun (raw, rest) => (b :: raw, rest)

mutual

/-- Reads a value. Gives the value and the rest. -/
def value? : (fuel : Nat) → Bytes → Option (Spelled × Bytes)
  | 0, _ => none
  | fuel + 1, bytes =>
    match skipSpaces bytes with
    | 0x6E :: 0x75 :: 0x6C :: 0x6C :: rest => some (null, rest)
    | 0x74 :: 0x72 :: 0x75 :: 0x65 :: rest => some (bool true, rest)
    | 0x66 :: 0x61 :: 0x6C :: 0x73 :: 0x65 :: rest => some (bool false, rest)
    | 0x22 :: rest => (quotedBytes? rest).map fun (raw, rest) => (text raw, rest)
    | 0x5B :: rest =>
      match skipSpaces rest with
      | 0x5D :: rest => some (list [], rest)
      | rest => (items? fuel rest).map fun (items, rest) => (list items, rest)
    | 0x7B :: rest =>
      match skipSpaces rest with
      | 0x7D :: rest => some (record [], rest)
      | rest => (fields? fuel rest).map fun (fields, rest) => (record fields, rest)
    | bytes => (number? bytes).map fun (spelling, rest) => (number spelling, rest)

/-- Reads the items of a list, one at least, and its closing bracket. -/
def items? : (fuel : Nat) → Bytes → Option (List Spelled × Bytes)
  | 0, _ => none
  | fuel + 1, bytes =>
    match value? fuel bytes with
    | none => none
    | some (item, rest) =>
      match skipSpaces rest with
      | 0x2C :: rest => (items? fuel rest).map fun (items, rest) => (item :: items, rest)
      | 0x5D :: rest => some ([item], rest)
      | _ => none

/-- Reads the fields of a record, one at least, and its closing brace. -/
def fields? : (fuel : Nat) → Bytes → Option (List (Bytes × Spelled) × Bytes)
  | 0, _ => none
  | fuel + 1, bytes =>
    match skipSpaces bytes with
    | 0x22 :: rest =>
      match quotedBytes? rest with
      | none => none
      | some (name, rest) =>
        match skipSpaces rest with
        | 0x3A :: rest =>
          match value? fuel rest with
          | none => none
          | some (value, rest) =>
            match skipSpaces rest with
            | 0x2C :: rest =>
              (fields? fuel rest).map fun (fields, rest) => ((name, value) :: fields, rest)
            | 0x7D :: rest => some ([(name, value)], rest)
            | _ => none
        | _ => none
    | _ => none

end

/-- Reads a JSON text with nothing but spaces around its value. Every second call of the readers
takes a byte, so the fuel lasts. -/
def parse? (bytes : Bytes) : Option Spelled :=
  match value? (2 * bytes.length + 2) bytes with
  | some (value, rest) => if (skipSpaces rest).isEmpty then some value else none
  | none => none

/-- The value of a hexadecimal digit. -/
def hexValue? (c : Char) : Option Nat :=
  if '0' ≤ c ∧ c ≤ '9' then some (c.toNat - '0'.toNat)
  else if 'a' ≤ c ∧ c ≤ 'f' then some (c.toNat - 'a'.toNat + 10)
  else if 'A' ≤ c ∧ c ≤ 'F' then some (c.toNat - 'A'.toNat + 10)
  else none

/-- The value of four hexadecimal digits. -/
def hex4? (a b c d : Char) : Option Nat := do
  return (((← hexValue? a) * 16 + (← hexValue? b)) * 16 + (← hexValue? c)) * 16 + (← hexValue? d)

/-- The character of a short escape. -/
def shortEscape? : Char → Option Char
  | '"' => some '"'
  | '\\' => some '\\'
  | '/' => some '/'
  | 'b' => some '\x08'
  | 'f' => some '\x0c'
  | 'n' => some '\n'
  | 'r' => some '\r'
  | 't' => some '\t'
  | _ => none

/-- Reads the escapes of a text. The two halves of a surrogate pair make one character; a half by
itself makes none. -/
def unescape? : List Char → Option (List Char)
  | [] => some []
  | '\\' :: 'u' :: a :: b :: c :: d :: rest =>
    match hex4? a b c d with
    | none => none
    | some high =>
      if 0xD800 ≤ high ∧ high < 0xDC00 then
        match rest with
        | '\\' :: 'u' :: a :: b :: c :: d :: rest =>
          match hex4? a b c d with
          | none => none
          | some low =>
            if 0xDC00 ≤ low ∧ low < 0xE000 then
              (unescape? rest).map
                (Char.ofNat (0x10000 + (high - 0xD800) * 0x400 + (low - 0xDC00)) :: ·)
            else none
        | _ => none
      else if 0xDC00 ≤ high ∧ high < 0xE000 then none
      else (unescape? rest).map (Char.ofNat high :: ·)
  | '\\' :: e :: rest =>
    match shortEscape? e with
    | none => none
    | some c => (unescape? rest).map (c :: ·)
  | c :: rest => if c = '\\' then none else (unescape? rest).map (c :: ·)

/-- The string that was spelled between quotes. -/
def text? (raw : Bytes) : Option String := do
  let chars ← Utf8.decode? raw
  return String.ofList (← unescape? chars)

mutual

/-- The value can be read as a whole, and nests at most `room` deep. -/
def isPlain (room : Nat) : Spelled → Bool
  | null => true
  | bool _ => true
  | number spelling => fitsDouble spelling
  | text raw => (text? raw).isSome
  | list items => 0 < room && allPlain (room - 1) items
  | record fields => 0 < room && allFieldsPlain (room - 1) fields

/-- All items can be read. -/
def allPlain (room : Nat) : List Spelled → Bool
  | [] => true
  | item :: items => isPlain room item && allPlain room items

/-- The field can be read. -/
def isFieldPlain (room : Nat) : Bytes × Spelled → Bool
  | (name, value) => (text? name).isSome && isPlain room value

/-- All fields can be read. -/
def allFieldsPlain (room : Nat) : List (Bytes × Spelled) → Bool
  | [] => true
  | field :: fields => isFieldPlain room field && allFieldsPlain room fields

end

end Highlighter.Json
