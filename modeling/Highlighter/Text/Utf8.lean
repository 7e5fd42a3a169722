/-!
# Text as bytes

UTF-8 in both directions. `parts` reads any bytes as a list of characters and of ill-formed parts,
each part as long as a character's bytes could go on; `decode?` accepts well-formed bytes only and
`decodeLossy` puts a replacement character for each ill-formed part. Main statement: the parts of an
encoded text are its characters.
-/

namespace Highlighter

/-- The content of a file or of a stream. -/
abbrev Bytes := List UInt8

namespace Utf8

/-- The bytes of one character. -/
def encodeChar (c : Char) : Bytes :=
  let n := c.toNat
  if n < 0x80 then [n.toUInt8]
  else if n < 0x800 then [(0xC0 + n / 64).toUInt8, (0x80 + n % 64).toUInt8]
  else if n < 0x10000 then
    [(0xE0 + n / 4096).toUInt8, (0x80 + n / 64 % 64).toUInt8, (0x80 + n % 64).toUInt8]
  else
    [(0xF0 + n / 262144).toUInt8, (0x80 + n / 4096 % 64).toUInt8, (0x80 + n / 64 % 64).toUInt8,
     (0x80 + n % 64).toUInt8]

/-- The bytes of a text. -/
def encode (text : List Char) : Bytes := text.flatMap encodeChar

/-- The empty text has no bytes. -/
@[simp] theorem encode_nil : encode [] = [] := rfl

/-- The bytes of the first character come first. -/
@[simp] theorem encode_cons (c : Char) (text : List Char) :
    encode (c :: text) = encodeChar c ++ encode text := rfl

/-- The bytes of two texts stand one behind the other. -/
@[simp] theorem encode_append (a b : List Char) : encode (a ++ b) = encode a ++ encode b :=
  List.flatMap_append

/-- A character whose first bytes were read: how many are missing, the ends of the range that the
next one must be in, and the value so far. -/
structure Begun where
  missing : Nat
  low : Nat
  high : Nat
  value : Nat

/-- A reader of bytes, with the parts that it has read, newest first. An ill-formed part is
`none`. -/
structure Reader where
  begun : Option Begun
  parts : List (Option Char)

/-- Reads a byte that stands where a character has to begin. -/
def Reader.first (parts : List (Option Char)) (n : Nat) : Reader :=
  if n < 0x80 then ⟨none, some (Char.ofNat n) :: parts⟩
  else if n < 0xC2 then ⟨none, none :: parts⟩
  else if n < 0xE0 then ⟨some ⟨1, 0x80, 0xBF, n - 0xC0⟩, parts⟩
  else if n < 0xF0 then
    ⟨some ⟨2, if n = 0xE0 then 0xA0 else 0x80, if n = 0xED then 0x9F else 0xBF, n - 0xE0⟩, parts⟩
  else if n < 0xF5 then
    ⟨some ⟨3, if n = 0xF0 then 0x90 else 0x80, if n = 0xF4 then 0x8F else 0xBF, n - 0xF0⟩, parts⟩
  else ⟨none, none :: parts⟩

/-- Reads one byte. A byte that cannot go on the character begun before it ends that character as
an ill-formed part and is read anew. -/
def Reader.read (r : Reader) (byte : UInt8) : Reader :=
  let n := byte.toNat
  match r.begun with
  | none => first r.parts n
  | some b =>
    if b.low ≤ n ∧ n ≤ b.high then
      let value := b.value * 64 + (n - 0x80)
      if b.missing = 1 then ⟨none, some (Char.ofNat value) :: r.parts⟩
      else ⟨some ⟨b.missing - 1, 0x80, 0xBF, value⟩, r.parts⟩
    else first (none :: r.parts) n

/-- The parts of some bytes, in order. -/
def parts (bytes : Bytes) : List (Option Char) :=
  let r := bytes.foldl Reader.read ⟨none, []⟩
  (if r.begun.isSome then none :: r.parts else r.parts).reverse

/-- The text of well-formed bytes. -/
def decode? (bytes : Bytes) : Option (List Char) :=
  let ps := parts bytes
  if ps.all Option.isSome then some (ps.filterMap id) else none

/-- The text of any bytes, with U+FFFD for each ill-formed part. -/
def decodeLossy (bytes : Bytes) : List Char := (parts bytes).map (·.getD '\uFFFD')

/-- The bytes of a string. -/
def ofString (s : String) : Bytes := encode s.toList

/-- The string of well-formed bytes. -/
def toString? (bytes : Bytes) : Option String := (decode? bytes).map String.ofList

/-- The string of any bytes. -/
def toStringLossy (bytes : Bytes) : String := String.ofList (decodeLossy bytes)

/-- A number that fits a byte is kept. -/
private theorem toNat_toUInt8 {n : Nat} (h : n < 256) : n.toUInt8.toNat = n :=
  UInt8.toNat_ofNat_of_lt' h

namespace Reader

variable {m k low high value : Nat} {ps : List (Option Char)}

/-- A small byte is a character by itself. -/
theorem read_small (h : m < 0x80) :
    read ⟨none, ps⟩ m.toUInt8 = ⟨none, some (Char.ofNat m) :: ps⟩ := by
  simp [read, first, toNat_toUInt8 (show m < 256 by omega), h]

/-- The first of two bytes; below 2 the character would fit one. -/
theorem read_firstOfTwo (hlow : 2 ≤ m) (hhigh : m < 0x20) :
    read ⟨none, ps⟩ (0xC0 + m).toUInt8 = ⟨some ⟨1, 0x80, 0xBF, m⟩, ps⟩ := by
  simp only [read, first, toNat_toUInt8 (show 0xC0 + m < 256 by omega)]
  rw [if_neg (by omega), if_neg (by omega), if_pos (by omega), Nat.add_sub_cancel_left]

/-- The first of three bytes. The range of the second one keeps out what would fit two bytes, and the
surrogates. -/
theorem read_firstOfThree (h : m < 0x10) :
    read ⟨none, ps⟩ (0xE0 + m).toUInt8 =
      ⟨some ⟨2, if m = 0 then 0xA0 else 0x80, if m = 0xD then 0x9F else 0xBF, m⟩, ps⟩ := by
  simp only [read, first, toNat_toUInt8 (show 0xE0 + m < 256 by omega)]
  rw [if_neg (by omega), if_neg (by omega), if_neg (by omega), if_pos (by omega),
    Nat.add_sub_cancel_left]
  simp only [Nat.add_eq_left, show (0xE0 + m = 0xED) = (m = 0xD) from propext (by omega)]

/-- The first of four bytes. The range of the second one keeps out what would fit three bytes, and what
is no code point. -/
theorem read_firstOfFour (h : m < 5) :
    read ⟨none, ps⟩ (0xF0 + m).toUInt8 =
      ⟨some ⟨3, if m = 0 then 0x90 else 0x80, if m = 4 then 0x8F else 0xBF, m⟩, ps⟩ := by
  simp only [read, first, toNat_toUInt8 (show 0xF0 + m < 256 by omega)]
  rw [if_neg (by omega), if_neg (by omega), if_neg (by omega), if_neg (by omega), if_pos (by omega),
    Nat.add_sub_cancel_left]
  simp only [Nat.add_eq_left, show (0xF0 + m = 0xF4) = (m = 4) from propext (by omega)]

/-- A byte in the range goes on the character that was begun. -/
theorem read_next (h : m < 0x40) (hlow : low ≤ 0x80 + m) (hhigh : 0x80 + m ≤ high) :
    read ⟨some ⟨k + 2, low, high, value⟩, ps⟩ (0x80 + m).toUInt8 =
      ⟨some ⟨k + 1, 0x80, 0xBF, value * 64 + m⟩, ps⟩ := by
  simp only [read, toNat_toUInt8 (show 0x80 + m < 256 by omega)]
  rw [if_pos ⟨hlow, hhigh⟩, if_neg (by omega), Nat.add_sub_cancel_left]
  rfl

/-- The last byte that was missing ends the character. -/
theorem read_last (h : m < 0x40) (hlow : low ≤ 0x80 + m) (hhigh : 0x80 + m ≤ high) :
    read ⟨some ⟨1, low, high, value⟩, ps⟩ (0x80 + m).toUInt8 =
      ⟨none, some (Char.ofNat (value * 64 + m)) :: ps⟩ := by
  simp only [read, toNat_toUInt8 (show 0x80 + m < 256 by omega)]
  rw [if_pos ⟨hlow, hhigh⟩, if_pos trivial, Nat.add_sub_cancel_left]

end Reader

/-- A reader between characters reads the bytes of one character as that character. -/
theorem foldl_read_encodeChar (c : Char) (ps : List (Option Char)) :
    (encodeChar c).foldl Reader.read ⟨none, ps⟩ = ⟨none, some c :: ps⟩ := by
  have hc : Char.ofNat c.toNat = c := Char.ofNat_toNat c
  have hv : c.toNat < 0xD800 ∨ (0xDFFF < c.toNat ∧ c.toNat < 0x110000) := c.valid
  rw [encodeChar]
  generalize c.toNat = n at hc hv
  -- one case for each number of bytes, which together make up the number again
  by_cases h1 : n < 0x80
  · rw [if_pos h1, List.foldl_cons, List.foldl_nil, Reader.read_small h1, hc]
  by_cases h2 : n < 0x800
  · have hn : n / 64 * 64 + n % 64 = n := by omega
    rw [if_neg h1, if_pos h2, List.foldl_cons, List.foldl_cons, List.foldl_nil,
      Reader.read_firstOfTwo (by omega) (by omega), Reader.read_last (by omega) (by omega) (by omega),
      hn, hc]
  by_cases h3 : n < 0x10000
  · have hn : (n / 4096 * 64 + n / 64 % 64) * 64 + n % 64 = n := by omega
    rw [if_neg h1, if_neg h2, if_pos h3, List.foldl_cons, List.foldl_cons, List.foldl_cons,
      List.foldl_nil, Reader.read_firstOfThree (by omega),
      Reader.read_next (by omega) (by split <;> omega) (by split <;> omega),
      Reader.read_last (by omega) (by omega) (by omega), hn, hc]
  · have hn : ((n / 262144 * 64 + n / 4096 % 64) * 64 + n / 64 % 64) * 64 + n % 64 = n := by omega
    rw [if_neg h1, if_neg h2, if_neg h3, List.foldl_cons, List.foldl_cons, List.foldl_cons,
      List.foldl_cons, List.foldl_nil, Reader.read_firstOfFour (by omega),
      Reader.read_next (by omega) (by split <;> omega) (by split <;> omega),
      Reader.read_next (by omega) (by omega) (by omega),
      Reader.read_last (by omega) (by omega) (by omega), hn, hc]

/-- The parts of an encoded text are its characters. -/
theorem parts_encode (text : List Char) : parts (encode text) = text.map some := by
  have h : ∀ ps, (encode text).foldl Reader.read ⟨none, ps⟩ =
      ⟨none, (text.map some).reverse ++ ps⟩ := by
    induction text with
    | nil => intro ps; rfl
    | cons c text ih =>
      intro ps
      rw [encode_cons, List.foldl_append, foldl_read_encodeChar, ih]
      simp
  simp [parts, h]

/-- The bytes of a text are well-formed and read back. -/
@[simp] theorem decode?_encode (text : List Char) : decode? (encode text) = some text := by
  simp [decode?, parts_encode, List.filterMap_map]

/-- Nothing is lost of the bytes of a text. -/
@[simp] theorem decodeLossy_encode (text : List Char) : decodeLossy (encode text) = text := by
  simp [decodeLossy, parts_encode, Function.comp_def]

/-- The bytes of a string are well-formed and read back. -/
@[simp] theorem toString?_ofString (s : String) : toString? (ofString s) = some s := by
  simp [toString?, ofString]

end Utf8
end Highlighter
