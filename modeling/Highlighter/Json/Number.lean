import Highlighter.Text.Utf8

/-!
# JSON numbers

How a number is spelled, and whether it is small enough for a double. A number has a significand
below 2^64, for which digits are taken as long as they fit, and a power of ten. Its value is the
double nearest to the product of the doubles nearest to these two.
-/

namespace Highlighter.Json

/-- A decimal digit. -/
def isDigit (b : UInt8) : Bool := 0x30 ≤ b && b ≤ 0x39

/-- Reads one digit or more. -/
def digits? (bytes : Bytes) : Option (Bytes × Bytes) :=
  let ds := bytes.takeWhile isDigit
  if ds.isEmpty then none else some (ds, bytes.dropWhile isDigit)

/-- Reads a minus sign if there is one. -/
def minus (bytes : Bytes) : Bytes × Bytes :=
  match bytes with
  | 0x2D :: rest => ([0x2D], rest)
  | rest => ([], rest)

/-- Reads the digits of an integer. A zero in front has no digits behind it. -/
def integer? (bytes : Bytes) : Option (Bytes × Bytes) :=
  match digits? bytes with
  | some (0x30 :: _ :: _, _) => none
  | found => found

/-- Reads the fraction of a number if there is one. -/
def fraction? (bytes : Bytes) : Option (Bytes × Bytes) :=
  match bytes with
  | 0x2E :: rest => (digits? rest).map fun (ds, rest) => (0x2E :: ds, rest)
  | rest => some ([], rest)

/-- Reads a plus or minus sign if there is one. -/
def sign (bytes : Bytes) : Bytes × Bytes :=
  match bytes with
  | 0x2B :: rest => ([0x2B], rest)
  | rest => minus rest

/-- Reads the exponent of a number if there is one. -/
def exponent? (bytes : Bytes) : Option (Bytes × Bytes) :=
  match bytes with
  | [] => some ([], [])
  | b :: rest =>
    if b = 0x65 || b = 0x45 then
      let (signed, rest) := sign rest
      (digits? rest).map fun (ds, rest) => (b :: signed ++ ds, rest)
    else some ([], bytes)

/-- Reads a number. Gives its spelling and the rest. -/
def number? (bytes : Bytes) : Option (String × Bytes) := do
  let (signed, bytes) := minus bytes
  let (whole, bytes) ← integer? bytes
  let (fraction, bytes) ← fraction? bytes
  let (exponent, bytes) ← exponent? bytes
  let spelling := signed ++ whole ++ fraction ++ exponent
  return (String.ofList (spelling.map fun b => Char.ofNat b.toNat), bytes)

/-- The double nearest to a natural number, the even one if there are two. There is no largest
double here. -/
def nearestDouble (n : Nat) : Nat :=
  let step := Nat.pow 2 (n.log2 - 52)
  let steps := n / step
  let rest := n % step
  if step < 2 * rest ∨ (step = 2 * rest ∧ steps % 2 = 1) then (steps + 1) * step else steps * step

/-- Takes digits into a significand for as long as it stays below 2^64. Gives the significand and
the digits that are left. -/
def takeDigits (significand : Nat) : List Char → Nat × List Char
  | [] => (significand, [])
  | c :: cs =>
    let longer := significand * 10 + (c.toNat - '0'.toNat)
    if longer < Nat.pow 2 64 then takeDigits longer cs else (significand, c :: cs)

/-- The value of the digits of an exponent, which may have a sign. -/
def exponentValue : List Char → Int
  | '-' :: ds => -decimal ds
  | '+' :: ds => decimal ds
  | ds => decimal ds
where
  /-- The value of decimal digits. -/
  decimal (ds : List Char) : Nat := ds.foldl (fun value c => value * 10 + (c.toNat - '0'.toNat)) 0

/-- The number of this spelling is not too large for a double. -/
def fitsDouble (spelling : String) : Bool :=
  let unsigned := spelling.toList.dropWhile (· == '-')
  let mantissa := unsigned.takeWhile fun c => c != 'e' && c != 'E'
  let fraction := (mantissa.dropWhile (· != '.')).drop 1
  let (significand, left) := takeDigits 0 (mantissa.takeWhile (· != '.'))
  let (significand, leftOfFraction) := takeDigits significand fraction
  let power := (unsigned.dropWhile fun c => c != 'e' && c != 'E').drop 1
  let exponent : Int :=
    left.length - (fraction.length - leftOfFraction.length : Nat) + exponentValue power
  significand == 0 || exponent < 0 || (exponent ≤ 308 &&
    nearestDouble (nearestDouble significand * nearestDouble (Nat.pow 10 exponent.toNat))
      < Nat.pow 2 1024)

end Highlighter.Json
