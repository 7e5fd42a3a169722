import Highlighter.Random.Source
import Highlighter.Sample.Flavor

/-!
# Sample texts

Random texts in the flavor of a language: identifiers, keywords, numbers, blanks, comments,
literals and operators in a row. Constructs are left open now and then, also at the very end. No
piece that is put together from single characters has the letter `n` in it, so a sample never
spells a span tag.
-/

namespace Highlighter.Sample

variable {σ : Type} [RandomSource σ]

/-- Operators and other punctuation. -/
def operators : Array String :=
  #["(", ")", "+", "-", "*", "/", "=", "==", "!", "[", "]", "\x7b", "\x7d", "<", "<=", ">", ">=",
    "&", "&&", "|", ";", ",", ".", ":", "#", "$", "@", "%", "?", "\\", "'", "\"", "\x60"]

/-- Characters outside of ASCII. -/
def wideChars : Array Char := #['é', 'λ', '→', 'ß', '中', '😀', '\u00a0']

/-- Characters that identifiers begin with. -/
def firstChars : Array Char := "abcdefghijklmopqrstuvwxyzABCDEFGHIJKLMOPQRSTUVWXYZ_".toList.toArray

/-- Characters that identifiers go on with. -/
def laterChars : Array Char := "abcdefghijklmopqrstuvwxyz0123456789_".toList.toArray

/-- Characters of comments and literals. -/
def bodyChars : Array Char :=
  "abcdefghijklmopqrstuvwxyz0123456789 \t+-*/\\&|!#;\x7b\x7d()<>=\"'\x60$@%?:.,".toList.toArray

/-- Blanks. -/
def blankChars : Array Char := #[' ', '\t', '\r', '\n']

/-- Decimal digits. -/
def digitChars : Array Char := "0123456789".toList.toArray

/-- The bound of the coin that ends a construct, nine times out of ten. -/
def usually : UInt64 := 16602069666338596864

/-- The bound of the coin that puts a space behind an operator, one time out of four. -/
def oneInFour : UInt64 := 4611686018427387904

/-- The bound of the coin that makes a keyword capital, one time out of five. -/
def oneInFive : UInt64 := 3689348814741910528

/-- The bound of the coin that puts a character outside of ASCII into a body, three times out of a
hundred. -/
def seldom : UInt64 := 553402322211286528

/-- One of some characters. -/
def oneOf (chars : Array Char) : Draw σ (List Char) := return (← Draw.pick? chars).toList

/-- Up to ten characters of an identifier. -/
def identifier : Draw σ (List Char) := do
  let length ← Draw.inRange 1 10
  let first ← oneOf firstChars
  return first ++ (← Draw.many (length - 1) (oneOf laterChars))

/-- Up to six digits. -/
def integer : Draw σ (List Char) := do
  Draw.many (← Draw.inRange 1 6) (oneOf digitChars)

/-- Up to four blanks. -/
def blanks : Draw σ (List Char) := do
  Draw.many (← Draw.inRange 1 4) (oneOf blankChars)

/-- A character of a comment or literal. -/
def bodyChar : Draw σ (List Char) := do
  if ← Draw.coin seldom then oneOf wideChars else oneOf bodyChars

/-- Up to `longest` characters of a comment or literal. -/
def body (longest : Nat) : Draw σ (List Char) := do
  Draw.many (← Draw.inRange 0 (longest + 1)) bodyChar

/-- A keyword as it is or in capitals; an identifier if the language has no keywords. -/
def keyword (words : Array String) : Draw σ (List Char) := do
  match ← Draw.pick? words with
  | some w => return if ← Draw.coin oneInFive then Ascii.upper w else w.toList
  | none => identifier

/-- A construct with an opener, a body, and most of the time a closer. -/
def construct (opener : List Char) (longest : Nat) (closer : List Char) : Draw σ (List Char) := do
  let inside ← body longest
  return opener ++ inside ++ (if ← Draw.coin usually then closer else [])

/-- One piece of a text. It is empty where the flavor has nothing of the kind. -/
def piece (flavor : Flavor) (words : Array String) : Draw σ (List Char) := do
  let kind ← Draw.below 100
  if kind < 20 then identifier
  else if kind < 32 then keyword words
  else if kind < 40 then integer
  else if kind < 55 then blanks
  else if kind < 62 then
    match ← Draw.pick? flavor.lineComments.toArray with
    | some opener => construct opener.toList 30 ['\n']
    | none => return []
  else if kind < 69 then
    match ← Draw.pick? flavor.blockComments.toArray with
    | some (opener, closer) => construct opener.toList 40 closer.toList
    | none => return []
  else if kind < 79 then
    match ← Draw.pick? flavor.quotes.toArray with
    | some quote => construct [quote] 20 [quote]
    | none => return []
  else if kind < 85 then return ((← Draw.pick? flavor.extras.toArray).getD "").toList
  else if kind < 88 then oneOf wideChars
  else
    let operator := ((← Draw.pick? operators).getD "").toList
    return operator ++ (if ← Draw.coin oneInFour then [' '] else [])

/-- Puts pieces behind a text until it has `target` bytes; none when the rounds are used up
before. -/
def extend (flavor : Flavor) (words : Array String) (target : Nat) :
    (rounds : Nat) → String → Draw σ (Option String)
  | rounds, text =>
    if target ≤ text.utf8ByteSize then return some text
    else
      match rounds with
      | 0 => return none
      | rounds + 1 => do
        extend flavor words target rounds (text ++ String.ofList (← piece flavor words))

/-- The keywords of a grammar, each one once, in order. -/
def wordsOf (g : Grammar) : List String :=
  (WordSet.ofList (g.keywords.sets.flatMap fun s => s.words.toList)).toList

/-- The keywords of a built-in language. -/
def words (language : String) : List String :=
  ((Registry.builtin.byName? language).map wordsOf).getD []

/-- A text of at least `target` bytes in the flavor of a language, made in at most `rounds`
pieces. -/
def text (rounds : Nat) (language : String) (target : Nat) : Draw σ (Option String) :=
  extend (Flavor.ofName language) (words language).toArray target rounds ""

/-- More pieces than a text of `target` bytes takes with any draws that are not made up against
it. -/
def enoughRounds (target : Nat) : Nat := 64 * (target + 16)

end Highlighter.Sample
