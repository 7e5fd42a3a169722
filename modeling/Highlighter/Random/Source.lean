/-!
# Random draws

Numbers in a range and biased coins, drawn from any stream of 64-bit words, and one such stream. A
draw of a number takes one word, and a second one where the first one alone would leave a bias.
-/

namespace Highlighter

/-- A stream of words. -/
class RandomSource (σ : Type) where
  next : σ → UInt64 × σ

/-- A computation that draws from a stream. -/
abbrev Draw (σ : Type) (α : Type) := StateM σ α

namespace Draw

variable {σ : Type} [RandomSource σ]

/-- The next word. -/
def word : Draw σ UInt64 := fun s => RandomSource.next s

/-- The upper half of the next word. -/
def halfWord : Draw σ Nat := return (← word).toNat / Nat.pow 2 32

/-- A number below `n`: the upper half of a half word times `n`. Where the lower half might carry, a
second half word says whether it does. -/
def below (n : Nat) : Draw σ Nat := do
  let product := (← halfWord) * n
  let high := product / Nat.pow 2 32
  let low := product % Nat.pow 2 32
  if low > Nat.pow 2 32 - n then
    let extra := (← halfWord) * n / Nat.pow 2 32
    return if low + extra ≥ Nat.pow 2 32 then high + 1 else high
  else
    return high

/-- A number from `first` on, out of `n` numbers. -/
def inRange (first n : Nat) : Draw σ Nat := return first + (← below n)

/-- A coin that shows true for the words below a bound. -/
def coin (bound : UInt64) : Draw σ Bool := return decide ((← word) < bound)

/-- One of some items. Nothing is drawn if there are none. -/
def pick? {α : Type} (items : Array α) : Draw σ (Option α) :=
  if items.isEmpty then return none else return items[← below items.size]?

/-- As many items as `n` says, each drawn by itself, as one text. -/
def many (n : Nat) (draw : Draw σ (List Char)) : Draw σ (List Char) :=
  match n with
  | 0 => return []
  | n + 1 => return (← draw) ++ (← many n draw)

end Draw

/-- A stream that adds an odd constant to its state and mixes the bits of the sum. -/
structure SplitMix where
  state : UInt64
  deriving DecidableEq

namespace SplitMix

/-- What is added to the state for each word. -/
def increment : UInt64 := 0x9E3779B97F4A7C15

/-- Spreads every bit of a word over the whole word. -/
def mix (z : UInt64) : UInt64 :=
  let z := (z ^^^ (z >>> 30)) * 0xBF58476D1CE4E5B9
  let z := (z ^^^ (z >>> 27)) * 0x94D049BB133111EB
  z ^^^ (z >>> 31)

instance : RandomSource SplitMix where
  next s :=
    let state := s.state + increment
    (mix state, ⟨state⟩)

end SplitMix
end Highlighter
