import Highlighter.State

/-!
# Transition tables

Where each state goes: an entry for a single ASCII character, else the wildcard of the state. Only
ASCII characters have entries of their own; every other character takes the wildcard.
-/

namespace Highlighter

/-- An ASCII character as the key of a transition. -/
abbrev Key := Fin 128

namespace Key

/-- Every key, in order. -/
def all : List Key := List.finRange 128

/-- The list has every key. -/
@[simp] theorem mem_all (k : Key) : k ∈ all := List.mem_finRange k

/-- The key of an ASCII character. -/
def ofChar? (c : Char) : Option Key := if h : c.toNat < 128 then some ⟨c.toNat, h⟩ else none

/-- The key of a byte below 128. -/
def ofByte? (b : UInt8) : Option Key := if h : b.toNat < 128 then some ⟨b.toNat, h⟩ else none

/-- The character of a key. -/
def toChar (k : Key) : Char := Char.ofNat k.val

instance decidableEqFun {α : Type} [DecidableEq α] : DecidableEq (Key → α) := fun f g =>
  decidable_of_iff (∀ k, f k = g k) funext_iff.symm

end Key

/-- The transitions of every state. -/
structure Transitions where
  explicit : State → Key → Option State
  wildcard : State → Option State
  deriving DecidableEq

namespace Transitions

/-- The table without entries. -/
def empty : Transitions := ⟨fun _ _ => none, fun _ => none⟩

/-- Every state stays where it is on every character. -/
def identity : Transitions := ⟨fun _ _ => none, some⟩

/-- The entry for one character of one state. -/
def entry? (t : Transitions) (s : State) (c : Char) : Option State :=
  (Key.ofChar? c).bind (t.explicit s)

/-- Where a state goes on a character: its entry, or else the wildcard. -/
def next? (t : Transitions) (s : State) (c : Char) : Option State :=
  t.entry? s c <|> t.wildcard s

/-- The table with an entry for each key of a list. -/
def setKeys (t : Transitions) (source : State) (keys : List Key) (target : State) : Transitions :=
  { t with
    explicit := fun s k => if s = source ∧ k ∈ keys then some target else t.explicit s k }

/-- The table with the wildcard of one state set. -/
def setWildcard (t : Transitions) (source target : State) : Transitions :=
  { t with wildcard := fun s => if s = source then some target else t.wildcard s }

/-- The states that a state goes to, by an entry or by its wildcard. -/
def targets (t : Transitions) (s : State) : List State :=
  Key.all.filterMap (t.explicit s) ++ (t.wildcard s).toList

/-- Adds to the states `seen` all that can be reached from the states `frontier` among them in at
most `rounds` steps. -/
def spread (t : Transitions) : (rounds : Nat) → (frontier seen : List State) → List State
  | 0, _, seen => seen
  | rounds + 1, frontier, seen =>
    let found := frontier.flatMap t.targets
    let fresh := State.all.filter fun s => found.contains s && !seen.contains s
    if fresh.isEmpty then seen else spread t rounds fresh (seen ++ fresh)

/-- The states that can be reached from a state, itself included, in order. -/
def reachableFrom (t : Transitions) (start : State) : List State :=
  let seen := t.spread State.all.length [start] [start]
  State.all.filter seen.contains

end Transitions
end Highlighter
