import Highlighter.Grammar.Basic

/-!
# What can be wrong with a grammar

A grammar is sound when every state that the scanner can come to has a wildcard, so that no
character leaves it stuck, and when no lookahead state that piles characters up by looping is left
through a processor that drops them.
-/

namespace Highlighter

/-- A reason to refuse a grammar. -/
inductive Defect where
  /-- A transition was asked for on a byte that is no ASCII character. -/
  | wideKey (byte : UInt8) (source : State)
  /-- A state within reach has no wildcard. -/
  | missingWildcard (s initial : State)
  /-- A lookahead state within reach loops and is left by dropping its segment. -/
  | discardingLoop (s : State)
  deriving DecidableEq

namespace Defect

/-- A byte in two capital hexadecimal digits. -/
def hexByte (byte : UInt8) : String :=
  String.ofList ((Nat.toDigits 16 byte.toNat).map Char.toUpper)

/-- The words for a defect. -/
def message : Defect → String
  | wideKey byte source =>
    "non-ASCII transition key 0x" ++ hexByte byte ++ " on " ++ source.name ++ "; use the wildcard"
  | missingWildcard s initial =>
    "state " ++ s.name ++ " is reachable from " ++ initial.name ++
      " but has no wildcard transition"
  | discardingLoop s =>
    "lookahead state " ++ s.name ++ " loops on itself but leaves through Discard"

end Defect

/-- A grammar that was refused, and why. -/
structure Refusal where
  grammar : String
  defect : Defect
  deriving DecidableEq

/-- The words for a refusal. -/
def Refusal.message (r : Refusal) : String := "grammar " ++ r.grammar ++ ": " ++ r.defect.message

namespace Grammar

/-- What is wrong with one state within reach: a missing wildcard comes before a loop. -/
def defectAt? (g : Grammar) (s : State) : Option Defect :=
  if g.transitions.wildcard s = none then some (.missingWildcard s g.initial)
  else if s.isLookahead && g.loops s && g.leavesByDiscard s then some (.discardingLoop s)
  else none

/-- What is wrong with the first state within reach that has something wrong with it. -/
def defect? (g : Grammar) : Option Defect := g.reachable.findSome? g.defectAt?

end Grammar
end Highlighter
