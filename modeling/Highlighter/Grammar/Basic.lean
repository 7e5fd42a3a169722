import Highlighter.Grammar.Transitions
import Highlighter.Processor

/-!
# Grammars

Everything that the scanner needs to know about a language: where each state goes, what is done with
the text of a state when it is left, the markup between the texts of two states, and the keywords.
-/

namespace Highlighter

/-- The tables of one language. -/
structure Grammar where
  name : String
  initial : State
  transitions : Transitions
  /-- Processors for leaving one state towards another. -/
  pairProcessor : State → State → Option Processor
  /-- Processors for leaving a state towards any state that has none of its own. -/
  exitProcessor : State → Option Processor
  /-- The processor for leaving the initial state where there is no other. -/
  defaultProcessor : Processor
  /-- Markup written between the texts of two states. -/
  edge : State → State → Option String
  /-- Markup written behind a text that ends in a state. -/
  ownClosure : State → Option String
  keywords : Overlay
  deriving DecidableEq

namespace Grammar

/-- The grammar without tables, which stands at the start of every grammar that is built. -/
def empty (name : String) : Grammar where
  name := name
  initial := .normal
  transitions := .empty
  pairProcessor := fun _ _ => none
  exitProcessor := fun _ => none
  defaultProcessor := .keywords
  edge := fun _ _ => none
  ownClosure := fun _ => none
  keywords := .empty

/-- The grammar whose output is its input. -/
def passthrough : Grammar :=
  { empty "passthrough" with transitions := .identity, defaultProcessor := .raw }

/-- Where a state goes on a character. A state without an entry and without a wildcard stays; the
checks that grammars pass keep such states out of reach. -/
def next (g : Grammar) (s : State) (c : Char) : State := (g.transitions.next? s c).getD s

/-- The processor for leaving `s` towards `t`: that of the pair, else that of the exit, else the
default for the initial state, and the text as it is for any other. -/
def processor (g : Grammar) (s t : State) : Processor :=
  (g.pairProcessor s t <|> g.exitProcessor s).getD
    (if s = g.initial then g.defaultProcessor else .raw)

/-- Markup that closes what is open when the text ends in a state: its own, else that of the edge
back to the initial state. -/
def closure (g : Grammar) (s : State) : Option String := g.ownClosure s <|> g.edge s g.initial

/-- The states that the scanner can come to. -/
def reachable (g : Grammar) : List State := g.transitions.reachableFrom g.initial

/-- The state goes to itself on some character. -/
def loops (g : Grammar) (s : State) : Bool := (g.transitions.targets s).contains s

/-- The state goes to another one through a processor that drops the segment. -/
def leavesByDiscard (g : Grammar) (s : State) : Bool :=
  (g.transitions.targets s).any fun t => t != s && g.processor s t == .discard

end Grammar
end Highlighter
