import Highlighter.Grammar.Basic

/-!
# The scanner

One pass over a text: each character is looked up once, the segment of a state is handed to a
processor when the state is left, and the markup of the edge is written behind it. `Scan.ofText` is
the scanner after a text, and `Grammar.highlight` the finished output.
-/

namespace Highlighter

/-- The scanner between two characters: its state, the segment of that state newest first, and the
output so far. -/
structure Scan where
  state : State
  pending : List Char
  written : String
  deriving DecidableEq

namespace Scan

/-- The characters that the scanner holds back, in order. -/
def segment (s : Scan) : List Char := s.pending.reverse

/-- The scanner before the text. -/
def start (g : Grammar) : Scan := ⟨g.initial, [], ""⟩

/-- Leaves the state for another one. What the processor leaves begins the next segment. -/
def leave (g : Grammar) (s : Scan) (target : State) : Scan :=
  let outcome := (g.processor s.state target).close g.keywords s.segment
  { state := target
    pending := outcome.left.reverse
    written := s.written ++ String.ofList outcome.written ++ (g.edge s.state target).getD "" }

/-- Reads one character. -/
def read (g : Grammar) (s : Scan) (c : Char) : Scan :=
  let target := g.next s.state c
  let s := { s with pending := c :: s.pending }
  if target = s.state then s else s.leave g target

/-- Reads a text. -/
def readAll (g : Grammar) (s : Scan) (text : List Char) : Scan := text.foldl (read g) s

/-- The scanner after a text. -/
def ofText (g : Grammar) (text : List Char) : Scan := (start g).readAll g text

/-- The output when the text ends here. The segment is flushed as on a return to the initial state,
and what is still open is closed. -/
def finish (g : Grammar) (s : Scan) : String :=
  let flushed := (g.processor s.state g.initial).flush g.keywords s.segment
  let closing := if s.state = g.initial then "" else (g.closure s.state).getD ""
  s.written ++ String.ofList flushed ++ closing

end Scan

/-- The text with the markup of a grammar. -/
def Grammar.highlight (g : Grammar) (text : String) : String :=
  (Scan.ofText g text.toList).finish g

end Highlighter
