import Highlighter.Keyword.Overlay
import Highlighter.Markup

/-!
# Processors

What happens to the text of a state when the scanner leaves it. The segment ends with the character
that made the scanner leave, the trigger. A processor that trims the trigger relies on the markup of
the same edge to spell it, inside the span which that markup opens.
-/

namespace Highlighter

/-- What is done with a finished segment. -/
inductive Processor where
  /-- Writes the segment as it is. -/
  | raw
  /-- Marks the keywords of the segment. -/
  | keywords
  /-- Escapes the segment. -/
  | escape
  /-- Marks the keywords of the segment and drops the trigger. -/
  | trimTrigger
  /-- Writes the segment without the trigger. -/
  | dropTrigger
  /-- Escapes the segment without the trigger. -/
  | escapeTrimTrigger
  /-- Escapes the segment, but carries a trigger among `chars` over to the next one. -/
  | escapeCarry (chars : String)
  /-- Drops the segment: the edge spells it. -/
  | discard
  /-- Puts the text `held` back in front of the segment and carries both over to the next one. -/
  | putback (held : String)
  /-- Puts the text `held` back in front of the segment without its trigger and marks keywords. -/
  | putbackTrim (held : String)
  /-- Writes the segment without the trigger, which is carried over to the next one. -/
  | carryTrigger
  deriving DecidableEq, Inhabited

namespace Processor

/-- What a processor writes and what it leaves to begin the next segment with. -/
structure Outcome where
  written : List Char
  left : List Char
  deriving DecidableEq

/-- Ends a segment whose last character is the trigger. -/
def close (p : Processor) (k : Overlay) (segment : List Char) : Outcome :=
  match p with
  | raw => ⟨segment, []⟩
  | keywords => ⟨k.mark segment, []⟩
  | escape => ⟨Entity.escape segment, []⟩
  | trimTrigger => ⟨k.mark segment.dropLast, []⟩
  | dropTrigger => ⟨segment.dropLast, []⟩
  | escapeTrimTrigger => ⟨Entity.escape segment.dropLast, []⟩
  | escapeCarry chars =>
    match segment.getLast?.filter (chars.toList.contains ·) with
    | some c => ⟨Entity.escape segment.dropLast, [c]⟩
    | none => ⟨Entity.escape segment, []⟩
  | discard => ⟨[], []⟩
  | putback held => ⟨[], held.toList ++ segment⟩
  | putbackTrim held => ⟨k.mark (held.toList ++ segment.dropLast), []⟩
  | carryTrigger => ⟨segment.dropLast, segment.getLast?.toList⟩

/-- Writes the segment that the text ends in. It has no trigger, and what was held is put back. -/
def flush (p : Processor) (k : Overlay) (segment : List Char) : List Char :=
  match p with
  | raw | dropTrigger | discard | carryTrigger => segment
  | keywords | trimTrigger => k.mark segment
  | escape | escapeTrimTrigger | escapeCarry _ => Entity.escape segment
  | putback held | putbackTrim held => k.mark (held.toList ++ segment)

end Processor
end Highlighter
