import Highlighter.Grammar.Builder
import Highlighter.Markup
import Highlighter.Text.Utf8

/-!
# Constructs

The pieces that languages are put together from: quoted literals, line comments, block comments, and
the lookahead states that lead into what is opened by two characters. Each construct is a list of
calls that wires states, processors and markup together so that no character is lost at a boundary.
-/

namespace Highlighter

/-- Each of the characters takes `source` to `target`. -/
def Call.on (source : State) (chars : String) (target : State) : Call :=
  .transition source (Utf8.ofString chars) target

namespace Construct

open State

/-- From the initial state, one of the characters opens `body`. The edge spells the opener. -/
def openedBy (opener : String) (body : State) (className : String) : List Call :=
  [.on normal opener body,
   .pairProcessor normal body .trimTrigger,
   .edge normal body (Span.openWith className opener)]

/-- A literal between two equal quotes. -/
def quoted (quote : String) (body : State) : List Call :=
  openedBy quote body "literal" ++
  [.wildcard body body,
   .on body quote normal,
   .edge body normal Span.close]

/-- A backslash inside a literal takes the next character. -/
def backslashEscape (body escape : State) : List Call :=
  [.on body "\\" escape,
   .wildcard escape body,
   .closure escape Span.close]

/-- A line comment runs up to the newline, which is handed back behind the closing tag. -/
def lineCommentBody : List Call :=
  [.wildcard lineComment lineComment,
   .on lineComment "\n" normal,
   .pairProcessor lineComment normal .carryTrigger,
   .edge lineComment normal Span.close]

/-- A line comment opened by one character. -/
def lineCommentBy (opener : String) : List Call :=
  openedBy opener lineComment "comment" ++ lineCommentBody

/-- The character `held` takes the initial state to a lookahead state, which holds it back and puts
it in front of the text again if nothing is opened. -/
def lookahead (held : String) (state : State) : List Call :=
  [.on normal held state,
   .pairProcessor normal state .trimTrigger,
   .wildcard state normal,
   .pairProcessor state normal (.putback held)]

/-- A second character takes the lookahead state into `target`; the edge spells both characters.
Characters that were piled up before them are written as text. -/
def lookaheadInto (state : State) (second : String) (target : State) (className opener : String) :
    List Call :=
  [.on state second target,
   .pairProcessor state target .dropTrigger,
   .edge state target (Span.openWith className opener)]

/-- A block comment is closed by `star` and `last` in a row. -/
def blockCommentBody (star last : String) : List Call :=
  [.wildcard State.blockCommentBody State.blockCommentBody,
   .on State.blockCommentBody star blockCommentEnd,
   .wildcard blockCommentEnd State.blockCommentBody,
   .on blockCommentEnd star blockCommentEnd,
   .on blockCommentEnd last normal,
   .edge blockCommentEnd normal Span.close,
   .closure State.blockCommentBody Span.close]

/-- A newline ends a literal in `body`. -/
def endedByNewline (body : State) : Call := .on body "\n" normal

/-- A literal in `body` goes on over newlines. -/
def acrossNewlines (body : State) : Call := .on body "\n" body

end Construct
end Highlighter
