import Highlighter.Language.Construct
import Highlighter.Language.Words

/-!
# Recipes

The calls that make each built-in language. A language that derives from another one repeats its
calls and adds some of its own.
-/

namespace Highlighter.Recipe

open State Construct

/-- Literals between double and between single quotes, with backslash escapes. -/
def escapedQuotes : List Call :=
  quoted "\"" doubleQuoteLiteral ++ backslashEscape doubleQuoteLiteral doubleQuoteEscape ++
  quoted "'" singleQuoteLiteral ++ backslashEscape singleQuoteLiteral singleQuoteEscape

/-- Command literals between backticks, with backslash escapes. -/
def backticks : List Call :=
  quoted "`" backtickLiteral ++ backslashEscape backtickLiteral backtickEscape

/-- Quoted literals that end with their line, and block comments. -/
def c89 : List Call :=
  [.wildcard normal normal] ++
  escapedQuotes ++
  lookahead "/" slashSeen ++
  lookaheadInto slashSeen "*" State.blockCommentBody "comment" "/*" ++
  Construct.blockCommentBody "*" "/" ++
  [.reopenAfter slashSeen "/",
   endedByNewline doubleQuoteLiteral,
   endedByNewline singleQuoteLiteral,
   .keywords "preprocessor" Words.cDirectives,
   .keywords "keyword" Words.c89Keywords]

/-- Line comments, which a backslash carries over the end of the line. -/
def c : List Call :=
  c89 ++
  lookaheadInto slashSeen "/" lineComment "comment" "//" ++
  lineCommentBody ++
  [.on lineComment "\\" lineCommentEscape,
   .wildcard lineCommentEscape lineComment,
   .closure lineCommentEscape Span.close,
   .keywords "keyword" Words.c99Keywords]

/-- More words. -/
def cpp : List Call := c ++ [.keywords "keyword" Words.cppKeywords]

/-- No preprocessor: the same constructs without the words. -/
def java : List Call := c ++ [.clearKeywords, .keywords "keyword" Words.javaKeywords]

/-- The same constructs with directives and words of its own. -/
def csharp : List Call :=
  c ++
  [.clearKeywords,
   .keywords "preprocessor" Words.csharpDirectives,
   .keywords "keyword" Words.csharpKeywords]

/-- Comments behind a hash sign as well, literals over several lines, backticks, and words without
regard to case. -/
def php : List Call :=
  c ++
  [.clearKeywords] ++
  openedBy "#" lineComment "comment" ++
  [acrossNewlines doubleQuoteLiteral,
   acrossNewlines singleQuoteLiteral] ++
  backticks ++
  [.reopenAfter slashSeen "/",
   .ignoreCase true,
   .identChars "$",
   .keywords "keyword" Words.phpKeywords]

/-- Quoted literals that end with their line, and comments behind a hash sign. -/
def script : List Call :=
  [.wildcard normal normal] ++
  escapedQuotes ++
  lineCommentBy "#" ++
  [endedByNewline doubleQuoteLiteral,
   endedByNewline singleQuoteLiteral]

/-- Literals over several lines, and backticks. -/
def multilineScript : List Call :=
  script ++
  [acrossNewlines doubleQuoteLiteral,
   acrossNewlines singleQuoteLiteral] ++
  backticks

/-- Words of Python. -/
def python : List Call := script ++ [.keywords "keyword" Words.pythonKeywords]

/-- Variables begin with a sigil, which belongs to the identifier. -/
def perl : List Call :=
  multilineScript ++ [.identChars "$@%", .keywords "keyword" Words.perlKeywords]

/-- Variables may begin with a sigil. -/
def ruby : List Call :=
  multilineScript ++ [.identChars "$@", .keywords "keyword" Words.rubyKeywords]

/-- Literals between single quotes without escapes, and comments in braces, between `(*` and `*)`,
and behind `//`. -/
def pascal : List Call :=
  [.wildcard normal normal] ++
  quoted "'" singleQuoteLiteral ++
  openedBy "\x7b" braceComment "comment" ++
  [.wildcard braceComment braceComment,
   .on braceComment "\x7d" normal,
   .edge braceComment normal Span.close,
   .closure braceComment Span.close] ++
  lookahead "(" parenSeen ++
  lookaheadInto parenSeen "*" State.blockCommentBody "comment" "(*" ++
  Construct.blockCommentBody "*" ")" ++
  lookahead "/" slashSeen ++
  lookaheadInto slashSeen "/" lineComment "comment" "//" ++
  lineCommentBody ++
  [endedByNewline singleQuoteLiteral,
   .reopenAfter parenSeen "(",
   .reopenAfter slashSeen "/",
   .ignoreCase true,
   .keywords "keyword" Words.pascalKeywords]

/-- Literals without escapes and over several lines, block comments, and comments behind `--`. -/
def sql : List Call :=
  c89 ++
  [.clearKeywords,
   .on singleQuoteLiteral "\\\n" singleQuoteLiteral,
   .on doubleQuoteLiteral "\\\n" doubleQuoteLiteral] ++
  lookahead "-" dashSeen ++
  lookaheadInto dashSeen "-" lineComment "comment" "--" ++
  lineCommentBody ++
  [.reopenAfter slashSeen "/",
   .reopenAfter dashSeen "-",
   .ignoreCase true,
   .keywords "keyword" Words.sqlKeywords,
   .keywords "keyword" Words.sqlTypes]

/-- The end of a tag, which the edge spells inside the span. -/
def tagEnd : String := "&gt;" ++ Span.close

/-- A quoted attribute value inside a tag. -/
def attributeValue (quote : String) (body : State) : List Call :=
  [.on xmlTag quote body,
   .pairProcessor xmlTag body .escapeTrimTrigger,
   .edge xmlTag body (Span.openWith "literal" quote)]

/-- A quoted attribute value runs to its quote, back into the tag. -/
def attributeBody (quote : String) (body : State) : List Call :=
  [.wildcard body body,
   .on body quote xmlTag,
   .exitProcessor body .escape,
   .edge body xmlTag Span.close,
   .closure body (Span.close ++ Span.close)]

/-- A state that `>` ends together with the tag. -/
def endsTag (state : State) : List Call :=
  [.on state ">" normal,
   .pairProcessor state normal .escapeTrimTrigger,
   .edge state normal tagEnd]

/-- Tags, attribute values, processing instructions and entities; all text is escaped, so that the
output can be put into a page. -/
def xml : List Call :=
  [.defaultProcessor .escape,
   .wildcard normal normal,
   .on normal "<" xmlTagStart,
   .pairProcessor normal xmlTagStart .escapeTrimTrigger,
   .edge normal xmlTagStart (Span.openWith "tag" "&lt;"),
   .on normal "&" htmlEntity,
   .pairProcessor normal htmlEntity .escapeTrimTrigger,
   .edge normal htmlEntity (Span.openWith "entity" "&amp;"),
   .wildcard xmlTagStart xmlTag,
   .exitProcessor xmlTagStart .escape,
   .on xmlTagStart "?" xmlProcessingInstruction] ++
  endsTag xmlTagStart ++
  [.closure xmlTagStart Span.close,
   .wildcard xmlTag xmlTag] ++
  endsTag xmlTag ++
  attributeValue "\"" doubleQuoteLiteral ++
  attributeValue "'" singleQuoteLiteral ++
  [.closure xmlTag Span.close] ++
  attributeBody "\"" doubleQuoteLiteral ++
  attributeBody "'" singleQuoteLiteral ++
  [.wildcard xmlProcessingInstruction xmlProcessingInstruction] ++
  endsTag xmlProcessingInstruction ++
  [.closure xmlProcessingInstruction Span.close,
   .wildcard htmlEntity htmlEntity,
   .on htmlEntity "; \t\r\n" normal,
   .pairProcessor htmlEntity normal (.escapeCarry " \t\r\n"),
   .edge htmlEntity normal Span.close,
   .on htmlEntity "<" xmlTagStart,
   .pairProcessor htmlEntity xmlTagStart .escapeTrimTrigger,
   .edge htmlEntity xmlTagStart (Span.close ++ Span.openWith "tag" "&lt;")]

/-- Punctuation that belongs to the identifiers of Scheme. -/
def schemePunctuation : String := "!$%&*/:<=>?^~+-.@"

/-- The characters that go on a symbol or a character literal. -/
def schemeTokenChars : String :=
  "0123456789abcdefghijklmnopqrstuvwxyzABCDEFGHIJKLMNOPQRSTUVWXYZ_" ++ schemePunctuation

/-- A token runs over identifier characters. Anything else ends it; a double quote, a semicolon and a hash
sign start their construct right away. -/
def schemeToken (state : State) : List Call :=
  [.on state schemeTokenChars state,
   .wildcard state normal,
   .pairProcessor state normal .carryTrigger,
   .edge state normal Span.close,
   .on state "\"" doubleQuoteLiteral,
   .pairProcessor state doubleQuoteLiteral .dropTrigger,
   .edge state doubleQuoteLiteral (Span.close ++ Span.openWith "literal" "\""),
   .on state ";" lineComment,
   .pairProcessor state lineComment .dropTrigger,
   .edge state lineComment (Span.close ++ Span.openWith "comment" ";"),
   .on state "#" schemeHash,
   .pairProcessor state schemeHash .dropTrigger,
   .edge state schemeHash Span.close]

/-- Comments behind a semicolon and between `#|` and `|#`, strings, character literals, whose first
character always belongs to them, and quoted symbols. -/
def scheme : List Call :=
  [.wildcard normal normal] ++
  quoted "\"" doubleQuoteLiteral ++ backslashEscape doubleQuoteLiteral doubleQuoteEscape ++
  lineCommentBy ";" ++
  lookahead "#" schemeHash ++
  lookaheadInto schemeHash "|" State.blockCommentBody "comment" "#|" ++
  Construct.blockCommentBody "|" "#" ++
  lookaheadInto schemeHash "\\" schemeCharLiteral "literal" "#\\" ++
  [.wildcard schemeCharLiteral schemeCharBody,
   .closure schemeCharLiteral Span.close] ++
  schemeToken schemeCharBody ++
  openedBy "'" schemeSymbol "symbol" ++
  schemeToken schemeSymbol ++
  [.reopenAfter schemeHash "#",
   .identChars schemePunctuation,
   .keywords "keyword" Words.schemeKeywords]

end Highlighter.Recipe
