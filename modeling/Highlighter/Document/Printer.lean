import Highlighter.Document.Basic
import Highlighter.Json.Basic

/-!
# Writing grammar documents

The JSON value of a document. Every field is written, in the order of the structure.
-/

namespace Highlighter

/-- The value of a state. -/
def State.toJson (s : State) : Json String := .text s.name

/-- The name of the kind of a processor. -/
def Processor.kind : Processor → String
  | raw => "raw"
  | keywords => "keywords"
  | escape => "escape"
  | trimTrigger => "trim_trigger"
  | dropTrigger => "drop_trigger"
  | escapeTrimTrigger => "escape_trim_trigger"
  | escapeCarry _ => "escape_carry"
  | discard => "discard"
  | putback _ => "putback"
  | putbackTrim _ => "putback_trim"
  | carryTrigger => "carry_trigger"

/-- The text that a processor carries, under its field name. -/
def Processor.payload : Processor → List (String × Json String)
  | escapeCarry chars => [("chars", .text chars)]
  | putback held | putbackTrim held => [("prefix", .text held)]
  | _ => []

/-- The value of a processor. -/
def Processor.toJson (p : Processor) : Json String :=
  .record (("kind", .text p.kind) :: p.payload)

/-- The value of a transition entry. -/
def TransitionEntry.toJson (e : TransitionEntry) : Json String :=
  .record [("from", e.source.toJson), ("on", .text e.on), ("to", e.target.toJson)]

/-- The value of a wildcard entry. -/
def WildcardEntry.toJson (e : WildcardEntry) : Json String :=
  .record [("from", e.source.toJson), ("to", e.target.toJson)]

/-- The value of a processor entry. -/
def ProcessorEntry.toJson (e : ProcessorEntry) : Json String :=
  .record [("from", e.source.toJson), ("to", (e.target.map State.toJson).getD .null),
    ("processor", e.processor.toJson)]

/-- The value of an edge entry. -/
def EdgeEntry.toJson (e : EdgeEntry) : Json String :=
  .record [("from", e.source.toJson), ("to", e.target.toJson), ("markup", .text e.markup)]

/-- The value of a closure entry. -/
def ClosureEntry.toJson (e : ClosureEntry) : Json String :=
  .record [("state", e.state.toJson), ("markup", .text e.markup)]

/-- The value of a keyword entry. -/
def KeywordEntry.toJson (e : KeywordEntry) : Json String :=
  .record [("class", .text e.className), ("words", .texts e.words)]

/-- The value of a document. -/
def Document.toJson (d : Document) : Json String :=
  .record [
    ("name", .text d.name),
    ("initial", d.initial.toJson),
    ("transitions", .list (d.transitions.map (·.toJson))),
    ("wildcards", .list (d.wildcards.map (·.toJson))),
    ("processors", .list (d.processors.map (·.toJson))),
    ("edges", .list (d.edges.map (·.toJson))),
    ("closures", .list (d.closures.map (·.toJson))),
    ("keywords", .list (d.keywords.map (·.toJson))),
    ("case_insensitive", .bool d.ignoreCase),
    ("ident_chars", .text d.identChars),
    ("default_processor", d.defaultProcessor.toJson)]

/-- The stored form of a grammar. -/
def Grammar.toText (g : Grammar) : String := (Document.ofGrammar g).toJson.pretty

end Highlighter
