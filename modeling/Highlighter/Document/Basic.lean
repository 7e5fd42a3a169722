import Highlighter.Grammar.Builder
import Highlighter.Text.Utf8

/-!
# Grammar documents

The content of a grammar as lists of entries, which is the form in which a grammar is stored. A
document is turned into a grammar by making the calls that it lists; the document of a grammar lists
its entries in the order of the states, so that equal grammars have the same document.
-/

namespace Highlighter

/-- The characters `on` take `source` to `target`. -/
structure TransitionEntry where
  source : State
  on : String
  target : State
  deriving DecidableEq

/-- Every other character takes `source` to `target`. -/
structure WildcardEntry where
  source : State
  target : State
  deriving DecidableEq

/-- The processor for leaving `source` towards `target`, or towards any state. -/
structure ProcessorEntry where
  source : State
  target : Option State
  processor : Processor
  deriving DecidableEq

/-- The markup between `source` and `target`. -/
structure EdgeEntry where
  source : State
  target : State
  markup : String
  deriving DecidableEq

/-- The markup behind a text that ends in `state`. -/
structure ClosureEntry where
  state : State
  markup : String
  deriving DecidableEq

/-- The words of a class. -/
structure KeywordEntry where
  className : String
  words : List String
  deriving DecidableEq

/-- A grammar as lists of entries. -/
structure Document where
  name : String
  initial : State
  transitions : List TransitionEntry
  wildcards : List WildcardEntry
  processors : List ProcessorEntry
  edges : List EdgeEntry
  closures : List ClosureEntry
  keywords : List KeywordEntry
  ignoreCase : Bool
  identChars : String
  defaultProcessor : Processor
  deriving DecidableEq

/-- The call of a transition entry. -/
def TransitionEntry.call (e : TransitionEntry) : Call :=
  .transition e.source (Utf8.ofString e.on) e.target

/-- The call of a wildcard entry. -/
def WildcardEntry.call (e : WildcardEntry) : Call := .wildcard e.source e.target

/-- The call of a processor entry. -/
def ProcessorEntry.call (e : ProcessorEntry) : Call :=
  match e.target with
  | some target => .pairProcessor e.source target e.processor
  | none => .exitProcessor e.source e.processor

/-- The call of an edge entry. -/
def EdgeEntry.call (e : EdgeEntry) : Call := .edge e.source e.target e.markup

/-- The call of a closure entry. -/
def ClosureEntry.call (e : ClosureEntry) : Call := .closure e.state e.markup

/-- The call of a keyword entry. -/
def KeywordEntry.call (e : KeywordEntry) : Call := .keywords e.className e.words

namespace Document

/-- The calls of a document. The case rule comes first, so that every word gets the right key. -/
def calls (d : Document) : List Call :=
  [.initial d.initial, .ignoreCase d.ignoreCase, .identChars d.identChars,
   .defaultProcessor d.defaultProcessor] ++
  d.transitions.map (·.call) ++ d.wildcards.map (·.call) ++ d.processors.map (·.call) ++
  d.edges.map (·.call) ++ d.closures.map (·.call) ++ d.keywords.map (·.call)

/-- The grammar of a document, unless something is wrong with it. -/
def toGrammar (d : Document) : Except Refusal Grammar := ((Builder.empty d.name).run d.calls).build

/-- The entries for the characters of one state, one for each state that they lead to. -/
def transitionsFrom (t : Transitions) (source : State) : List TransitionEntry :=
  let row := Key.all.filterMap fun k => (t.explicit source k).map (k, ·)
  State.all.filterMap fun target =>
    let keys := row.filter (·.2 == target)
    if keys.isEmpty then none
    else some ⟨source, String.ofList (keys.map (·.1.toChar)), target⟩

/-- The processor entries of one state, the one for any target first. -/
def processorsFrom (g : Grammar) (source : State) : List ProcessorEntry :=
  ((g.exitProcessor source).map fun p => ⟨source, none, p⟩).toList ++
  State.all.filterMap fun target =>
    (g.pairProcessor source target).map fun p => ⟨source, some target, p⟩

/-- The edge entries of one state. -/
def edgesFrom (g : Grammar) (source : State) : List EdgeEntry :=
  State.all.filterMap fun target =>
    (g.edge source target).map fun markup => ⟨source, target, markup⟩

/-- The document of a grammar. -/
def ofGrammar (g : Grammar) : Document where
  name := g.name
  initial := g.initial
  transitions := State.all.flatMap (transitionsFrom g.transitions)
  wildcards := State.all.filterMap fun s => (g.transitions.wildcard s).map fun t => ⟨s, t⟩
  processors := State.all.flatMap (processorsFrom g)
  edges := State.all.flatMap (edgesFrom g)
  closures := State.all.filterMap fun s => (g.ownClosure s).map fun markup => ⟨s, markup⟩
  keywords := g.keywords.sets.map fun s => ⟨s.className, s.words.toList⟩
  ignoreCase := g.keywords.ignoreCase
  identChars := g.keywords.extraIdentChars
  defaultProcessor := g.defaultProcessor

end Document
end Highlighter
