import Highlighter.Grammar.Defect
import Highlighter.Grammar.Layout

/-!
# Building grammars

A grammar is made by a list of calls, each of which sets something; a later call wins over an
earlier one. `Builder.build` hands the grammar out if nothing is wrong with it.
-/

namespace Highlighter

/-- One step in making a grammar. -/
inductive Call where
  /-- The state that the scanner starts in. -/
  | initial (s : State)
  /-- Each of the bytes takes `source` to `target`. -/
  | transition (source : State) (bytes : List UInt8) (target : State)
  /-- Every character without an entry takes `source` to `target`. -/
  | wildcard (source target : State)
  /-- The processor for leaving `source` towards `target`. -/
  | pairProcessor (source target : State) (p : Processor)
  /-- The processor for leaving `source` towards a state without a processor of its own. -/
  | exitProcessor (source : State) (p : Processor)
  /-- The processor for leaving the initial state where there is no other. -/
  | defaultProcessor (p : Processor)
  /-- The markup between `source` and `target`. -/
  | edge (source target : State) (markup : String)
  /-- The markup behind a text that ends in `s`. -/
  | closure (s : State) (markup : String)
  /-- Words of a class. -/
  | keywords (className : String) (words : List String)
  /-- No words of any class. -/
  | clearKeywords
  /-- Whether words are looked up without regard to case. -/
  | ignoreCase (on : Bool)
  /-- The lookahead state `s`, which holds `held`, opens what the initial state opens. -/
  | reopenAfter (s : State) (held : String)
  /-- Characters of identifiers besides letters, digits and the underscore. -/
  | identChars (chars : String)
  deriving DecidableEq

namespace Grammar

/-- Opening the construct `target` from `s` would go against a processor or an edge that `s` has
already. -/
def reopenClashes (g : Grammar) (s : State) (held : String) (target : State) : Bool :=
  (g.pairProcessor s target).any (· != .putbackTrim held) ||
    (g.edge s target).any fun markup => some markup != g.edge g.initial target

/-- Where `s` goes on a key when it gives up holding `held`: to what the initial state opens on that
key, unless `s` has an entry for it already. A key that leads the initial state to `s` loops. -/
def reopened? (g : Grammar) (s : State) (held : String) (k : Key) : Option State :=
  match g.transitions.explicit g.initial k with
  | none => none
  | some target =>
    if target = g.initial ∨ (g.transitions.explicit s k).isSome ∨
        g.processor g.initial target ≠ .trimTrigger then none
    else if target = s then some s
    else if g.reopenClashes s held target then none
    else some target

/-- The grammar whose lookahead state `s` no longer hides what the initial state opens: the held
text is written and the construct opens with the same markup. -/
def reopenAfter (g : Grammar) (s : State) (held : String) : Grammar :=
  let opened := (Key.all.filterMap (g.reopened? s held)).filter (· != s)
  { g with
    transitions :=
      { g.transitions with
        explicit := fun u k =>
          if u = s then g.transitions.explicit u k <|> g.reopened? s held k
          else g.transitions.explicit u k }
    pairProcessor := fun u t =>
      if u = s ∧ t ∈ opened then some (.putbackTrim held) else g.pairProcessor u t
    edge := fun u t =>
      if u = s ∧ t ∈ opened then g.edge g.initial t <|> g.edge u t else g.edge u t }

/-- The grammar after one call. A byte that is no ASCII character sets nothing. -/
def apply (g : Grammar) : Call → Grammar
  | .initial s => { g with initial := s }
  | .transition source bytes target =>
    { g with transitions := g.transitions.setKeys source (bytes.filterMap Key.ofByte?) target }
  | .wildcard source target => { g with transitions := g.transitions.setWildcard source target }
  | .pairProcessor source target p =>
    { g with
      pairProcessor := fun s t => if s = source ∧ t = target then some p else g.pairProcessor s t }
  | .exitProcessor source p =>
    { g with exitProcessor := fun s => if s = source then some p else g.exitProcessor s }
  | .defaultProcessor p => { g with defaultProcessor := p }
  | .edge source target markup =>
    { g with edge := fun s t => if s = source ∧ t = target then some markup else g.edge s t }
  | .closure state markup =>
    { g with ownClosure := fun s => if s = state then some markup else g.ownClosure s }
  | .keywords className words => { g with keywords := g.keywords.addWords className words }
  | .clearKeywords => { g with keywords := g.keywords.clearSets }
  | .ignoreCase on => { g with keywords := g.keywords.setIgnoreCase on }
  | .reopenAfter s held => g.reopenAfter s held
  | .identChars chars => { g with keywords := g.keywords.setExtraIdentChars chars }

end Grammar

/-- The call looks at what the calls before it have set. -/
def Call.looksBack : Call → Bool
  | .reopenAfter _ _ => true
  | _ => false

/-- The bytes of a call that are no keys of transitions, in order. -/
def Call.wideKeys : Call → List Defect
  | .transition source bytes _ => (bytes.filter (128 ≤ ·)).map (.wideKey · source)
  | _ => []

/-- A grammar in the making, and the bytes that were refused so far. -/
structure Builder where
  grammar : Grammar
  wideKeys : List Defect
  deriving DecidableEq

namespace Builder

/-- Starts without tables. -/
def empty (name : String) : Builder := ⟨.empty name, []⟩

/-- Starts with the tables of another grammar, under a new name. -/
def derive (base : Grammar) (name : String) : Builder := ⟨{ base with name := name }, []⟩

/-- One call. The tables are laid out before a call that looks at them again and again. -/
def apply (b : Builder) (c : Call) : Builder :=
  let g := if c.looksBack then b.grammar.laidOut else b.grammar
  ⟨g.apply c, b.wideKeys ++ c.wideKeys⟩

/-- A call changes the grammar and notes its wide keys, whether or not the tables are laid out. -/
@[simp] theorem apply_eq (b : Builder) (c : Call) :
    b.apply c = ⟨b.grammar.apply c, b.wideKeys ++ c.wideKeys⟩ := by
  simp [apply]

/-- A list of calls. -/
def run (b : Builder) (calls : List Call) : Builder := calls.foldl apply b

/-- Making the calls makes them on the grammar, one after the other. -/
theorem grammar_run (b : Builder) (calls : List Call) :
    (b.run calls).grammar = calls.foldl Grammar.apply b.grammar := by
  induction calls generalizing b with
  | nil => rfl
  | cons c calls ih => simpa [run] using ih (b.apply c)

/-- What is wrong with the grammar: the first refused byte, else the first unsound state. -/
def defect? (b : Builder) : Option Defect := b.wideKeys.head? <|> b.grammar.defect?

/-- The grammar, laid out, unless something is wrong with it. -/
def build (b : Builder) : Except Refusal Grammar :=
  let g := b.grammar.laidOut
  match b.wideKeys.head? <|> g.defect? with
  | some d => .error ⟨g.name, d⟩
  | none => .ok g

/-- What is built is the grammar of the builder, unless something is wrong. -/
theorem build_eq (b : Builder) :
    b.build =
      match b.defect? with
      | some d => .error ⟨b.grammar.name, d⟩
      | none => .ok b.grammar := by
  simp [build, defect?]

end Builder
end Highlighter
