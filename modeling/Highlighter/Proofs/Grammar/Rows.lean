import Mathlib.Tactic.Lemma
import Highlighter.Grammar.Builder

/-!
# Rows

The row of a state is what its pairs have of their own: explicit transitions, processors and edges. A
row is set without regard to the other rows (`row_setRow_of_ne`, `setRow_comm`), and a grammar that
differs from another one in no more than a row comes from setting that row (`AgreesOff.eq_setRow`).
-/

namespace Highlighter

attribute [ext] Transitions Grammar

namespace Grammar

variable {g g' : Grammar} {s s' u : State}

/-- What the pairs of a state have of their own. -/
@[ext]
structure Row where
  explicit : Key → Option State
  pairProcessor : State → Option Processor
  edge : State → Option String

/-- The explicit transitions of a state, the processors of its pairs and its edges. -/
def row (g : Grammar) (s : State) : Row := ⟨g.transitions.explicit s, g.pairProcessor s, g.edge s⟩

/-- The grammar with another row for a state. -/
def setRow (g : Grammar) (s : State) (r : Row) : Grammar :=
  { g with
    transitions :=
      { g.transitions with
        explicit := fun u => if u = s then r.explicit else g.transitions.explicit u }
    pairProcessor := fun u => if u = s then r.pairProcessor else g.pairProcessor u
    edge := fun u => if u = s then r.edge else g.edge u }

/-- The row that was set is there. -/
@[simp] lemma row_setRow_self (r : Row) : (g.setRow s r).row s = r := by
  simp [row, setRow]

/-- The rows of other states stay. -/
lemma row_setRow_of_ne (r : Row) (hu : u ≠ s) : (g.setRow s r).row u = g.row u := by
  simp [row, setRow, hu]

/-- The two differ in no more than the row of `s`: its explicit transitions, the processors of its
pairs and its edges. -/
structure AgreesOff (s : State) (g g' : Grammar) : Prop where
  name : g'.name = g.name
  initial : g'.initial = g.initial
  row : ∀ u, u ≠ s → g'.row u = g.row u
  wildcard : g'.transitions.wildcard = g.transitions.wildcard
  exitProcessor : g'.exitProcessor = g.exitProcessor
  defaultProcessor : g'.defaultProcessor = g.defaultProcessor
  ownClosure : g'.ownClosure = g.ownClosure
  keywords : g'.keywords = g.keywords

namespace AgreesOff

/-- Other states keep their explicit transitions. -/
lemma explicit (h : AgreesOff s g g') (hu : u ≠ s) :
    g'.transitions.explicit u = g.transitions.explicit u := congrArg Row.explicit (h.row u hu)

/-- Other states keep the processors of their pairs. -/
lemma pairProcessor (h : AgreesOff s g g') (hu : u ≠ s) : g'.pairProcessor u = g.pairProcessor u :=
  congrArg Row.pairProcessor (h.row u hu)

/-- Other states keep their edges. -/
lemma edge (h : AgreesOff s g g') (hu : u ≠ s) : g'.edge u = g.edge u :=
  congrArg Row.edge (h.row u hu)

/-- Other states keep the processors in use. -/
lemma processor (h : AgreesOff s g g') (hu : u ≠ s) : g'.processor u = g.processor u := by
  funext t
  rw [Grammar.processor, Grammar.processor, h.initial, h.pairProcessor hu, h.exitProcessor,
    h.defaultProcessor]

/-- Other states go on to the same states. -/
lemma next (h : AgreesOff s g g') (hu : u ≠ s) : g'.next u = g.next u := by
  funext c
  rw [Grammar.next, Grammar.next, Transitions.next?, Transitions.next?, Transitions.entry?,
    Transitions.entry?, h.explicit hu, h.wildcard]

/-- Every grammar agrees with itself. -/
lemma refl (s : State) (g : Grammar) : AgreesOff s g g :=
  ⟨rfl, rfl, fun _ _ => rfl, rfl, rfl, rfl, rfl, rfl⟩

/-- Changes of one row, one after the other, are a change of that row. -/
lemma trans {g'' : Grammar} (h : AgreesOff s g g') (h' : AgreesOff s g' g'') : AgreesOff s g g'' :=
  ⟨h'.name.trans h.name, h'.initial.trans h.initial, fun u hu => (h'.row u hu).trans (h.row u hu),
    h'.wildcard.trans h.wildcard, h'.exitProcessor.trans h.exitProcessor,
    h'.defaultProcessor.trans h.defaultProcessor, h'.ownClosure.trans h.ownClosure,
    h'.keywords.trans h.keywords⟩

/-- What differs in no more than a row comes from setting that row. -/
lemma eq_setRow (h : AgreesOff s g g') : g' = g.setRow s (g'.row s) := by
  have hrow : ∀ u, g'.row u = (g.setRow s (g'.row s)).row u := fun u => by
    by_cases hu : u = s
    · rw [hu, row_setRow_self]
    · rw [row_setRow_of_ne _ hu, h.row u hu]
  have hexplicit : g'.transitions.explicit = (g.setRow s (g'.row s)).transitions.explicit :=
    funext fun u => congrArg Row.explicit (hrow u)
  exact Grammar.ext h.name h.initial (Transitions.ext hexplicit h.wildcard)
    (funext fun u => congrArg Row.pairProcessor (hrow u)) h.exitProcessor h.defaultProcessor
    (funext fun u => congrArg Row.edge (hrow u)) h.ownClosure h.keywords

end AgreesOff

/-- Setting a row changes no more than that row. -/
lemma agreesOff_setRow (g : Grammar) (s : State) (r : Row) : AgreesOff s g (g.setRow s r) :=
  ⟨rfl, rfl, fun _ => row_setRow_of_ne r, rfl, rfl, rfl, rfl, rfl⟩

/-- Setting the row that is there changes nothing. -/
lemma setRow_row (g : Grammar) (s : State) : g.setRow s (g.row s) = g :=
  (AgreesOff.refl s g).eq_setRow.symm

/-- The row set last counts. -/
lemma setRow_setRow (r r' : Row) : (g.setRow s r).setRow s r' = g.setRow s r' := by
  have h := ((agreesOff_setRow g s r).trans (agreesOff_setRow _ s r')).eq_setRow
  rwa [row_setRow_self] at h

/-- Rows of two states are set in either order. -/
lemma setRow_comm (h : s ≠ s') (r r' : Row) :
    (g.setRow s r).setRow s' r' = (g.setRow s' r').setRow s r := by
  have hagrees : AgreesOff s (g.setRow s' r') ((g.setRow s r).setRow s' r') := by
    refine ⟨rfl, rfl, fun u hu => ?_, rfl, rfl, rfl, rfl, rfl⟩
    by_cases hu' : u = s'
    · rw [hu', row_setRow_self, row_setRow_self]
    · rw [row_setRow_of_ne _ hu', row_setRow_of_ne _ hu', row_setRow_of_ne _ hu]
  have hcomm := hagrees.eq_setRow
  rwa [row_setRow_of_ne _ h, row_setRow_self] at hcomm

/-! ### Calls that set something in a row -/

/-- A transition changes no more than the row of its source. -/
lemma agreesOff_setKeys (g : Grammar) (s : State) (keys : List Key) (t : State) :
    AgreesOff s g { g with transitions := g.transitions.setKeys s keys t } := by
  refine ⟨rfl, rfl, fun u hu => ?_, rfl, rfl, rfl, rfl, rfl⟩
  simp [row, Transitions.setKeys, hu]

/-- The processor of a pair changes no more than the row of its source. -/
lemma agreesOff_pairProcessor (g : Grammar) (s t : State) (p : Processor) :
    AgreesOff s g (g.apply (.pairProcessor s t p)) := by
  refine ⟨rfl, rfl, fun u hu => ?_, rfl, rfl, rfl, rfl, rfl⟩
  simp [row, apply, hu]

/-- An edge changes no more than the row of its source. -/
lemma agreesOff_edge (g : Grammar) (s t : State) (markup : String) :
    AgreesOff s g (g.apply (.edge s t markup)) := by
  refine ⟨rfl, rfl, fun u hu => ?_, rfl, rfl, rfl, rfl, rfl⟩
  simp [row, apply, hu]

end Grammar
end Highlighter
