import Highlighter.Grammar.Basic

/-!
# Tables in memory

The tables of a grammar are functions, and each call that makes the grammar wraps another function
around them. `Grammar.laidOut` computes every value once and looks the values up from then on. Main
statement: a grammar that is laid out is the same grammar.
-/

namespace Highlighter

/-- A type whose members stand in a list, each at a place of its own. -/
class Listed (ι : Type) where
  all : List ι
  place : ι → Nat
  getElem?_place : ∀ i, all[place i]? = some i

instance : Listed State := ⟨State.all, State.index, State.getElem?_all_index⟩

instance : Listed Key := ⟨Key.all, Fin.val, fun k => by simp [Key.all]⟩

namespace Listed

variable {ι κ α : Type} [Listed ι] [Listed κ]

/-- The values of a function, in the order of the list. -/
def values (f : ι → α) : Array α := (Listed.all.map f).toArray

/-- Looks a value up. -/
def look (cells : Array α) (f : ι → α) (i : ι) : α :=
  match cells[Listed.place i]? with
  | some a => a
  | none => f i

/-- Looking up is calling the function. -/
@[simp] theorem look_values (f : ι → α) : look (values f) f = f := by
  funext i
  simp [look, values, Listed.getElem?_place]

/-- The values of a function of two arguments, a row for each first one. -/
def rows (f : ι → κ → α) : Array (Array α) := values fun i => values (f i)

/-- Looks a value up in its row. -/
def lookInRow (cells : Array (Array α)) (f : ι → κ → α) (i : ι) (j : κ) : α :=
  match cells[Listed.place i]? with
  | some row => look row (f i) j
  | none => f i j

/-- Looking up in a row is calling the function. -/
@[simp] theorem lookInRow_rows (f : ι → κ → α) : lookInRow (rows f) f = f := by
  funext i j
  simp [lookInRow, rows, values, Listed.getElem?_place]
  exact congrFun (look_values (f i)) j

end Listed

namespace Grammar

open Listed

/-- The grammar with every value of its tables computed. -/
def laidOut (g : Grammar) : Grammar :=
  let explicit := rows g.transitions.explicit
  let wildcard := values g.transitions.wildcard
  let pairProcessor := rows g.pairProcessor
  let exitProcessor := values g.exitProcessor
  let edge := rows g.edge
  let ownClosure := values g.ownClosure
  { g with
    transitions :=
      { explicit := lookInRow explicit g.transitions.explicit
        wildcard := look wildcard g.transitions.wildcard }
    pairProcessor := lookInRow pairProcessor g.pairProcessor
    exitProcessor := look exitProcessor g.exitProcessor
    edge := lookInRow edge g.edge
    ownClosure := look ownClosure g.ownClosure }

/-- Laying out changes nothing. -/
@[simp] theorem laidOut_eq (g : Grammar) : g.laidOut = g := by
  simp [laidOut]

end Grammar
end Highlighter
