import Mathlib.Tactic.Lemma
import Highlighter.Random.Source

/-!
# What draws always give

`Draw.Always` says of a draw that its outcome has a property, whatever words the stream has. There is
one rule for each way to put draws together. Main statement: `always_many`, texts that are joined from
draws have every property that the draws have and that joining keeps.
-/

namespace Highlighter.Draw

variable {σ α β : Type} {P : α → Prop} {Q : β → Prop}

/-- Whatever the stream, the outcome has the property. -/
def Always (d : Draw σ α) (P : α → Prop) : Prop := ∀ s, P (d s).1

/-- A value that is there has its properties. -/
lemma always_pure {a : α} (h : P a) : Always (pure a : Draw σ α) P := fun _ => h

/-- What holds of each outcome of the first draw can be used for the second one. -/
lemma Always.bind {d : Draw σ α} {f : α → Draw σ β} (hd : Always d P)
    (hf : ∀ a, P a → Always (f a) Q) : Always (d >>= f) Q :=
  fun s => hf _ (hd s) _

/-- Nothing needs to be known about what is drawn first. -/
lemma always_bind {d : Draw σ α} {f : α → Draw σ β} (hf : ∀ a, Always (f a) Q) :
    Always (d >>= f) Q :=
  fun _ => hf _ _

/-- When both draws have the property, so has either one of them. -/
lemma always_ite {c : Prop} [Decidable c] {d e : Draw σ α} (hd : Always d P) (he : Always e P) :
    Always (if c then d else e) P := by
  split
  · exact hd
  · exact he

/-- Many texts in a row have a property that texts in a row keep. -/
lemma always_many {R : List Char → Prop} (hnil : R []) (happend : ∀ {a b}, R a → R b → R (a ++ b))
    {draw : Draw σ (List Char)} (hdraw : Always draw R) (n : Nat) : Always (many n draw) R := by
  induction n with
  | zero => exact always_pure hnil
  | succ n ih => exact hdraw.bind fun a ha => ih.bind fun b hb => always_pure (happend ha hb)

variable [RandomSource σ]

/-- An item that is picked is one of the items. -/
lemma always_pick? (items : Array α) :
    Always (pick? items : Draw σ (Option α)) fun item => ∀ a ∈ item, a ∈ items := by
  rw [pick?]
  split
  · exact always_pure nofun
  · exact always_bind fun i => always_pure fun a ha => Array.mem_of_getElem? ha

/-- What goes on with one of some items goes on with a member of them, or with none. -/
lemma always_pick?_bind {items : Array α} {f : Option α → Draw σ β} (hnone : Always (f none) Q)
    (hsome : ∀ a ∈ items, Always (f (some a)) Q) : Always (pick? items >>= f) Q := by
  refine (always_pick? items).bind fun item hitem => ?_
  cases item with
  | none => exact hnone
  | some a => exact hsome a (hitem a rfl)

end Highlighter.Draw
