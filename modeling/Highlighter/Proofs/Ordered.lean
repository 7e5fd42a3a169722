import Mathlib.Data.List.Nodup
import Mathlib.Data.List.Sort

/-!
# Lists in order

A list that has everything with a property once (`Enumerates`), and one that has it in the order of its
places (`Ordered`). No two members have the same place, so that sorting leaves nothing open
(`Ordered.mergeSort_eq`).
-/

namespace Highlighter

/-- The list has everything with the property, once each. -/
structure Enumerates {α : Type} (P : α → Prop) (l : List α) : Prop where
  nodup : l.Nodup
  mem_iff : ∀ a, a ∈ l ↔ P a

/-- The order does not matter. -/
lemma Enumerates.reverse {α : Type} {P : α → Prop} {l : List α} (h : Enumerates P l) :
    Enumerates P l.reverse :=
  ⟨List.nodup_reverse.mpr h.nodup, fun a => List.mem_reverse.trans (h.mem_iff a)⟩

section Sorting

variable {α ι : Type} [LinearOrder ι] {P : α → Prop} {l sorted : List α} {place : α → ι}

/-- Everything with the property stands in the list, in the order of its places. -/
structure Ordered (place : α → ι) (P : α → Prop) (l : List α) : Prop where
  pairwise : l.Pairwise (place · < place ·)
  mem_iff : ∀ a, a ∈ l ↔ P a

/-- A list in order has nothing twice. -/
lemma Ordered.enumerates (h : Ordered place P l) : Enumerates P l :=
  ⟨h.pairwise.imp fun hlt heq => absurd (congrArg place heq) hlt.ne, h.mem_iff⟩

/-- A place has one thing only. -/
lemma Ordered.eq_of_place (h : Ordered place P l) {a b : α} (ha : a ∈ l) (hb : b ∈ l)
    (hplace : place a = place b) : a = b := by
  have hdistinct : (l.map place).Nodup := List.pairwise_map.mpr (h.pairwise.imp ne_of_lt)
  exact List.inj_on_of_nodup_map hdistinct ha hb hplace

/-- No two members have the same place, so sorting them by their places leaves nothing open. -/
lemma Ordered.mergeSort_eq (h : Ordered place P sorted) (hl : Enumerates P l) :
    l.mergeSort (fun a b => place a ≤ place b) = sorted := by
  have hperm : (l.mergeSort fun a b => place a ≤ place b).Perm sorted := by
    refine (List.mergeSort_perm l _).trans ?_
    rw [List.perm_ext_iff_of_nodup hl.nodup h.enumerates.nodup]
    exact fun a => (hl.mem_iff a).trans (h.mem_iff a).symm
  have hsorted : (l.mergeSort fun a b => place a ≤ place b).Pairwise (place · ≤ place ·) := by
    have hpairwise := @List.pairwise_mergeSort α (fun a b => decide (place a ≤ place b))
      (fun a b c hab hbc => by
        rw [decide_eq_true_eq] at *
        exact hab.trans hbc)
      (fun a b => by simpa using le_total (place a) (place b)) l
    simpa only [decide_eq_true_eq] using hpairwise
  refine List.Perm.eq_of_pairwise ?_ hsorted (h.pairwise.imp le_of_lt) hperm
  intro a b ha hb hab hba
  exact h.eq_of_place (hperm.mem_iff.mp ha) hb (le_antisymm hab hba)

end Sorting

end Highlighter
