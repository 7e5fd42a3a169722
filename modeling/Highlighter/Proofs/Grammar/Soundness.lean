import Highlighter.Grammar.Builder
import Highlighter.Proofs.Grammar.Ledger

/-!
# Sound grammars

Whatever is closed under transitions holds of all states within reach (`mem_reachableFrom`). States
that have a wildcard are closed under the transitions of a grammar that keeps a ledger, and none of
these drops a segment, so that nothing is wrong with such a grammar (`Kept.defect?_eq_none`).
-/

namespace Highlighter

namespace Transitions

variable {t : Transitions} {s u : State}

/-- The targets of a state are those of its entries and of its wildcard. -/
lemma mem_targets :
    u ∈ t.targets s ↔ (∃ k, t.explicit s k = some u) ∨ t.wildcard s = some u := by
  simp [targets]

/-- Spreading adds nothing but targets of what was found before. -/
lemma mem_spread {P : State → Prop} (hclosed : ∀ s, P s → ∀ u ∈ t.targets s, P u) {rounds : Nat}
    {frontier seen : List State} (hfrontier : ∀ s ∈ frontier, P s) (hseen : ∀ s ∈ seen, P s) :
    ∀ s ∈ t.spread rounds frontier seen, P s := by
  induction rounds generalizing frontier seen with
  | zero => exact hseen
  | succ rounds ih =>
    -- what is fresh is a target of the frontier
    have hfresh : ∀ u ∈ State.all.filter fun u =>
        (frontier.flatMap t.targets).contains u && !seen.contains u, P u := by
      intro u hu
      rw [List.mem_filter, Bool.and_eq_true, List.contains_iff_mem] at hu
      obtain ⟨s, hs, hu⟩ := List.mem_flatMap.mp hu.2.1
      exact hclosed s (hfrontier s hs) u hu
    intro s hs
    simp only [spread] at hs
    split at hs
    · exact hseen s hs
    · refine ih hfresh (fun u hu => ?_) s hs
      rcases List.mem_append.mp hu with hu | hu
      · exact hseen u hu
      · exact hfresh u hu

/-- What holds at the start and is kept by transitions holds of all states within reach. -/
lemma mem_reachableFrom {P : State → Prop} (hclosed : ∀ s, P s → ∀ u ∈ t.targets s, P u)
    (hs : P s) : ∀ u ∈ t.reachableFrom s, P u := by
  intro u hu
  rw [reachableFrom, List.mem_filter, List.contains_iff_mem] at hu
  have hstart : ∀ v ∈ [s], P v := fun v hv => List.mem_singleton.mp hv ▸ hs
  exact mem_spread hclosed hstart hstart u hu.2

end Transitions

namespace Ledger.Kept

variable {l : Ledger} {g : Grammar} {s t : State}

/-- In a grammar that keeps the ledger, every target of a state is passed to by the rules. -/
lemma passes_targets (h : l.Kept g) (hs : (g.transitions.wildcard s).isSome)
    (ht : t ∈ g.transitions.targets s) : ∃ trigger, l.passes g s t trigger := by
  rcases Transitions.mem_targets.mp ht with ⟨k, hk⟩ | ht
  · exact ⟨_, h.explicit s hs k t hk⟩
  · exact ⟨_, h.wildcard s t ht⟩

/-- In a grammar that keeps the ledger, every reachable state has a wildcard. -/
lemma isSome_of_mem_reachable (h : l.Kept g) :
    ∀ s ∈ g.reachable, (g.transitions.wildcard s).isSome := by
  refine Transitions.mem_reachableFrom (fun s hs t ht => ?_) h.initial
  obtain ⟨trigger, hpass⟩ := h.passes_targets hs ht
  rw [passes, Bool.and_eq_true] at hpass
  exact hpass.1

/-- In a grammar that keeps the ledger, no state is left by discarding. -/
lemma leavesByDiscard_eq_false (h : l.Kept g) (hs : (g.transitions.wildcard s).isSome) :
    g.leavesByDiscard s = false := by
  rw [Grammar.leavesByDiscard, List.any_eq_false]
  intro t ht hdiscard
  rw [Bool.and_eq_true, bne_iff_ne, beq_iff_eq] at hdiscard
  obtain ⟨hne, hdiscard⟩ := hdiscard
  obtain ⟨trigger, hpass⟩ := h.passes_targets hs ht
  rw [passes, if_neg hne, hdiscard] at hpass
  simp [settles] at hpass

/-- Nothing is wrong with a grammar that keeps a ledger. -/
theorem defect?_eq_none (h : l.Kept g) : g.defect? = none := by
  rw [Grammar.defect?, List.findSome?_eq_none_iff]
  intro s hs
  have hwild := h.isSome_of_mem_reachable s hs
  rw [Grammar.defectAt?, if_neg (Option.isSome_iff_ne_none.mp hwild),
    h.leavesByDiscard_eq_false hwild, Bool.and_false]
  rfl

end Ledger.Kept

/-- The grammar that changes nothing has no defect. -/
lemma Grammar.defect?_passthrough : passthrough.defect? = none := by decide +kernel

namespace Builder

/-- The wide keys of calls come behind those that were there. -/
lemma wideKeys_run (b : Builder) (calls : List Call) :
    (b.run calls).wideKeys = b.wideKeys ++ calls.flatMap Call.wideKeys := by
  induction calls generalizing b with
  | nil => simp [run]
  | cons c calls ih =>
    rw [run, List.foldl_cons, ← run, ih, apply_eq, List.flatMap_cons, List.append_assoc]

/-- Building hands the tables out as they are, and only if nothing is wrong with them. -/
lemma build_eq_ok_iff {b : Builder} {g : Grammar} :
    b.build = .ok g ↔ b.wideKeys = [] ∧ g.defect? = none ∧ b.grammar = g := by
  rw [build_eq, defect?, Option.orElse_eq_orElse, Option.orElse_eq_or]
  constructor
  · intro h
    cases hdefect : b.wideKeys.head?.or b.grammar.defect? with
    | some d =>
      rw [hdefect] at h
      cases h
    | none =>
      rw [hdefect] at h
      obtain rfl := Except.ok.inj h
      obtain ⟨hkeys, hsound⟩ := Option.or_eq_none_iff.mp hdefect
      exact ⟨List.head?_eq_none_iff.mp hkeys, hsound, rfl⟩
  · rintro ⟨hkeys, hsound, rfl⟩
    rw [hkeys, hsound]
    rfl

/-- A builder without wide keys and defects builds its tables. -/
lemma build_eq_ok {b : Builder} (hkeys : b.wideKeys = []) (hdefect : b.grammar.defect? = none) :
    b.build = .ok b.grammar :=
  build_eq_ok_iff.mpr ⟨hkeys, hdefect, rfl⟩

/-- What is built are the tables of the builder, and they have no defect. -/
lemma eq_of_build {b : Builder} {g : Grammar} (h : b.build = .ok g) :
    b.grammar = g ∧ g.defect? = none := by
  obtain ⟨-, hsound, hgrammar⟩ := build_eq_ok_iff.mp h
  exact ⟨hgrammar, hsound⟩

end Builder
end Highlighter
