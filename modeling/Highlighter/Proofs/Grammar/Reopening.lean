import Highlighter.Language.Construct
import Highlighter.Proofs.Grammar.Rows

/-!
# Reopening

What a lookahead state gains when it reopens what the initial state opens. Only its row changes, the
tables of what leaves it (`reopenAfter_eq`). The keys can be taken one after the other, each in the
light of what the ones before it have set (`foldl_reopenKey`): what is set for one key neither stands
in the way of another key nor clears the way for it (`reopened?_reopenOn_of_not_mem`). So a second
call finds nothing to do, and calls for two states do not see each other. Main statement:
`Builder.reopenAfter_laws`.
-/

namespace Highlighter

namespace Grammar

variable {g g' : Grammar} {s s' t u : State} {held held' : String} {k : Key} {keys more : List Key}

/-! ### What is reopened -/

/-- The key opens a construct from the initial state, `s` has no entry for it, and the construct is `s`
itself or does not clash with what `s` has. -/
lemma reopened?_eq_some :
    g.reopened? s held k = some t ↔
      g.transitions.explicit g.initial k = some t ∧ t ≠ g.initial ∧
        g.transitions.explicit s k = none ∧ g.processor g.initial t = .trimTrigger ∧
        (t ≠ s → g.reopenClashes s held t = false) := by
  unfold reopened?
  cases hentry : g.transitions.explicit g.initial k with
  | none => simp
  | some target =>
    dsimp only
    split
    -- the key leads to no construct, or through another processor, or `s` has an entry for it
    · rename_i hleft
      refine ⟨nofun, fun ⟨htarget, hinitial, hnone, hprocessor, _⟩ => ?_⟩
      obtain rfl := Option.some.inj htarget
      rw [hnone] at hleft
      exact absurd hleft (by simp [hinitial, hprocessor])
    · rename_i hleft
      rw [not_or, not_or, Option.not_isSome_iff_eq_none, Classical.not_not] at hleft
      obtain ⟨hinitial, hnone, hprocessor⟩ := hleft
      split
      -- a key that leads to `s` itself loops, whatever its pair has
      · rename_i hs
        subst hs
        refine ⟨fun h => ?_, fun h => h.1⟩
        obtain rfl := Option.some.inj h
        exact ⟨rfl, hinitial, hnone, hprocessor, fun h => absurd rfl h⟩
      · rename_i hs
        cases hclash : g.reopenClashes s held target with
        | true =>
          refine ⟨nofun, fun ⟨htarget, _, _, _, h⟩ => ?_⟩
          obtain rfl := Option.some.inj htarget
          rw [h hs] at hclash
          cases hclash
        | false =>
          refine ⟨fun h => ?_, fun h => h.1⟩
          obtain rfl := Option.some.inj h
          exact ⟨rfl, hinitial, hnone, hprocessor, fun _ => hclash⟩

/-- The initial state hides nothing from itself. -/
lemma ne_initial_of_reopened? (h : g.reopened? s held k = some t) : s ≠ g.initial := by
  rintro rfl
  obtain ⟨hentry, -, hnone, -⟩ := reopened?_eq_some.mp h
  rw [hnone] at hentry
  cases hentry

/-- The initial state reopens nothing. -/
lemma reopened?_initial (hs : s = g.initial) : g.reopened? s held k = none :=
  Option.eq_none_iff_forall_ne_some.mpr fun _ h => ne_initial_of_reopened? h hs

/-- Tables that agree on what is looked at reopen the same. -/
lemma reopened?_congr (hinitial : g'.initial = g.initial)
    (hrow : g'.transitions.explicit g.initial = g.transitions.explicit g.initial)
    (hprocessor : g'.processor g.initial = g.processor g.initial)
    (hentry : g'.transitions.explicit s k = g.transitions.explicit s k)
    (hclash : ∀ t, g'.reopenClashes s held t = g.reopenClashes s held t) :
    g'.reopened? s held k = g.reopened? s held k := by
  refine Option.ext fun t => ?_
  rw [reopened?_eq_some, reopened?_eq_some, hinitial, hrow, hprocessor, hentry, hclash t]

/-- What another state reopens does not hang on the row of `s`, if `s` is not the initial state. -/
lemma AgreesOff.reopened? (h : AgreesOff s g g') (hs : s ≠ g.initial) (hu : u ≠ s) :
    g'.reopened? u held k = g.reopened? u held k := by
  refine reopened?_congr h.initial (h.explicit hs.symm) (h.processor hs.symm)
    (by rw [h.explicit hu]) fun t => ?_
  rw [reopenClashes, reopenClashes, h.pairProcessor hu, h.edge hu, h.initial, h.edge hs.symm]

/-- A pair clashes neither if it has nothing nor if it has just what reopening would set. -/
lemma reopenClashes_eq_false :
    g.reopenClashes s held t = false ↔
      (∀ p ∈ g.pairProcessor s t, p = .putbackTrim held) ∧
        ∀ markup ∈ g.edge s t, some markup = g.edge g.initial t := by
  simp [reopenClashes, Option.any_eq_false]

/-! ### Some of the keys -/

/-- The constructs other than `s` itself that are reopened on some of the keys. -/
def opened (g : Grammar) (s : State) (held : String) (keys : List Key) : List State :=
  (keys.filterMap (g.reopened? s held)).filter (· != s)

/-- The row of `s` when some of the keys are reopened. -/
def reopenedRow (g : Grammar) (s : State) (held : String) (keys : List Key) : Row where
  explicit k :=
    if keys.contains k then (g.transitions.explicit s k).or (g.reopened? s held k)
    else g.transitions.explicit s k
  pairProcessor t :=
    if t ∈ g.opened s held keys then some (.putbackTrim held) else g.pairProcessor s t
  edge t :=
    if t ∈ g.opened s held keys then (g.edge g.initial t).or (g.edge s t) else g.edge s t

/-- The grammar in which `s` reopens what the initial state opens on some of the keys. -/
def reopenOn (g : Grammar) (s : State) (held : String) (keys : List Key) : Grammar :=
  g.setRow s (g.reopenedRow s held keys)

/-- Reopening sets the row of the state, and nothing else. -/
lemma reopenAfter_eq : g.reopenAfter s held = g.reopenOn s held Key.all := by
  have hagrees : AgreesOff s g (g.reopenAfter s held) := by
    refine ⟨rfl, rfl, fun u hu => ?_, rfl, rfl, rfl, rfl, rfl⟩
    simp [row, reopenAfter, hu]
  have hrow : (g.reopenAfter s held).row s = g.reopenedRow s held Key.all := by
    simp [row, reopenAfter, reopenedRow, opened]
  rw [hagrees.eq_setRow, hrow, reopenOn]

/-- A construct is reopened when one of the keys reopens it. -/
lemma mem_opened :
    t ∈ g.opened s held keys ↔ t ≠ s ∧ ∃ k ∈ keys, g.reopened? s held k = some t := by
  rw [opened, List.mem_filter, List.mem_filterMap, bne_iff_ne, and_comm]

/-- What is reopened did not clash. -/
lemma reopenClashes_of_mem_opened (h : t ∈ g.opened s held keys) :
    g.reopenClashes s held t = false := by
  obtain ⟨hs, k, -, hk⟩ := mem_opened.mp h
  obtain ⟨-, -, -, -, hclash⟩ := reopened?_eq_some.mp hk
  exact hclash hs

/-- A key that is reopened fills in a missing transition. -/
lemma explicit_reopenOn_of_mem (hk : k ∈ keys) :
    (g.reopenOn s held keys).transitions.explicit s k =
      (g.transitions.explicit s k).or (g.reopened? s held k) :=
  (congrFun (congrArg Row.explicit (row_setRow_self _)) k).trans
    (if_pos (List.contains_iff_mem.mpr hk))

/-- Other keys keep their transitions. -/
lemma explicit_reopenOn_of_not_mem (hk : k ∉ keys) :
    (g.reopenOn s held keys).transitions.explicit s k = g.transitions.explicit s k :=
  (congrFun (congrArg Row.explicit (row_setRow_self _)) k).trans
    (if_neg fun h => hk (List.contains_iff_mem.mp h))

/-- The pairs with reopened constructs put back what is held. -/
lemma pairProcessor_reopenOn :
    (g.reopenOn s held keys).pairProcessor s t =
      if t ∈ g.opened s held keys then some (.putbackTrim held) else g.pairProcessor s t :=
  congrFun (congrArg Row.pairProcessor (row_setRow_self _)) t

/-- The pairs with reopened constructs have the edges of the initial state, where it has any. -/
lemma edge_reopenOn :
    (g.reopenOn s held keys).edge s t =
      if t ∈ g.opened s held keys then (g.edge g.initial t).or (g.edge s t) else g.edge s t :=
  congrFun (congrArg Row.edge (row_setRow_self _)) t

/-- Reopening changes no more than the row of its state. -/
lemma agreesOff_reopenOn : AgreesOff s g (g.reopenOn s held keys) := agreesOff_setRow g s _

/-- Whether a construct clashes does not change. -/
lemma reopenClashes_reopenOn (hs : s ≠ g.initial) :
    (g.reopenOn s held keys).reopenClashes s held t = g.reopenClashes s held t := by
  by_cases ht : t ∈ g.opened s held keys
  · have hclash := reopenClashes_of_mem_opened ht
    rw [hclash]
    rw [reopenClashes_eq_false] at hclash ⊢
    rw [pairProcessor_reopenOn, edge_reopenOn, agreesOff_reopenOn.initial,
      agreesOff_reopenOn.edge hs.symm, if_pos ht, if_pos ht]
    refine ⟨fun p hp => (Option.some.inj hp).symm, fun markup hmarkup => ?_⟩
    cases hedge : g.edge g.initial t with
    | some markup' =>
      rw [hedge] at hmarkup
      exact hmarkup.symm
    | none =>
      rw [hedge] at hmarkup
      exact (hclash.2 markup hmarkup).trans hedge
  · rw [reopenClashes, reopenClashes, pairProcessor_reopenOn, edge_reopenOn,
      agreesOff_reopenOn.initial, agreesOff_reopenOn.edge hs.symm, if_neg ht, if_neg ht]

/-- A key that was taken is done with. -/
lemma reopened?_reopenOn_of_mem (hk : k ∈ keys) :
    (g.reopenOn s held keys).reopened? s held k = none := by
  have hagrees : AgreesOff s g (g.reopenOn s held keys) := agreesOff_reopenOn
  by_cases hs : s = g.initial
  · exact reopened?_initial (hs.trans hagrees.initial.symm)
  refine Option.eq_none_iff_forall_ne_some.mpr fun t h => ?_
  rw [reopened?_eq_some, hagrees.initial, hagrees.explicit (Ne.symm hs),
    hagrees.processor (Ne.symm hs), explicit_reopenOn_of_mem hk, Option.or_eq_none_iff,
    reopenClashes_reopenOn hs] at h
  obtain ⟨hentry, hinitial, ⟨hnone, hk⟩, hprocessor, ht⟩ := h
  rw [reopened?_eq_some.mpr ⟨hentry, hinitial, hnone, hprocessor, ht⟩] at hk
  cases hk

/-- A key that was not taken is as before. -/
lemma reopened?_reopenOn_of_not_mem (hk : k ∉ keys) :
    (g.reopenOn s held keys).reopened? s held k = g.reopened? s held k := by
  have hagrees : AgreesOff s g (g.reopenOn s held keys) := agreesOff_reopenOn
  by_cases hs : s = g.initial
  · rw [reopened?_initial hs, reopened?_initial (hs.trans hagrees.initial.symm)]
  · exact reopened?_congr hagrees.initial (hagrees.explicit (Ne.symm hs))
      (hagrees.processor (Ne.symm hs)) (explicit_reopenOn_of_not_mem hk)
      fun t => reopenClashes_reopenOn hs

/-! ### One key after the other -/

/-- Later keys open the constructs that earlier ones have not opened. -/
lemma mem_opened_append :
    t ∈ g.opened s held (keys ++ more) ↔
      t ∈ g.opened s held keys ∨ t ∈ (g.reopenOn s held keys).opened s held more := by
  rw [mem_opened, mem_opened, mem_opened, ← and_or_left]
  refine and_congr_right fun _ => ⟨?_, ?_⟩
  · rintro ⟨k, hk, ht⟩
    by_cases hkeys : k ∈ keys
    · exact .inl ⟨k, hkeys, ht⟩
    · refine .inr ⟨k, (List.mem_append.mp hk).resolve_left hkeys, ?_⟩
      rw [reopened?_reopenOn_of_not_mem hkeys, ht]
  · rintro (⟨k, hk, ht⟩ | ⟨k, hk, ht⟩)
    · exact ⟨k, List.mem_append_left _ hk, ht⟩
    · by_cases hkeys : k ∈ keys
      · rw [reopened?_reopenOn_of_mem hkeys] at ht
        cases ht
      · rw [reopened?_reopenOn_of_not_mem hkeys] at ht
        exact ⟨k, List.mem_append_right _ hk, ht⟩

/-- What the initial state writes in front of a reopened construct stays. -/
lemma edge_initial_of_mem_opened (h : t ∈ (g.reopenOn s held keys).opened s held more) :
    (g.reopenOn s held keys).edge (g.reopenOn s held keys).initial t = g.edge g.initial t := by
  obtain ⟨-, k, -, hk⟩ := mem_opened.mp h
  exact congrFun (agreesOff_reopenOn.edge (ne_initial_of_reopened? hk).symm) t

/-- Keys that are taken later are taken as if they came at once. -/
lemma reopenOn_append :
    (g.reopenOn s held keys).reopenOn s held more = g.reopenOn s held (keys ++ more) := by
  have hrow : (g.reopenOn s held keys).reopenedRow s held more =
      g.reopenedRow s held (keys ++ more) := by
    refine Row.ext (funext fun k => ?_) (funext fun t => ?_) (funext fun t => ?_)
    · by_cases hk : k ∈ keys
      · simp [reopenedRow, explicit_reopenOn_of_mem hk, reopened?_reopenOn_of_mem hk, hk]
      · simp [reopenedRow, explicit_reopenOn_of_not_mem hk, reopened?_reopenOn_of_not_mem hk, hk]
    · simp only [reopenedRow, pairProcessor_reopenOn, mem_opened_append]
      by_cases ht : t ∈ g.opened s held keys <;> simp [ht]
    · simp only [reopenedRow, edge_reopenOn, mem_opened_append]
      by_cases hmore : t ∈ (g.reopenOn s held keys).opened s held more
      · rw [edge_initial_of_mem_opened hmore]
        by_cases ht : t ∈ g.opened s held keys <;> simp [ht, hmore, ← Option.or_assoc]
      · by_cases ht : t ∈ g.opened s held keys <;> simp [ht, hmore]
  rw [reopenOn, hrow, reopenOn, setRow_setRow, reopenOn]

/-- Keys on which nothing is reopened change nothing. -/
lemma reopenOn_eq_self (h : ∀ k ∈ keys, g.reopened? s held k = none) :
    g.reopenOn s held keys = g := by
  have hopened : g.opened s held keys = [] := List.eq_nil_iff_forall_not_mem.mpr fun t ht => by
    obtain ⟨-, k, hkeys, hk⟩ := mem_opened.mp ht
    rw [h k hkeys] at hk
    cases hk
  have hrow : g.reopenedRow s held keys = g.row s := by
    refine Row.ext (funext fun k => ?_) (funext fun t => ?_) (funext fun t => ?_)
    · by_cases hk : k ∈ keys
      · simp [reopenedRow, row, hk, h k hk]
      · simp [reopenedRow, row, hk]
    · simp [reopenedRow, row, hopened]
    · simp [reopenedRow, row, hopened]
  rw [reopenOn, hrow, setRow_row]

/-- On no key nothing is reopened. -/
lemma reopenOn_nil : g.reopenOn s held [] = g := reopenOn_eq_self nofun

/-- Taking one key: the tables are looked at as they are, and what the key reopens is set. -/
def reopenKey (s : State) (held : String) (g : Grammar) (k : Key) : Grammar :=
  match g.reopened? s held k with
  | none => g
  | some t =>
    let routed := { g with transitions := g.transitions.setKeys s [k] t }
    if t = s then routed
    else
      let processed := routed.apply (.pairProcessor s t (.putbackTrim held))
      match g.edge g.initial t with
      | none => processed
      | some markup => processed.apply (.edge s t markup)

/-- The row when a single key is reopened. -/
lemma reopenedRow_singleton (hk : g.reopened? s held k = some t) :
    g.reopenedRow s held [k] =
      { explicit := fun k' => if k' = k then some t else g.transitions.explicit s k'
        pairProcessor := fun u =>
          if u = t ∧ t ≠ s then some (.putbackTrim held) else g.pairProcessor s u
        edge := fun u =>
          if u = t ∧ t ≠ s then (g.edge g.initial t).or (g.edge s t) else g.edge s u } := by
  have hnone : g.transitions.explicit s k = none := (reopened?_eq_some.mp hk).2.2.1
  have hopened : ∀ u, u ∈ g.opened s held [k] ↔ u = t ∧ t ≠ s := by
    intro u
    rw [mem_opened]
    constructor
    · rintro ⟨hu, k', hk', h⟩
      rw [List.mem_singleton.mp hk', hk] at h
      obtain rfl := Option.some.inj h
      exact ⟨rfl, hu⟩
    · rintro ⟨rfl, hu⟩
      exact ⟨hu, k, List.mem_singleton_self k, hk⟩
  -- the two rows are compared field by field
  refine Row.ext (funext fun k' => ?_) (funext fun u => ?_) (funext fun u => ?_)
  · by_cases hk' : k' = k
    · simp [reopenedRow, hk', hnone, hk]
    · simp [reopenedRow, hk']
  · simp only [reopenedRow, hopened]
  · simp only [reopenedRow, hopened]
    split
    · rename_i hu
      rw [hu.1]
    · rfl

/-- Taking one key sets the row of the state. -/
lemma reopenKey_eq : reopenKey s held g k = g.reopenOn s held [k] := by
  cases hk : g.reopened? s held k with
  | none =>
    rw [reopenKey, hk, reopenOn_eq_self fun k' hk' => List.mem_singleton.mp hk' ▸ hk]
  | some t =>
    have hrouted := agreesOff_setKeys g s [k] t
    rw [reopenKey, hk, reopenOn, reopenedRow_singleton hk]
    dsimp only
    split
    · rename_i hs
      refine hrouted.eq_setRow.trans (congrArg (g.setRow s) ?_)
      simp [row, Transitions.setKeys, hs]
    · rename_i hs
      have hprocessed := hrouted.trans (agreesOff_pairProcessor _ s t (.putbackTrim held))
      split
      · rename_i hedge
        -- without markup to copy, the edge of the pair stays what it was
        have hsame : g.edge s = fun u => if u = t then g.edge s t else g.edge s u := by
          funext u
          split
          · rename_i hu
            rw [hu]
          · rfl
        refine hprocessed.eq_setRow.trans (congrArg (g.setRow s) ?_)
        simpa [row, Transitions.setKeys, apply, hs, hedge] using hsame
      · rename_i markup hedge
        refine (hprocessed.trans (agreesOff_edge _ s t markup)).eq_setRow.trans
          (congrArg (g.setRow s) ?_)
        simp [row, Transitions.setKeys, apply, hs, hedge]

/-- Taking all keys in order, each in the light of what the ones before it have set, comes to taking
them all at once. -/
theorem foldl_reopenKey (g : Grammar) (s : State) (held : String) :
    Key.all.foldl (reopenKey s held) g = g.reopenAfter s held := by
  have hfold : ∀ keys more, more.foldl (reopenKey s held) (g.reopenOn s held keys) =
      g.reopenOn s held (keys ++ more) := by
    intro keys more
    induction more generalizing keys with
    | nil => rw [List.append_nil, List.foldl_nil]
    | cons k more ih => rw [List.foldl_cons, reopenKey_eq, reopenOn_append, ih, ← List.append_cons]
  have hall := hfold [] Key.all
  rwa [reopenOn_nil, List.nil_append, ← reopenAfter_eq] at hall

/-! ### Repeated calls -/

/-- Reopening on all keys changes no more than the row of its state. -/
lemma agreesOff_reopenAfter (g : Grammar) (s : State) (held : String) :
    AgreesOff s g (g.reopenAfter s held) :=
  reopenAfter_eq (g := g) ▸ agreesOff_reopenOn

/-- The initial state has nothing to reopen. -/
lemma reopenAfter_initial : g.reopenAfter g.initial held = g := by
  rw [reopenAfter_eq]
  exact reopenOn_eq_self fun k _ => reopened?_initial rfl

/-- A second call finds nothing to do. -/
lemma reopenAfter_idem : (g.reopenAfter s held).reopenAfter s held = g.reopenAfter s held := by
  rw [reopenAfter_eq, reopenAfter_eq (g := g)]
  exact reopenOn_eq_self fun k hk => reopened?_reopenOn_of_mem hk

/-- What is reopened in one row does not hang on another one, unless it is that of the initial
state. -/
lemma AgreesOff.reopenedRow (h : AgreesOff s g g') (hs : s ≠ g.initial) (hu : u ≠ s) :
    g'.reopenedRow u held keys = g.reopenedRow u held keys := by
  have hreopened : g'.reopened? u held = g.reopened? u held := funext fun _ => h.reopened? hs hu
  have hopened : g'.opened u held keys = g.opened u held keys := by
    rw [opened, opened, hreopened]
  rw [Grammar.reopenedRow, Grammar.reopenedRow, hopened, hreopened, h.explicit hu,
    h.pairProcessor hu, h.edge hu, h.initial, h.edge hs.symm]

/-- What a state reopens does not hang on what another state has reopened. -/
lemma reopenedRow_reopenAfter (h : s' ≠ s) :
    (g.reopenAfter s held).reopenedRow s' held' keys = g.reopenedRow s' held' keys := by
  by_cases hs : s = g.initial
  · rw [hs, reopenAfter_initial]
  · exact (agreesOff_reopenAfter g s held).reopenedRow hs h

/-- Two states reopen without regard to each other. -/
lemma reopenAfter_comm (h : s ≠ s') :
    (g.reopenAfter s held).reopenAfter s' held' = (g.reopenAfter s' held').reopenAfter s held := by
  have hswap : ∀ {s s' : State} {held held' : String}, s ≠ s' →
      (g.reopenAfter s held).reopenAfter s' held' =
        (g.setRow s (g.reopenedRow s held Key.all)).setRow s' (g.reopenedRow s' held' Key.all) := by
    intro s s' held held' h
    rw [reopenAfter_eq, reopenOn, reopenedRow_reopenAfter h.symm, reopenAfter_eq, reopenOn]
  rw [hswap h, hswap h.symm, setRow_comm h]

end Grammar

namespace Builder

/-- As a call on a builder, reopening changes the grammar and counts no wide key. -/
lemma apply_reopenAfter (b : Builder) (s : State) (held : String) :
    b.apply (.reopenAfter s held) = ⟨b.grammar.reopenAfter s held, b.wideKeys⟩ := by
  rw [apply_eq]
  exact congrArg (Builder.mk _) (List.append_nil _)

/-- A call that reopens changes no more than the row of its state; a second call changes nothing, no
call changes anything for the initial state, and calls for two states can change places. -/
theorem reopenAfter_laws (b : Builder) :
    (∀ s held, let b' := b.apply (.reopenAfter s held)
      b'.apply (.reopenAfter s held) = b' ∧ (s = b.grammar.initial → b' = b) ∧
        b.grammar.AgreesOff s b'.grammar ∧ b'.wideKeys = b.wideKeys) ∧
    ∀ s s' held held', s ≠ s' →
      (b.apply (.reopenAfter s held)).apply (.reopenAfter s' held') =
        (b.apply (.reopenAfter s' held')).apply (.reopenAfter s held) := by
  refine ⟨fun s held => ?_, fun s s' held held' h => ?_⟩
  · rw [apply_reopenAfter]
    refine ⟨?_, ?_, b.grammar.agreesOff_reopenAfter s held, rfl⟩
    · rw [apply_reopenAfter, Grammar.reopenAfter_idem]
    · rintro rfl
      rw [Grammar.reopenAfter_initial]
  · simp only [apply_reopenAfter]
    rw [Grammar.reopenAfter_comm h]

/-- A parenthesis and a slash are held, and each of the two states reopens a brace and the other
one. -/
theorem reopenAfter_laws_lookaheads :
    let b := (empty "").run (Construct.lookahead "(" .parenSeen ++
      Construct.lookahead "/" .slashSeen ++ Construct.openedBy "\x7b" .braceComment "comment")
    let b' := (b.apply (.reopenAfter .parenSeen "(")).apply (.reopenAfter .slashSeen "/")
    State.normal = b.grammar.initial ∧ b.apply (.reopenAfter .normal "/") = b ∧
      State.parenSeen ≠ .slashSeen ∧
      b' = (b.apply (.reopenAfter .slashSeen "/")).apply (.reopenAfter .parenSeen "(") ∧
      b'.grammar.next .parenSeen '/' = .slashSeen ∧ b'.grammar.next .slashSeen '(' = .parenSeen := by
  intro b b'
  have hinitial : State.normal = b.grammar.initial := by decide +kernel
  obtain ⟨hrow, hcomm⟩ := reopenAfter_laws b
  exact ⟨hinitial, (hrow .normal "/").2.1 hinitial, nofun, hcomm _ _ _ _ nofun, by decide +kernel,
    by decide +kernel⟩

end Builder
end Highlighter
