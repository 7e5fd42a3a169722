import Mathlib.Data.List.Nodup
import Mathlib.Data.List.Perm.Subperm
import Highlighter.Proofs.Grammar.Soundness
import Highlighter.Proofs.Scan.Step

/-!
# The reach of the scanner

The search for the states within reach is complete: what it has found is closed under transitions
(`mem_reachableFrom_of_target`), since each round but the last one finds a state that was not found
before. So it finds exactly the states that some text leads to (`mem_reachableFrom_iff`). The scanner of
a grammar that was handed out never leaves the states that were checked, and the table says where it
goes on every character (`Scan.next?_ofText`).
-/

namespace Highlighter

namespace Transitions

variable {t : Transitions} {s u start : State} {c : Char} {rounds : Nat}
  {frontier seen : List State}

/-- The targets of the states that were seen were seen as well, but for those of the frontier. -/
def ClosedBut (t : Transitions) (frontier seen : List State) : Prop :=
  ∀ s ∈ seen, s ∉ frontier → t.targets s ⊆ seen

/-- What was seen stays seen. -/
lemma subset_spread : seen ⊆ t.spread rounds frontier seen := by
  induction rounds generalizing frontier seen with
  | zero => exact List.Subset.refl seen
  | succ rounds ih =>
    simp only [spread]
    split
    · exact List.Subset.refl seen
    · exact List.Subset.trans (List.subset_append_left _ _) ih

/-- A list that repeats no state is no longer than the list of all states. -/
lemma length_le_of_nodup (h : seen.Nodup) : seen.length ≤ State.all.length :=
  (List.subperm_of_subset h fun s _ => State.mem_all s).length_le

/-- With more rounds than there are states still to be found, all of them are found. -/
lemma targets_subset_spread (hfrontier : frontier ⊆ seen) (hnodup : seen.Nodup)
    (hrounds : State.all.length < rounds + seen.length) (hclosed : t.ClosedBut frontier seen) :
    ∀ s ∈ t.spread rounds frontier seen, t.targets s ⊆ t.spread rounds frontier seen := by
  induction rounds generalizing frontier seen with
  | zero =>
    have hlength := length_le_of_nodup hnodup
    omega
  | succ rounds ih =>
    simp only [spread]
    generalize hfresh : (State.all.filter fun s =>
      (frontier.flatMap t.targets).contains s && !seen.contains s) = fresh
    have hmem : ∀ u, u ∈ fresh ↔ (∃ s ∈ frontier, u ∈ t.targets s) ∧ u ∉ seen := by
      intro u
      simp [← hfresh]
    -- a target of what was seen was seen before or is found now
    have htargets : ∀ s ∈ seen, t.targets s ⊆ seen ++ fresh := by
      intro s hs u hu
      by_cases hseen : u ∈ seen
      · exact List.mem_append_left _ hseen
      by_cases hs' : s ∈ frontier
      · exact List.mem_append_right _ ((hmem u).mpr ⟨⟨s, hs', hu⟩, hseen⟩)
      · exact absurd (hclosed s hs hs' hu) hseen
    split
    · rename_i hempty
      rw [List.isEmpty_iff.mp hempty, List.append_nil] at htargets
      exact htargets
    · rename_i hsome
      have hpos : 0 < fresh.length := List.length_pos_iff.mpr fun h => hsome (h ▸ rfl)
      refine ih (List.subset_append_right _ _) ?_ ?_ ?_
      · refine hnodup.append (hfresh ▸ State.nodup_all.filter _) fun u hseen hu => ?_
        exact ((hmem u).mp hu).2 hseen
      · rw [List.length_append]
        omega
      · intro s hs hs'
        exact htargets s ((List.mem_append.mp hs).resolve_right hs')

/-- The search finds the state it starts from. -/
lemma start_mem_reachableFrom : start ∈ t.reachableFrom start := by
  rw [reachableFrom, List.mem_filter, List.contains_iff_mem]
  exact ⟨State.mem_all start, subset_spread (List.mem_singleton_self start)⟩

/-- The states within reach are listed in order. -/
lemma pairwise_reachableFrom (t : Transitions) (start : State) :
    (t.reachableFrom start).Pairwise (·.index < ·.index) := by
  have hall : State.all.Pairwise (·.index < ·.index) := by decide
  exact hall.filter _

/-- The states within reach are closed under transitions. -/
theorem mem_reachableFrom_of_target (hs : s ∈ t.reachableFrom start) (hu : u ∈ t.targets s) :
    u ∈ t.reachableFrom start := by
  rw [reachableFrom, List.mem_filter, List.contains_iff_mem] at hs ⊢
  refine ⟨State.mem_all u, targets_subset_spread (List.Subset.refl _) (List.nodup_singleton start)
    (Nat.lt_succ_self _) ?_ s hs.2 hu⟩
  exact fun s hs hs' => absurd hs hs'

/-- Where a character leads is among the targets. -/
lemma mem_targets_of_next? (h : t.next? s c = some u) : u ∈ t.targets s := by
  rw [next?, Option.orElse_eq_orElse, Option.orElse_eq_or, Option.or_eq_some_iff] at h
  obtain hentry | ⟨-, hwildcard⟩ := h
  · obtain ⟨k, -, hk⟩ := entry?_eq_some.mp hentry
    exact mem_targets.mpr (.inl ⟨k, hk⟩)
  · exact mem_targets.mpr (.inr hwildcard)

/-- With a wildcard, every character leads somewhere. -/
lemma exists_next? (h : (t.wildcard s).isSome) (c : Char) : ∃ u, t.next? s c = some u := by
  obtain ⟨w, hw⟩ := Option.isSome_iff_exists.mp h
  rw [next?, hw]
  cases t.entry? s c with
  | some u => exact ⟨u, rfl⟩
  | none => exact ⟨w, rfl⟩

/-- The targets of a state are the states that it goes to on some character: on its own for an entry,
and on any character that is no key for the wildcard. -/
lemma mem_targets_iff : u ∈ t.targets s ↔ ∃ c, t.next? s c = some u := by
  refine ⟨fun h => ?_, fun ⟨c, hc⟩ => mem_targets_of_next? hc⟩
  rcases mem_targets.mp h with ⟨k, hk⟩ | hwildcard
  · refine ⟨k.toChar, ?_⟩
    rw [next?, entry?_eq_some.mpr ⟨k, rfl, hk⟩]
    rfl
  · refine ⟨wideChar, ?_⟩
    rw [next?, hwildcard]
    rfl

/-- Where a text leads from a state, if the table says where to go on each of its characters. -/
def follow? (t : Transitions) (s : State) (text : List Char) : Option State := text.foldlM t.next? s

/-- One character more is one step more. -/
lemma follow?_concat (text : List Char) (h : t.follow? s text = some u) :
    t.follow? s (text ++ [c]) = t.next? u c := by
  rw [follow?] at h
  rw [follow?, List.foldlM_append, h]
  exact Option.bind_fun_some (t.next? u c)

/-- What a text leads to from a state within reach is within reach. -/
lemma mem_reachableFrom_of_follow? {text : List Char} (hs : s ∈ t.reachableFrom start)
    (h : t.follow? s text = some u) : u ∈ t.reachableFrom start := by
  induction text generalizing s with
  | nil => exact Option.some.inj h ▸ hs
  | cons c text ih =>
    obtain ⟨v, hv, hu⟩ := Option.bind_eq_some_iff.mp h
    exact ih (mem_reachableFrom_of_target hs (mem_targets_of_next? hv)) hu

/-- The states within reach are those that some text leads to. -/
theorem mem_reachableFrom_iff : u ∈ t.reachableFrom start ↔ ∃ text, t.follow? start text = some u := by
  constructor
  · refine mem_reachableFrom (P := fun u => ∃ text, t.follow? start text = some u) ?_ ⟨[], rfl⟩ u
    rintro s ⟨text, htext⟩ u hu
    obtain ⟨c, hc⟩ := mem_targets_iff.mp hu
    exact ⟨text ++ [c], (follow?_concat text htext).trans hc⟩
  · rintro ⟨text, htext⟩
    exact mem_reachableFrom_of_follow? start_mem_reachableFrom htext

end Transitions

namespace Grammar

variable {g : Grammar} {s t : State}

/-- A state loops when some character leads back to it. -/
lemma loops_iff : g.loops s ↔ ∃ c, g.transitions.next? s c = some s := by
  rw [loops, List.contains_iff_mem, Transitions.mem_targets_iff]

/-- A state is left by discarding when some character leads to another one with that processor. -/
lemma leavesByDiscard_iff :
    g.leavesByDiscard s ↔
      ∃ c t, g.transitions.next? s c = some t ∧ t ≠ s ∧ g.processor s t = .discard := by
  simp only [leavesByDiscard, List.any_eq_true, Bool.and_eq_true, bne_iff_ne, beq_iff_eq,
    Transitions.mem_targets_iff]
  grind

/-- A state stays, or goes to one of its targets. -/
lemma next_mem_cons_targets (g : Grammar) (s : State) (c : Char) :
    g.next s c ∈ s :: g.transitions.targets s := by
  rw [next]
  cases hnext : g.transitions.next? s c with
  | none => exact List.mem_cons_self
  | some t => exact List.mem_cons_of_mem _ (Transitions.mem_targets_of_next? hnext)

/-- The initial state is reachable. -/
lemma initial_mem_reachable (g : Grammar) : g.initial ∈ g.reachable :=
  Transitions.start_mem_reachableFrom

/-- The targets of a reachable state are reachable. -/
lemma mem_reachable_of_target (hs : s ∈ g.reachable) (ht : t ∈ g.transitions.targets s) :
    t ∈ g.reachable :=
  Transitions.mem_reachableFrom_of_target hs ht

/-- Every state within reach of a sound grammar has a wildcard. -/
lemma isSome_wildcard_of_reachable (h : g.defect? = none) (hs : s ∈ g.reachable) :
    (g.transitions.wildcard s).isSome := by
  have hdefect := List.findSome?_eq_none_iff.mp h s hs
  rw [defectAt?] at hdefect
  split at hdefect
  · exact absurd hdefect (Option.some_ne_none _)
  · rename_i hwildcard
    exact Option.isSome_iff_ne_none.mpr hwildcard

end Grammar

namespace Scan

variable {g : Grammar}

/-- Reading a character moves the scanner to the next state of the grammar. -/
lemma state_read (g : Grammar) (s : Scan) (c : Char) : (s.read g c).state = g.next s.state c := by
  by_cases h : g.next s.state c = s.state
  · rw [read_of_stay h, h]
  · rw [read_of_leave rfl h]

/-- From a state within reach, the table says where the scanner goes, and it stays within reach. -/
lemma next?_read (h : g.defect? = none) {s : Scan} (hs : s.state ∈ g.reachable) (c : Char) :
    g.transitions.next? s.state c = some (s.read g c).state ∧ (s.read g c).state ∈ g.reachable := by
  obtain ⟨u, hu⟩ := Transitions.exists_next? (Grammar.isSome_wildcard_of_reachable h hs) c
  have hread : (s.read g c).state = u := by rw [state_read, Grammar.next, hu, Option.getD_some]
  rw [hread]
  exact ⟨hu, Grammar.mem_reachable_of_target hs (Transitions.mem_targets_of_next? hu)⟩

/-- Reading a text from a reachable state ends in one, if the grammar has no defect. -/
lemma state_readAll_mem_reachable (h : g.defect? = none) {s : Scan} (hs : s.state ∈ g.reachable)
    (text : List Char) : (s.readAll g text).state ∈ g.reachable := by
  induction text generalizing s with
  | nil => exact hs
  | cons c text ih => exact ih (next?_read h hs c).2

/-- The scanner of a text is in a reachable state, if the grammar has no defect. -/
lemma state_ofText_mem_reachable (h : g.defect? = none) (text : List Char) :
    (ofText g text).state ∈ g.reachable :=
  state_readAll_mem_reachable h (s := start g) g.initial_mem_reachable text

/-- Behind any text, the scanner of a grammar that was handed out is in a state within reach, and
the table says where it goes on the next character, so that it never stays for want of an entry. -/
theorem next?_ofText (hg : (∃ b : Builder, b.build = .ok g) ∨ g = .passthrough) (text : List Char) :
    (ofText g text).state ∈ g.reachable ∧
      ∀ c, g.transitions.next? (ofText g text).state c = some (ofText g (text ++ [c])).state := by
  have hsound : g.defect? = none := by
    rcases hg with ⟨b, hb⟩ | rfl
    · exact (Builder.eq_of_build hb).2
    · exact Grammar.defect?_passthrough
  have hreach := state_ofText_mem_reachable hsound text
  refine ⟨hreach, fun c => ?_⟩
  rw [ofText_concat]
  exact (next?_read hsound hreach c).1

/-- A literal that ends with any character that is not in the table, while a state out of reach has no
wildcard. -/
theorem next?_ofText_literal :
    let b := (Builder.empty "quotes").run
      [.wildcard .normal .normal, .transition .normal [0x22] .doubleQuoteLiteral,
       .wildcard .doubleQuoteLiteral .normal, .transition .doubleQuoteLiteral [0x61] .doubleQuoteLiteral,
       .transition .xmlTag [0x3E] .normal]
    b.build = .ok b.grammar ∧ (ofText b.grammar "é\"aa".toList).state ∈ b.grammar.reachable ∧
      ∀ c, b.grammar.transitions.next? (ofText b.grammar "é\"aa".toList).state c =
        some (ofText b.grammar ("é\"aa".toList ++ [c])).state := by
  intro b
  have hbuild : b.build = .ok b.grammar := Builder.build_eq_ok rfl (by decide +kernel)
  exact ⟨hbuild, next?_ofText (.inl ⟨b, hbuild⟩) _⟩

end Scan
end Highlighter
