import Highlighter.Proofs.Grammar.Reach
import Highlighter.Proofs.Ordered

/-!
# Searching for the states within reach

The states within reach can also be visited one by one: a state is found when it first comes up as a
target, waits on a stack, and is visited once. Each visit leaves less to do (`Search.toDo_lt`), so
every search ends, in whatever state it is begun. At its end nothing waits and the states that were
visited are those within reach (`Search.enumerates_visited_run`). Main statement: `Transitions.reachableFrom_eq`.
-/

namespace Highlighter

/-- A search: the states that wait to be visited and those that were, the last one first, and all that
were found. -/
structure Search where
  waiting : List State
  found : List State
  visited : List State

namespace Search

/-- The search before the first visit. -/
def start (s : State) : Search := ⟨[s], [s], []⟩

/-- A target comes up. It waits, unless it was found before. -/
def note (search : Search) (u : State) : Search :=
  if u ∈ search.found then search
  else { search with waiting := u :: search.waiting, found := u :: search.found }

/-- Visits the state that has waited for the shortest time, if there is one. -/
def visit? (t : Transitions) (search : Search) : Option Search :=
  match search.waiting with
  | [] => none
  | s :: rest =>
    some ((t.targets s).foldl note { search with waiting := rest, visited := s :: search.visited })

/-- The visits that may still come. -/
def toDo (search : Search) : Nat :=
  (State.all.filter (· ∉ search.found)).length + search.waiting.length

variable {t : Transitions} {s u origin : State} {search next : Search} {targets : List State}

/-- A target that was found before changes nothing. -/
lemma note_of_mem (h : u ∈ search.found) : search.note u = search := if_pos h

/-- A target that is new waits and was found. -/
lemma note_of_not_mem (h : u ∉ search.found) :
    search.note u = { search with waiting := u :: search.waiting, found := u :: search.found } :=
  if_neg h

/-- A visit takes the first of those that wait and notes its targets. -/
lemma visit?_eq_some : search.visit? t = some next ↔
    ∃ s rest, search.waiting = s :: rest ∧
      next = (t.targets s).foldl note
        { search with waiting := rest, visited := s :: search.visited } := by
  unfold visit?
  cases search.waiting with
  | nil => simp
  | cons s rest => simp [eq_comm]

/-- There is no visit once no state waits. -/
lemma visit?_eq_none : search.visit? t = none ↔ search.waiting = [] := by
  unfold visit?
  cases search.waiting <;> simp

/-! ### Every search ends -/

/-- A state that waits is one less to be found. -/
lemma toDo_note_le (search : Search) (u : State) : (search.note u).toDo ≤ search.toDo := by
  by_cases hu : u ∈ search.found
  · rw [note_of_mem hu]
  · have hsplit : State.all.filter (· ∉ u :: search.found) =
        (State.all.filter (· ∉ search.found)).filter (· ≠ u) := by
      rw [List.filter_filter]
      exact List.filter_congr fun v _ => by simp
    -- it counts among the states still to be found or among those that wait, not among both
    have hfewer : (State.all.filter (· ∉ u :: search.found)).length <
        (State.all.filter (· ∉ search.found)).length := by
      rw [hsplit, List.length_filter_lt_length_iff_exists]
      exact ⟨u, by simp [hu], by simp⟩
    calc (search.note u).toDo
        = (State.all.filter (· ∉ u :: search.found)).length + (search.waiting.length + 1) := by
          rw [note_of_not_mem hu]
          rfl
      _ ≤ search.toDo := by
          rw [toDo]
          omega

/-- Noting targets makes no more visits than there were to do. -/
lemma toDo_foldl_note_le (search : Search) (targets : List State) :
    (targets.foldl note search).toDo ≤ search.toDo := by
  induction targets generalizing search with
  | nil => exact Nat.le_refl _
  | cons u targets ih => exact (ih _).trans (toDo_note_le search u)

/-- A visit leaves less to do. -/
lemma toDo_lt (h : search.visit? t = some next) : next.toDo < search.toDo := by
  obtain ⟨s, rest, hwaiting, rfl⟩ := visit?_eq_some.mp h
  refine Nat.lt_of_le_of_lt (toDo_foldl_note_le _ _) ?_
  rw [toDo, toDo, hwaiting, List.length_cons]
  exact Nat.lt_succ_self _

/-- Visits states until none waits. -/
def run (t : Transitions) (search : Search) : Search :=
  match _h : search.visit? t with
  | none => search
  | some next => run t next
termination_by search.toDo
decreasing_by exact toDo_lt _h

/-! ### What a search has found -/

/-- What was found once a target came up. -/
lemma mem_found_note : s ∈ (search.note u).found ↔ s ∈ search.found ∨ s = u := by
  by_cases hu : u ∈ search.found
  · rw [note_of_mem hu]
    exact ⟨.inl, fun h => h.elim id fun heq => heq ▸ hu⟩
  · rw [note_of_not_mem hu, List.mem_cons, or_comm]

/-- What was found once some targets came up. -/
lemma mem_found_foldl_note :
    s ∈ (targets.foldl note search).found ↔ s ∈ search.found ∨ s ∈ targets := by
  induction targets generalizing search with
  | nil => simp
  | cons u targets ih => rw [List.foldl_cons, ih, mem_found_note, List.mem_cons, or_assoc]

/-- Noting targets visits none of them. -/
lemma visited_foldl_note : (targets.foldl note search).visited = search.visited := by
  induction targets generalizing search with
  | nil => rfl
  | cons u targets ih =>
    rw [List.foldl_cons, ih, note]
    split <;> rfl

/-- Every state that was found either waits or was visited, once. -/
structure Tidy (search : Search) : Prop where
  nodup : search.found.Nodup
  perm : search.found.Perm (search.waiting ++ search.visited)

/-- A target that comes up leaves the search tidy. -/
lemma Tidy.note (h : search.Tidy) (u : State) : (search.note u).Tidy := by
  by_cases hu : u ∈ search.found
  · rwa [note_of_mem hu]
  · rw [note_of_not_mem hu]
    exact ⟨List.nodup_cons.mpr ⟨hu, h.nodup⟩, h.perm.cons u⟩

/-- Targets that come up leave the search tidy. -/
lemma Tidy.foldl_note (h : search.Tidy) (targets : List State) :
    (targets.foldl Search.note search).Tidy := by
  induction targets generalizing search with
  | nil => exact h
  | cons u targets ih => exact ih (h.note u)

/-- How a search that began in the state `origin` stands: what was found is within reach, and so were
found all targets of what was visited. -/
structure Stands (t : Transitions) (origin : State) (search : Search) : Prop where
  tidy : search.Tidy
  begun : origin ∈ search.found
  reach : ∀ u ∈ search.found, u ∈ t.reachableFrom origin
  closed : ∀ s ∈ search.visited, t.targets s ⊆ search.found

/-- How the search stands at its start. -/
lemma stands_start (t : Transitions) (origin : State) : Stands t origin (start origin) where
  tidy := ⟨List.nodup_singleton origin, List.Perm.refl _⟩
  begun := List.mem_singleton_self origin
  reach := fun _ hu => List.mem_singleton.mp hu ▸ Transitions.start_mem_reachableFrom
  closed := fun _ hs => absurd hs List.not_mem_nil

/-- A visit keeps what was found within reach, and finds all targets of what it visits. -/
lemma Stands.visit (h : Stands t origin search) (hvisit : search.visit? t = some next) :
    Stands t origin next := by
  obtain ⟨s, rest, hwaiting, rfl⟩ := visit?_eq_some.mp hvisit
  have hperm := h.tidy.perm
  rw [hwaiting] at hperm
  have hs : s ∈ search.found := hperm.mem_iff.mpr List.mem_cons_self
  have htidy : Tidy ⟨rest, search.found, s :: search.visited⟩ :=
    ⟨h.tidy.nodup, hperm.trans List.perm_middle.symm⟩
  refine ⟨htidy.foldl_note _, ?_, ?_, ?_⟩
  · exact mem_found_foldl_note.mpr (.inl h.begun)
  · intro u hu
    rcases mem_found_foldl_note.mp hu with hu | hu
    · exact h.reach u hu
    · exact Transitions.mem_reachableFrom_of_target (h.reach s hs) hu
  · intro v hv u hu
    rw [visited_foldl_note] at hv
    rcases List.mem_cons.mp hv with rfl | hv
    · exact mem_found_foldl_note.mpr (.inr hu)
    · exact mem_found_foldl_note.mpr (.inl (h.closed v hv hu))

/-- A search stands at its end as it stood at its beginning, and nothing waits. -/
lemma Stands.run (h : Stands t origin search) :
    Stands t origin (run t search) ∧ (search.run t).waiting = [] := by
  induction search using Search.run.induct t with
  | case1 search hnone =>
    rw [Search.run, hnone]
    exact ⟨h, visit?_eq_none.mp hnone⟩
  | case2 search next hnext ih =>
    rw [Search.run, hnext]
    exact ih (h.visit hnext)

/-- The states that were visited in the end are those within reach, once each. -/
lemma enumerates_visited_run (t : Transitions) (origin : State) :
    Enumerates (· ∈ t.reachableFrom origin) ((start origin).run t).visited := by
  obtain ⟨hend, hwaiting⟩ := (stands_start t origin).run
  generalize (start origin).run t = search at hend hwaiting
  have hperm : search.found.Perm search.visited := by
    simpa only [hwaiting, List.nil_append] using hend.tidy.perm
  refine ⟨hperm.nodup_iff.mp hend.tidy.nodup, fun u => ⟨fun hu => ?_, fun hu => ?_⟩⟩
  · exact hend.reach u (hperm.mem_iff.mpr hu)
  · -- what was visited is closed under transitions, and so has everything within reach
    refine Transitions.mem_reachableFrom (fun s hs v hv => ?_) (hperm.mem_iff.mp hend.begun) u hu
    exact hperm.mem_iff.mp (hend.closed s hs hv)

end Search

namespace Transitions

/-- The states within reach are what a search visits, sorted. No search goes on for ever, whatever
the table and wherever it stands. The states are listed in order and none of them twice, and they are
exactly those that some text leads to from the state where the search begins. -/
theorem reachableFrom_eq (t : Transitions) (origin : State) :
    (WellFounded fun next search : Search => search.visit? t = some next) ∧
      ((Search.start origin).run t).waiting = [] ∧
      t.reachableFrom origin =
        ((Search.start origin).run t).visited.mergeSort (fun s u => s.index ≤ u.index) ∧
      (t.reachableFrom origin).Pairwise (·.index < ·.index) ∧
      ∀ u, u ∈ t.reachableFrom origin ↔ ∃ text, t.follow? origin text = some u := by
  have hordered : Ordered State.index (· ∈ t.reachableFrom origin) (t.reachableFrom origin) :=
    ⟨t.pairwise_reachableFrom origin, fun _ => Iff.rfl⟩
  refine ⟨?_, ((Search.stands_start t origin).run).2, ?_, t.pairwise_reachableFrom origin,
    fun u => mem_reachableFrom_iff⟩
  · exact Subrelation.wf Search.toDo_lt (measure Search.toDo).wf
  · exact (hordered.mergeSort_eq (Search.enumerates_visited_run t origin)).symm

/-- A state that leads into reach is not within reach itself. -/
example :
    let t := (empty.setKeys .normal [0x22] .doubleQuoteLiteral).setWildcard .doubleQuoteLiteral .slashSeen
    (t.setWildcard .xmlTag .normal).reachableFrom .normal =
      [.normal, .doubleQuoteLiteral, .slashSeen] := by
  decide

end Transitions
end Highlighter
