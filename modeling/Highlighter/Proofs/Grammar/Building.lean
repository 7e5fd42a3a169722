import Highlighter.Proofs.Document.RoundTrip
import Highlighter.Proofs.Grammar.Cells
import Highlighter.Proofs.Grammar.Reach

/-!
# What building refuses, and what it hands out

A list of calls is refused for a byte that is no key, or for a state that some text leads to in the
tables that the calls have left: one without a wildcard, or a lookahead state that loops and is left by
dropping its segment (`Faulty`). What is told is the first of these (`FirstFault`). If there is none, the
grammar is handed out in which every cell holds what was written there last (`Grammar.Carries`). Main
statement: `Builder.build_run`.
-/

namespace Highlighter

/-- The call asks for transitions on a byte that is no key. -/
inductive Call.NamesWide : Call → Prop
  | intro {source target : State} {bytes : List UInt8} {b : UInt8} (hb : b ∈ bytes)
    (hwide : 128 ≤ b) : NamesWide (.transition source bytes target)

namespace Grammar

variable {g : Grammar} {s : State}

/-- Some text leads from the initial state to `s`. -/
def Reaches (g : Grammar) (s : State) : Prop :=
  ∃ text, g.transitions.follow? g.initial text = some s

/-- A lookahead state that piles characters up, and goes to another state by dropping them. -/
structure DropsPile (g : Grammar) (s : State) : Prop where
  ahead : s.isLookahead
  loops : ∃ c, g.transitions.next? s c = some s
  leaves : ∃ c t, g.transitions.next? s c = some t ∧ t ≠ s ∧ g.processor s t = .discard

/-- What is wrong with a state. A missing wildcard comes before a loop. -/
inductive Offends (g : Grammar) (s : State) : Defect → Prop
  | stuck (h : g.transitions.wildcard s = none) : Offends g s (.missingWildcard s g.initial)
  | drops (hwild : g.transitions.wildcard s ≠ none) (h : g.DropsPile s) :
    Offends g s (.discardingLoop s)

/-- The grammar has the name of `base`, and in every cell what the calls have written there last. -/
structure Carries (base : Grammar) (calls : List Call) (g : Grammar) : Prop where
  name : g.name = base.name
  cells : ∀ x, base.LastWrote calls x (g.cell x)
  keyed : g.keywords.Keyed

end Grammar

/-- Something is wrong with the calls, or with the tables that they have left. -/
inductive Faulty (calls : List Call) (g : Grammar) : Prop
  | wide {c : Call} (hc : c ∈ calls) (h : c.NamesWide)
  | stuck {s : State} (hs : g.Reaches s) (h : g.transitions.wildcard s = none)
  | drops {s : State} (hs : g.Reaches s) (h : g.DropsPile s)

/-- The first thing that is wrong: a byte that is no key, in the order of the calls and of the bytes in
them, or else what is wrong with the first of the states. -/
inductive FirstFault (calls : List Call) (g : Grammar) : Defect → Prop
  | wide {before after : List Call} {source target : State} {bytes more : List UInt8} {b : UInt8}
    (hcalls : calls = before ++ .transition source (bytes ++ b :: more) target :: after)
    (hbefore : ∀ c ∈ before, ¬ c.NamesWide) (hbytes : ∀ b ∈ bytes, b < 128) (hwide : 128 ≤ b) :
    FirstFault calls g (.wideKey b source)
  | state {s : State} {d : Defect} (hcalls : ∀ c ∈ calls, ¬ c.NamesWide) (hs : g.Reaches s)
    (h : g.Offends s d)
    (hfirst : ∀ u, g.Reaches u → u.index < s.index → ∀ d, ¬ g.Offends u d) : FirstFault calls g d

/-! ### Bytes that are no keys -/

namespace Call

variable {c : Call} {d : Defect}

/-- A call leaves no wide key when it asks for none. -/
lemma wideKeys_eq_nil : c.wideKeys = [] ↔ ¬ c.NamesWide := by
  constructor
  · rintro h ⟨hb, hwide⟩
    rw [wideKeys, List.map_eq_nil_iff, List.filter_eq_nil_iff] at h
    exact h _ hb (decide_eq_true hwide)
  · intro h
    cases c with
    | transition source bytes target =>
      rw [wideKeys, List.map_eq_nil_iff, List.filter_eq_nil_iff]
      exact fun b hb hwide => h ⟨hb, of_decide_eq_true hwide⟩
    | _ => rfl

/-- The first byte of a call that is no key. -/
lemma head?_wideKeys_eq_some :
    c.wideKeys.head? = some d ↔ ∃ source bytes b more target,
      c = .transition source (bytes ++ b :: more) target ∧ (∀ b ∈ bytes, b < 128) ∧ 128 ≤ b ∧
        d = .wideKey b source := by
  cases c with
  | transition source bytes target =>
    simp only [wideKeys, List.head?_map, List.head?_filter, Option.map_eq_some_iff,
      List.find?_eq_some_iff_append, transition.injEq]
    constructor
    · rintro ⟨b, ⟨hwide, before, more, rfl, hbefore⟩, rfl⟩
      refine ⟨source, before, b, more, target, ⟨rfl, rfl, rfl⟩, fun b hb => ?_,
        of_decide_eq_true hwide, rfl⟩
      simpa using hbefore b hb
    · rintro ⟨source, before, b, more, target, ⟨rfl, rfl, rfl⟩, hbefore, hwide, rfl⟩
      refine ⟨b, ⟨decide_eq_true hwide, before, more, rfl, fun b hb => ?_⟩, rfl⟩
      simpa using hbefore b hb
  | _ => simp [wideKeys]

/-- Calls leave no wide key when none of them asks for one. -/
lemma flatMap_wideKeys_eq_nil {calls : List Call} :
    calls.flatMap wideKeys = [] ↔ ∀ c ∈ calls, ¬ c.NamesWide := by
  simp only [List.flatMap_eq_nil_iff, wideKeys_eq_nil]

end Call

/-! ### The states that are within reach -/

namespace Grammar

variable {g : Grammar} {s u : State} {d : Defect}

/-- The search finds just the states that some text leads to. -/
lemma mem_reachable_iff : s ∈ g.reachable ↔ g.Reaches s := Transitions.mem_reachableFrom_iff

/-- The check of lookahead states finds just those that drop a pile. -/
lemma dropsPile_iff : g.DropsPile s ↔ s.isLookahead && g.loops s && g.leavesByDiscard s := by
  rw [Bool.and_eq_true, Bool.and_eq_true, loops_iff, leavesByDiscard_iff]
  constructor
  · rintro ⟨hahead, hloops, hleaves⟩
    exact ⟨⟨hahead, hloops⟩, hleaves⟩
  · rintro ⟨⟨hahead, hloops⟩, hleaves⟩
    exact ⟨hahead, hloops, hleaves⟩

/-- The check of a state finds just what is wrong with it. -/
lemma offends_iff : g.Offends s d ↔ g.defectAt? s = some d := by
  rw [defectAt?]
  constructor
  · rintro (h | ⟨hwild, h⟩)
    · rw [if_pos h]
    · rw [if_neg hwild, if_pos (dropsPile_iff.mp h)]
  · intro h
    split at h
    · rename_i hwild
      obtain rfl := Option.some.inj h
      exact .stuck hwild
    · rename_i hwild
      split at h
      · rename_i hdrops
        obtain rfl := Option.some.inj h
        exact .drops hwild (dropsPile_iff.mpr hdrops)
      · cases h

/-- The check of a state finds nothing when nothing is wrong with it. -/
lemma defectAt?_eq_none : g.defectAt? s = none ↔ ∀ d, ¬ g.Offends s d := by
  simp only [Option.eq_none_iff_forall_ne_some, offends_iff, ne_eq]

/-- Something is wrong with a state that has no wildcard or drops a pile. -/
lemma exists_offends_iff : (∃ d, g.Offends s d) ↔ g.transitions.wildcard s = none ∨ g.DropsPile s := by
  constructor
  · rintro ⟨d, h | ⟨-, h⟩⟩
    · exact .inl h
    · exact .inr h
  · intro h
    by_cases hwild : g.transitions.wildcard s = none
    · exact ⟨_, .stuck hwild⟩
    · exact ⟨_, .drops hwild (h.resolve_left hwild)⟩

/-- What is wrong with a grammar is what is wrong with the first state that offends. -/
lemma defect?_eq_some :
    g.defect? = some d ↔
      ∃ s, g.Reaches s ∧ g.Offends s d ∧
        ∀ u, g.Reaches u → u.index < s.index → ∀ d, ¬ g.Offends u d := by
  simp only [← mem_reachable_iff, ← defectAt?_eq_none]
  simp only [offends_iff]
  rw [defect?, List.findSome?_eq_some_iff]
  -- the states are tried in their order, so the first one found is the first of all
  have hordered : g.reachable.Pairwise (·.index < ·.index) :=
    Transitions.pairwise_reachableFrom _ _
  constructor
  · rintro ⟨before, s, after, hsplit, hs, hbefore⟩
    rw [hsplit, List.pairwise_append, List.pairwise_cons] at hordered
    obtain ⟨-, ⟨hafter, -⟩, -⟩ := hordered
    refine ⟨s, by simp [hsplit], hs, fun u hu hlt => ?_⟩
    rw [hsplit, List.mem_append, List.mem_cons] at hu
    rcases hu with hu | rfl | hu
    · exact hbefore u hu
    · exact absurd hlt (Nat.lt_irrefl _)
    · exact absurd (hafter u hu) (Nat.lt_asymm hlt)
  · rintro ⟨s, hs, hdefect, hfirst⟩
    obtain ⟨before, after, hsplit⟩ := List.append_of_mem hs
    refine ⟨before, s, after, hsplit, hdefect, fun u hu => hfirst u (by simp [hsplit, hu]) ?_⟩
    rw [hsplit, List.pairwise_append] at hordered
    exact hordered.2.2 u hu s List.mem_cons_self

/-- The check of a grammar finds nothing when nothing is wrong with a state that a text leads to. -/
lemma defect?_eq_none_iff :
    g.defect? = none ↔ ∀ s, g.Reaches s → ¬ (g.transitions.wildcard s = none ∨ g.DropsPile s) := by
  simp only [defect?, List.findSome?_eq_none_iff, mem_reachable_iff, defectAt?_eq_none,
    ← exists_offends_iff, not_exists]

end Grammar

/-! ### Building -/

section Faults

variable {calls : List Call} {g : Grammar} {d : Defect}

/-- The first fault is the first refused byte, or else what is wrong with the grammar. -/
lemma firstFault_iff :
    FirstFault calls g d ↔ ((calls.flatMap Call.wideKeys).head?.or g.defect?) = some d := by
  rw [Option.or_eq_some_iff, List.head?_eq_none_iff, Call.flatMap_wideKeys_eq_nil,
    Grammar.defect?_eq_some, List.head?_flatMap, List.findSome?_eq_some_iff]
  simp only [Call.head?_wideKeys_eq_some, List.head?_eq_none_iff, Call.wideKeys_eq_nil]
  constructor
  · rintro (⟨hcalls, hbefore, hbytes, hwide⟩ | ⟨hcalls, hs, h, hfirst⟩)
    · exact .inl ⟨_, _, _, hcalls, ⟨_, _, _, _, _, rfl, hbytes, hwide, rfl⟩, hbefore⟩
    · exact .inr ⟨hcalls, _, hs, h, hfirst⟩
  · rintro (⟨_, _, _, hcalls, ⟨_, _, _, _, _, rfl, hbytes, hwide, rfl⟩, hbefore⟩ |
      ⟨hcalls, _, hs, h, hfirst⟩)
    · exact .wide hcalls hbefore hbytes hwide
    · exact .state hcalls hs h hfirst

/-- The calls have no fault exactly when neither check finds anything. -/
lemma not_faulty_iff :
    ¬ Faulty calls g ↔ ((calls.flatMap Call.wideKeys).head?.or g.defect?) = none := by
  rw [Option.or_eq_none_iff, List.head?_eq_none_iff, Call.flatMap_wideKeys_eq_nil,
    Grammar.defect?_eq_none_iff]
  constructor
  · intro h
    refine ⟨fun c hc hwide => h (.wide hc hwide), fun s hs hoffends => ?_⟩
    rcases hoffends with hwild | hdrops
    · exact h (.stuck hs hwild)
    · exact h (.drops hs hdrops)
  · rintro ⟨hcalls, hstates⟩ (⟨hc, hwide⟩ | ⟨hs, hwild⟩ | ⟨hs, hdrops⟩)
    · exact hcalls _ hc hwide
    · exact hstates _ hs (.inl hwild)
    · exact hstates _ hs (.inr hdrops)

end Faults

namespace Builder

/-- A builder before the first call: it starts without tables, or with those of a grammar. -/
inductive Fresh : Builder → Prop
  | empty (name : String) : Fresh (.empty name)
  | derive {base : Grammar} (hbase : base.Made) (name : String) : Fresh (.derive base name)

variable {start : Builder} {calls : List Call} {g : Grammar}

/-- No wide key has been asked for before the first call. -/
lemma Fresh.wideKeys (h : start.Fresh) : start.wideKeys = [] := by
  cases h with
  | _ => rfl

/-- The overlay at the start has the keys of its words. -/
lemma Fresh.keyed (h : start.Fresh) : start.grammar.keywords.Keyed := by
  cases h with
  | empty name => exact Overlay.keyed_empty
  | derive hbase name => exact hbase.keyed

/-- The calls lead to one grammar, whatever is wrong with it. -/
lemma Fresh.carries_iff (h : start.Fresh) :
    start.grammar.Carries calls g ↔ g = (start.run calls).grammar := by
  rw [grammar_run]
  have hkeyed := Grammar.keyed_foldl_apply h.keyed calls
  have hname := start.grammar.name_foldl_apply calls
  constructor
  · rintro ⟨hname', hcells, hkeyed'⟩
    exact Grammar.ext_cell hkeyed' hkeyed (hname'.trans hname.symm)
      fun x => (Grammar.lastWrote_iff.mp (hcells x)).symm
  · rintro rfl
    exact ⟨hname, fun x => start.grammar.lastWrote_foldl calls x, hkeyed⟩

/-- What is found after some calls is the first wide key, or else what is wrong with the tables. -/
lemma Fresh.defect?_run (h : start.Fresh) :
    (start.run calls).defect? =
      (calls.flatMap Call.wideKeys).head?.or (start.run calls).grammar.defect? := by
  rw [defect?, wideKeys_run, h.wideKeys, List.nil_append, Option.orElse_eq_orElse,
    Option.orElse_eq_or]

/-- Whatever the calls, there is one grammar that has in every cell what they wrote there last.
Building hands it out if nothing is wrong with the calls and with the states that some text leads to in
it, and nothing else ever. If something is wrong, it tells the name of the grammar and what is wrong
first. -/
theorem build_run (hstart : start.Fresh) (calls : List Call) :
    ∃ g, (∀ g', start.grammar.Carries calls g' ↔ g' = g) ∧
      ((∃ r, (start.run calls).build = .error r) ↔ Faulty calls g) ∧
      (∀ r, (start.run calls).build = .error r ↔ r.grammar = g.name ∧ FirstFault calls g r.defect) ∧
      ∀ g', (start.run calls).build = .ok g' ↔ g' = g ∧ ¬ Faulty calls g := by
  refine ⟨(start.run calls).grammar, fun g' => hstart.carries_iff, ?_⟩
  have hfirst : ∀ d, FirstFault calls (start.run calls).grammar d ↔
      (start.run calls).defect? = some d := fun d => by
    rw [hstart.defect?_run, firstFault_iff]
  have hfaulty : ¬ Faulty calls (start.run calls).grammar ↔ (start.run calls).defect? = none := by
    rw [hstart.defect?_run, not_faulty_iff]
  simp only [hfirst]
  rw [build_eq]
  cases hdefect : (start.run calls).defect? with
  | some d =>
    have hfault : Faulty calls (start.run calls).grammar := by
      by_contra h
      exact nomatch hdefect.symm.trans (hfaulty.mp h)
    refine ⟨⟨fun _ => hfault, fun _ => ⟨_, rfl⟩⟩, fun r => ?_,
      fun g' => ⟨nofun, fun h => absurd hfault h.2⟩⟩
    obtain ⟨name, defect⟩ := r
    simp only [Except.error.injEq, Refusal.mk.injEq, Option.some.injEq, eq_comm]
  | none =>
    have hsound := hfaulty.mpr hdefect
    refine ⟨⟨nofun, fun h => absurd h hsound⟩, fun r => ⟨nofun, nofun⟩, fun g' => ?_⟩
    rw [Except.ok.injEq, and_iff_left hsound, eq_comm]

/-- Derived tables in which the slash state piles up slashes and drops them on the way to the initial
state. They are refused for it, but handed out when the last call starts the scanner in another state. -/
theorem build_run_derived :
    let start := Builder.derive .passthrough "slashes"
    let calls : List Call :=
      [.transition .normal [0x2F] .slashSeen, .transition .slashSeen [0x2F] .slashSeen,
       .wildcard .slashSeen .normal, .exitProcessor .slashSeen .discard]
    let moved := calls ++ [.initial .singleQuoteLiteral]
    (∃ g, (∀ g', start.grammar.Carries calls g' ↔ g' = g) ∧
      FirstFault calls g (.discardingLoop .slashSeen)) ∧
    ∃ g, (∀ g', start.grammar.Carries moved g' ↔ g' = g) ∧ (start.run moved).build = .ok g ∧
      ¬ Faulty moved g := by
  intro start calls moved
  have hstart : start.Fresh := .derive .passthrough "slashes"
  obtain ⟨g, hg, -, hrefused, -⟩ := build_run hstart calls
  obtain ⟨g', hg', -, -, hbuilt⟩ := build_run hstart moved
  -- both sequences of calls leave the same tables, but for the state that the scanner starts in
  have hdefect : (start.run calls).defect? = some (.discardingLoop .slashSeen) := by decide +kernel
  have herror : (start.run calls).build = .error ⟨"slashes", .discardingLoop .slashSeen⟩ := by
    rw [build_eq, hdefect, grammar_run, Grammar.name_foldl_apply]
    rfl
  have hok : (start.run moved).build = .ok (start.run moved).grammar :=
    build_eq_ok rfl (by decide +kernel)
  obtain ⟨hsame, hsound⟩ := (hbuilt _).mp hok
  exact ⟨⟨g, hg, ((hrefused _).mp herror).2⟩, g', hg', hsame ▸ hok, hsound⟩

end Builder
end Highlighter
