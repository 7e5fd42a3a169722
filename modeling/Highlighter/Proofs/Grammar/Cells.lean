import Mathlib.Data.List.Induction
import Highlighter.Proofs.Grammar.Reopening
import Highlighter.Proofs.Keyword.Keys

/-!
# The cells of the tables

The tables of a grammar are made up of cells, each of which a call writes to or leaves alone
(`Grammar.cell_apply`). So after a list of calls, each cell holds what the last call that writes to it
has written there, or what it held at the start (`Grammar.lastWrote_foldl`).
-/

namespace Highlighter

/-- A place in the tables of a grammar. -/
inductive Cell where
  /-- The state that the scanner starts in. -/
  | initial
  /-- Where `s` goes on the key. -/
  | explicit (s : State) (k : Key)
  /-- Where `s` goes on all other characters. -/
  | wildcard (s : State)
  /-- The processor for leaving `s` towards `t`. -/
  | pairProcessor (s t : State)
  /-- The processor for leaving `s` towards a state without a processor of its own. -/
  | exitProcessor (s : State)
  /-- The processor for leaving the initial state where there is no other. -/
  | defaultProcessor
  /-- The markup between `s` and `t`. -/
  | edge (s t : State)
  /-- The markup behind a text that ends in `s`. -/
  | closure (s : State)
  /-- The classes of words, in order. -/
  | classes
  /-- Whether the class has the word. -/
  | word (className w : String)
  /-- Whether words are looked up without regard to case. -/
  | ignoreCase
  /-- The extra characters of identifiers. -/
  | identChars

namespace Cell

/-- What can stand in a cell. -/
def Value : Cell → Type
  | initial => State
  | explicit _ _ | wildcard _ => Option State
  | pairProcessor _ _ | exitProcessor _ => Option Processor
  | defaultProcessor => Processor
  | edge _ _ | closure _ => Option String
  | classes => List String
  | word _ _ | ignoreCase => Bool
  | identChars => String

end Cell

namespace Overlay

variable {k : Overlay} {className w : String}

/-- The classes of the overlay, in the order of declaration. -/
def classes (k : Overlay) : List String := k.sets.map (·.className)

/-- The overlay has the word in the class. -/
def HasWord (k : Overlay) (className w : String) : Prop :=
  ∃ s ∈ k.sets, s.className = className ∧ w ∈ s.words

instance (k : Overlay) (className w : String) : Decidable (k.HasWord className w) :=
  inferInstanceAs (Decidable (∃ s ∈ k.sets, _))

/-- A class has a word if it was added or was there before. -/
lemma hasWord_addWords {name : String} {words : List String} :
    (k.addWords name words).HasWord className w ↔
      className = name ∧ w ∈ words ∨ k.HasWord className w := by
  obtain ⟨sets, on, chars⟩ := k
  change (∃ s ∈ addTo on name words sets, _) ↔ _ ∨ ∃ s ∈ sets, _
  induction sets with
  | nil => simp [addTo, KeywordSet.add, KeywordSet.empty, eq_comm]
  | cons s sets ih =>
    rw [addTo]
    split
    · rename_i hname
      simp only [List.exists_mem_cons_iff, KeywordSet.add, WordSet.mem_insertMany, hname]
      grind
    · simp only [List.exists_mem_cons_iff, ih]
      grind

/-- No class has a word once the sets are cleared. -/
lemma not_hasWord_clearSets (k : Overlay) (className w : String) :
    ¬ k.clearSets.HasWord className w := by
  rintro ⟨s, hs, -⟩
  exact absurd hs List.not_mem_nil

/-- No class has two sets, so a set has all the words of its class. -/
lemma Keyed.mem_words_iff (h : k.Keyed) {s : KeywordSet} (hs : s ∈ k.sets) :
    w ∈ s.words ↔ k.HasWord s.className w := by
  constructor
  · exact fun hw => ⟨s, hs, rfl, hw⟩
  · rintro ⟨s', hs', hname, hw⟩
    rwa [List.inj_on_of_nodup_map h.distinct hs' hs hname] at hw

/-- The classes, their words, the case rule and the characters of identifiers make up the overlay. -/
lemma Keyed.ext {k' : Overlay} (h : k.Keyed) (h' : k'.Keyed) (hclasses : k.classes = k'.classes)
    (hwords : ∀ className w, k.HasWord className w ↔ k'.HasWord className w)
    (hcase : k.ignoreCase = k'.ignoreCase) (hchars : k.extraIdentChars = k'.extraIdentChars) :
    k = k' := by
  have hsets : k.sets = k'.sets := by
    refine List.ext_getElem (by simpa [classes] using congrArg List.length hclasses) fun i hi hi' => ?_
    have hname : (k.sets[i]).className = (k'.sets[i]).className := by
      have hat := congrArg (·[i]?) hclasses
      simpa [classes, hi, hi'] using hat
    have hsame : (k.sets[i]).words = (k'.sets[i]).words := Std.ExtTreeSet.ext_mem fun w => by
      rw [h.mem_words_iff (List.getElem_mem hi), h'.mem_words_iff (List.getElem_mem hi'), hname]
      exact hwords _ w
    have hkeys : (k.sets[i]).keys = (k'.sets[i]).keys := by
      rw [h.keyed _ (List.getElem_mem hi), h'.keyed _ (List.getElem_mem hi'), hsame, hcase]
    exact congr (congrArg₂ KeywordSet.mk hname hsame) hkeys
  cases k
  cases k'
  simp_all only

/-- The case rule leaves the classes as they are. -/
lemma classes_setIgnoreCase (k : Overlay) (on : Bool) : (k.setIgnoreCase on).classes = k.classes := by
  unfold setIgnoreCase
  split
  · rfl
  · simp [classes, KeywordSet.rekey, Function.comp_def]

/-- The case rule leaves the words of each class as they are. -/
lemma hasWord_setIgnoreCase {on : Bool} :
    (k.setIgnoreCase on).HasWord className w ↔ k.HasWord className w := by
  unfold setIgnoreCase
  split
  · rfl
  · simp [HasWord, KeywordSet.rekey]

/-- The case rule is the one that was set. -/
lemma ignoreCase_setIgnoreCase (k : Overlay) (on : Bool) : (k.setIgnoreCase on).ignoreCase = on := by
  unfold setIgnoreCase
  split
  · rename_i h
    exact h.symm
  · rfl

/-- The case rule leaves the characters of identifiers as they are. -/
lemma extraIdentChars_setIgnoreCase (k : Overlay) (on : Bool) :
    (k.setIgnoreCase on).extraIdentChars = k.extraIdentChars := by
  unfold setIgnoreCase
  split <;> rfl

end Overlay

/-- A key is one of those that bytes spell if its number is among them. -/
lemma Key.mem_filterMap_ofByte? {bytes : List UInt8} {k : Key} :
    k ∈ bytes.filterMap Key.ofByte? ↔ k.val ∈ bytes.map UInt8.toNat := by
  simp only [List.mem_filterMap, List.mem_map, ofByte?]
  refine exists_congr fun b => and_congr_right fun _ => ?_
  constructor
  · intro h
    split at h
    · exact congrArg Fin.val (Option.some.inj h)
    · exact nomatch h
  · intro h
    rw [dif_pos (h ▸ k.isLt)]
    exact congrArg some (Fin.ext h)

namespace Grammar

/-- What stands in a cell. -/
def cell (g : Grammar) : (x : Cell) → x.Value
  | .initial => g.initial
  | .explicit s k => g.transitions.explicit s k
  | .wildcard s => g.transitions.wildcard s
  | .pairProcessor s t => g.pairProcessor s t
  | .exitProcessor s => g.exitProcessor s
  | .defaultProcessor => g.defaultProcessor
  | .edge s t => g.edge s t
  | .closure s => g.ownClosure s
  | .classes => g.keywords.classes
  | .word className w => decide (g.keywords.HasWord className w)
  | .ignoreCase => g.keywords.ignoreCase
  | .identChars => g.keywords.extraIdentChars

/-- What a call writes to a cell, if it writes to it. Reopening writes what `reopened?` tells from the
tables at that time; a class that is new stands behind the others, and no class has words when they are
cleared. -/
def write? (g : Grammar) : Call → (x : Cell) → Option x.Value
  | .initial s, .initial => some s
  | .transition source bytes target, .explicit s k =>
    if s = source ∧ k.val ∈ bytes.map UInt8.toNat then some (some target) else none
  | .wildcard source target, .wildcard s => if s = source then some (some target) else none
  | .pairProcessor source target p, .pairProcessor s t =>
    if s = source ∧ t = target then some (some p) else none
  | .exitProcessor source p, .exitProcessor s => if s = source then some (some p) else none
  | .defaultProcessor p, .defaultProcessor => some p
  | .edge source target markup, .edge s t =>
    if s = source ∧ t = target then some (some markup) else none
  | .closure state markup, .closure s => if s = state then some (some markup) else none
  | .keywords className _, .classes =>
    some (if className ∈ g.keywords.classes then g.keywords.classes
      else g.keywords.classes ++ [className])
  | .keywords className words, .word c w => if c = className ∧ w ∈ words then some true else none
  | .clearKeywords, .classes => some []
  | .clearKeywords, .word _ _ => some false
  | .ignoreCase on, .ignoreCase => some on
  | .identChars chars, .identChars => some chars
  | .reopenAfter s held, .explicit u k =>
    if u = s then (g.reopened? s held k).map some else none
  | .reopenAfter s held, .pairProcessor u t =>
    if u = s ∧ t ∈ g.opened s held Key.all then some (some (.putbackTrim held)) else none
  | .reopenAfter s held, .edge u t =>
    if u = s ∧ t ∈ g.opened s held Key.all then (g.edge g.initial t).map some else none
  | _, _ => none

variable {g : Grammar}

/-- The name and the cells make up the grammar. -/
lemma ext_cell {g' : Grammar} (h : g.keywords.Keyed) (h' : g'.keywords.Keyed) (hname : g.name = g'.name)
    (hcells : ∀ x, g.cell x = g'.cell x) : g = g' := by
  have htransitions : g.transitions = g'.transitions := by
    have hexplicit : g.transitions.explicit = g'.transitions.explicit :=
      funext fun s => funext fun k => hcells (.explicit s k)
    have hwildcard : g.transitions.wildcard = g'.transitions.wildcard :=
      funext fun s => hcells (.wildcard s)
    exact congrArg₂ Transitions.mk hexplicit hwildcard
  have hpair : g.pairProcessor = g'.pairProcessor :=
    funext fun s => funext fun t => hcells (.pairProcessor s t)
  have hexit : g.exitProcessor = g'.exitProcessor := funext fun s => hcells (.exitProcessor s)
  have hedge : g.edge = g'.edge := funext fun s => funext fun t => hcells (.edge s t)
  have hclosure : g.ownClosure = g'.ownClosure := funext fun s => hcells (.closure s)
  have hkeywords : g.keywords = g'.keywords :=
    h.ext h' (hcells .classes) (fun className w => decide_eq_decide.mp (hcells (.word className w)))
      (hcells .ignoreCase) (hcells .identChars)
  have hinitial : g.initial = g'.initial := hcells .initial
  have hdefault : g.defaultProcessor = g'.defaultProcessor := hcells .defaultProcessor
  -- all fields are equal now
  cases g
  cases g'
  simp_all only

/-! ### One call -/

section Reopening

variable {s t u : State} {held : String}

/-- Reopening writes to the explicit transitions that it adds, and to no others. -/
lemma explicit_reopened (k : Key) :
    (g.reopenAfter s held).transitions.explicit u k =
      ((if u = s then (g.reopened? s held k).map some else none).getD (g.transitions.explicit u k)) := by
  by_cases hu : u = s
  · subst hu
    rw [if_pos rfl, reopenAfter_eq, explicit_reopenOn_of_mem (Key.mem_all k)]
    cases hk : g.reopened? u held k with
    | none => rw [Option.or_none]; rfl
    | some t => rw [(reopened?_eq_some.mp hk).2.2.1]; rfl
  · rw [if_neg hu, (g.agreesOff_reopenAfter s held).explicit hu]
    rfl

/-- Reopening writes to the processors of reopened pairs, and to no others. -/
lemma pairProcessor_reopened :
    (g.reopenAfter s held).pairProcessor u t =
      (if u = s ∧ t ∈ g.opened s held Key.all then some (some (.putbackTrim held)) else none).getD
        (g.pairProcessor u t) := by
  by_cases hu : u = s
  · subst hu
    rw [reopenAfter_eq, pairProcessor_reopenOn]
    simp only [true_and]
    split <;> rfl
  · rw [if_neg fun h => hu h.1, (g.agreesOff_reopenAfter s held).pairProcessor hu]
    rfl

/-- Reopening writes to the edges to reopened constructs that the initial state has, and to no
others. -/
lemma edge_reopened :
    (g.reopenAfter s held).edge u t =
      (if u = s ∧ t ∈ g.opened s held Key.all then (g.edge g.initial t).map some else none).getD
        (g.edge u t) := by
  by_cases hu : u = s
  · subst hu
    rw [reopenAfter_eq, edge_reopenOn]
    simp only [true_and]
    split
    · cases g.edge g.initial t <;> rfl
    · rfl
  · rw [if_neg fun h => hu h.1, (g.agreesOff_reopenAfter s held).edge hu]
    rfl

end Reopening

/-- Adding words writes to those words of that class, and to no others. -/
lemma hasWord_keywords (k : Overlay) (name : String) (words : List String) (className w : String) :
    decide ((k.addWords name words).HasWord className w) =
      (if className = name ∧ w ∈ words then some true else none).getD
        (decide (k.HasWord className w)) := by
  by_cases h : className = name ∧ w ∈ words
  · rw [if_pos h]
    exact decide_eq_true (Overlay.hasWord_addWords.mpr (.inl h))
  · rw [if_neg h]
    exact decide_eq_decide.mpr (Overlay.hasWord_addWords.trans (or_iff_right h))

/-- A call leaves in a cell what it writes to it, or what stood there. -/
lemma cell_apply (g : Grammar) (c : Call) (x : Cell) :
    (g.apply c).cell x = (g.write? c x).getD (g.cell x) := by
  -- a call that does not write to the cell leaves it by definition: only the calls that do are
  -- named
  cases x with
  | initial => cases c with
    | _ => rfl
  | explicit s k => cases c with
    | transition source bytes target =>
      simp only [cell, write?, apply, Transitions.setKeys, Key.mem_filterMap_ofByte?]
      split <;> rfl
    | reopenAfter u held => exact explicit_reopened k
    | _ => rfl
  | wildcard s => cases c with
    | wildcard source target =>
      simp only [cell, write?, apply, Transitions.setWildcard]
      split <;> rfl
    | _ => rfl
  | pairProcessor s t => cases c with
    | pairProcessor source target p =>
      simp only [cell, write?, apply]
      split <;> rfl
    | reopenAfter u held => exact pairProcessor_reopened
    | _ => rfl
  | exitProcessor s => cases c with
    | exitProcessor source p =>
      simp only [cell, write?, apply]
      split <;> rfl
    | _ => rfl
  | defaultProcessor => cases c with
    | _ => rfl
  | edge s t => cases c with
    | edge source target markup =>
      simp only [cell, write?, apply]
      split <;> rfl
    | reopenAfter u held => exact edge_reopened
    | _ => rfl
  | closure s => cases c with
    | closure state markup =>
      simp only [cell, write?, apply]
      split <;> rfl
    | _ => rfl
  | classes => cases c with
    | keywords className words => exact Overlay.className_addTo _ _ _ _
    | ignoreCase on => exact Overlay.classes_setIgnoreCase g.keywords on
    | _ => rfl
  | word className w => cases c with
    | keywords name words => exact hasWord_keywords g.keywords name words className w
    | clearKeywords => exact decide_eq_false (g.keywords.not_hasWord_clearSets className w)
    | ignoreCase on => exact decide_eq_decide.mpr Overlay.hasWord_setIgnoreCase
    | _ => rfl
  | ignoreCase => cases c with
    | ignoreCase on => exact Overlay.ignoreCase_setIgnoreCase g.keywords on
    | _ => rfl
  | identChars => cases c with
    | ignoreCase on => exact Overlay.extraIdentChars_setIgnoreCase g.keywords on
    | _ => rfl

/-! ### A list of calls -/

/-- No call changes the name. -/
lemma name_foldl_apply (g : Grammar) (calls : List Call) : (calls.foldl apply g).name = g.name := by
  induction calls generalizing g with
  | nil => rfl
  | cons c calls ih =>
    have hname : (g.apply c).name = g.name := by cases c <;> rfl
    exact (ih (g.apply c)).trans hname

variable {calls : List Call} {c : Call} {x : Cell} {v w : x.Value} {i : Nat}

/-- The call at place `i` writes `v` to the cell. -/
def WritesAt (g : Grammar) (calls : List Call) (i : Nat) (x : Cell) (v : x.Value) : Prop :=
  ∃ c, calls[i]? = some c ∧ ((calls.take i).foldl apply g).write? c x = some v

/-- The last one of the calls that writes to the cell writes `v`, or no call writes to it and `v` stood
there before. -/
def LastWrote (g : Grammar) (calls : List Call) (x : Cell) (v : x.Value) : Prop :=
  (∃ i, g.WritesAt calls i x v ∧ ∀ j w, i < j → ¬ g.WritesAt calls j x w) ∨
    g.cell x = v ∧ ∀ i w, ¬ g.WritesAt calls i x w

/-- One more call writes behind the others. -/
lemma writesAt_concat :
    g.WritesAt (calls ++ [c]) i x v ↔
      g.WritesAt calls i x v ∨ i = calls.length ∧ (calls.foldl apply g).write? c x = some v := by
  rcases Nat.lt_trichotomy i calls.length with hi | rfl | hi
  · rw [WritesAt, WritesAt, List.getElem?_append_left hi,
      List.take_append_of_le_length (Nat.le_of_lt hi), or_iff_left fun h => Nat.ne_of_lt hi h.1]
  · simp [WritesAt]
  · have hnone : calls[i]? = none := List.getElem?_eq_none (Nat.le_of_lt hi)
    have hnone' : (calls ++ [c])[i]? = none := List.getElem?_eq_none (by simp; omega)
    rw [or_iff_left fun h => Nat.ne_of_gt hi h.1, WritesAt, WritesAt, hnone, hnone']
    simp only [reduceCtorEq, false_and, exists_false]

/-- The last write to a cell counts. -/
lemma lastWrote_foldl (g : Grammar) (calls : List Call) (x : Cell) :
    g.LastWrote calls x ((calls.foldl apply g).cell x) := by
  induction calls using List.reverseRecOn with
  | nil =>
    refine .inr ⟨rfl, fun i w h => ?_⟩
    obtain ⟨c, hc, -⟩ := h
    cases hc
  | append_singleton calls c ih =>
    rw [List.foldl_concat, cell_apply]
    cases hwrite : (calls.foldl apply g).write? c x with
    | some v =>
      refine .inl ⟨calls.length, writesAt_concat.mpr (.inr ⟨rfl, hwrite⟩), fun j w hj h => ?_⟩
      obtain ⟨d, hd, -⟩ := h
      rw [List.getElem?_eq_none (by simp; omega)] at hd
      cases hd
    | none =>
      -- the call writes nothing, so what was last before it is last behind it
      have hsame : ∀ i w, g.WritesAt (calls ++ [c]) i x w ↔ g.WritesAt calls i x w := fun i w => by
        rw [writesAt_concat, hwrite]
        simp
      simpa only [LastWrote, hsame, Option.getD_none] using ih

/-- A call writes one thing to a cell. -/
lemma WritesAt.unique (hv : g.WritesAt calls i x v) (hw : g.WritesAt calls i x w) : v = w := by
  obtain ⟨c, hc, hv⟩ := hv
  obtain ⟨d, hd, hw⟩ := hw
  obtain rfl := Option.some.inj (hc.symm.trans hd)
  exact Option.some.inj (hv.symm.trans hw)

/-- Only one value was written last. -/
lemma LastWrote.unique (hv : g.LastWrote calls x v) (hw : g.LastWrote calls x w) : v = w := by
  rcases hv with ⟨i, hi, hafter⟩ | ⟨hv, hnone⟩ <;> rcases hw with ⟨j, hj, hafter'⟩ | ⟨hw, hnone'⟩
  · rcases Nat.lt_trichotomy i j with hij | rfl | hij
    · exact absurd hj (hafter j w hij)
    · exact hi.unique hj
    · exact absurd hi (hafter' i v hij)
  · exact absurd hi (hnone' i v)
  · exact absurd hj (hnone j w)
  · exact hv.symm.trans hw

/-- What stands in a cell after some calls is what was written last. -/
lemma lastWrote_iff : g.LastWrote calls x v ↔ (calls.foldl apply g).cell x = v :=
  ⟨(g.lastWrote_foldl calls x).unique, fun h => h ▸ g.lastWrote_foldl calls x⟩

end Grammar
end Highlighter
