import Mathlib.Tactic.Lemma
import Highlighter.File.Tree

/-!
# Folders stay where they are

A file that is put into a folder under a new name comes last in it, and every folder of the tree is
still there (`FileTree.find_place`). So a path that led to a folder before leads there still
(`FileTree.resolve_of_kept`). Where a path leads to a folder there is nothing to make along it
(`FileTree.makeAlong_eq_self`).
-/

namespace Highlighter

/-- A computation that gave a result has not failed on the way. -/
lemma exists_of_bind_eq_ok {ε α β : Type} {x : Except ε α} {f : α → Except ε β} {b : β}
    (h : x >>= f = .ok b) : ∃ a, x = .ok a ∧ f a = .ok b := by
  cases x with
  | error e => exact nomatch h
  | ok a => exact ⟨a, rfl, h⟩

namespace FileTree

variable {t t' : FileTree} {names names' : List FileName} {name : FileName}
  {entries : List (FileName × FileTree)}

/-- Names are followed one after the other. -/
lemma find_append (names names' : List FileName) (t : FileTree) :
    t.find (names ++ names') = t.find names >>= find names' := by
  induction names generalizing t with
  | nil => rfl
  | cons name names ih =>
    cases t with
    | file content => rfl
    | folder entries =>
      rw [List.cons_append, find, find]
      cases entry entries name with
      | error e => rfl
      | ok t => exact ih t

/-- Under the names there is a folder. -/
def IsFolderAt (t : FileTree) (names : List FileName) : Prop :=
  ∃ entries, t.find names = .ok (folder entries)

/-- What is above a folder is a folder. -/
lemma IsFolderAt.of_append (h : t.IsFolderAt (names ++ [name])) : t.IsFolderAt names := by
  obtain ⟨entries, h⟩ := h
  rw [find_append] at h
  obtain ⟨above, habove, h⟩ := exists_of_bind_eq_ok h
  cases above with
  | file content => exact nomatch h
  | folder entries' => exact ⟨entries', habove⟩

/-- The parts of a path are resolved one after the other. -/
lemma resolve_append (above : List FileName) (pieces pieces' : List Bytes) :
    t.resolve above (pieces ++ pieces') =
      t.resolve above pieces >>= fun names => t.resolve names.reverse pieces' := by
  induction pieces generalizing above with
  | nil =>
    rw [List.nil_append, resolve]
    change _ = t.resolve above.reverse.reverse pieces'
    rw [List.reverse_reverse]
  | cons piece pieces ih =>
    rw [List.cons_append, resolve, resolve]
    split
    · split
      · rfl
      · rfl
      · exact ih _
    · exact ih _

/-- A part that leads nowhere new needs a folder to be read in. -/
lemma resolve_cons_eq_ok {above : List FileName} {piece : Bytes} {pieces : List Bytes} :
    t.resolve above (piece :: pieces) = .ok names ↔
      if Path.isHere piece || Path.isUp piece then
        t.IsFolderAt above.reverse ∧
          t.resolve (if Path.isUp piece then above.tail else above) pieces = .ok names
      else t.resolve (piece :: above) pieces = .ok names := by
  rw [resolve]
  split
  · split
    · rename_i hfind
      exact ⟨nofun, fun ⟨⟨_, h⟩, _⟩ => nomatch hfind.symm.trans h⟩
    · rename_i hfind
      exact ⟨nofun, fun ⟨⟨_, h⟩, _⟩ => nomatch hfind.symm.trans h⟩
    · rename_i hfind
      exact ⟨fun h => ⟨⟨_, hfind⟩, h⟩, And.right⟩
  · exact Iff.rfl

/-- Every folder that a path goes through is there. -/
lemma isFolderAt_of_resolve {above : List FileName} {pieces : List Bytes}
    (h : t.resolve above pieces = .ok names) (hnames : t.IsFolderAt names) :
    t.IsFolderAt above.reverse := by
  induction pieces generalizing above with
  | nil => rwa [Except.ok.inj h]
  | cons piece pieces ih =>
    rw [resolve_cons_eq_ok] at h
    split at h
    · exact h.1
    · have hpiece := ih h
      rw [List.reverse_cons] at hpiece
      exact hpiece.of_append

/-- A path goes the same way in a tree that has all folders of the other one. -/
lemma resolve_of_kept {above : List FileName} {pieces : List Bytes}
    (hkept : ∀ {names'}, t.IsFolderAt names' → t'.IsFolderAt names')
    (h : t.resolve above pieces = .ok names) : t'.resolve above pieces = .ok names := by
  induction pieces generalizing above with
  | nil => exact h
  | cons piece pieces ih =>
    rw [resolve_cons_eq_ok] at h ⊢
    split
    · rename_i hstep
      rw [if_pos hstep] at h
      exact ⟨hkept h.1, ih h.2⟩
    · rename_i hstep
      rw [if_neg hstep] at h
      exact ih h

/-- Nothing is made along a path that leads to a folder. -/
lemma makeAlong_eq_self {above : List FileName} {pieces : List Bytes}
    (h : t.resolve above pieces = .ok names) (hnames : t.IsFolderAt names) :
    t.makeAlong false above (pieces.filter fun piece => !Path.isHere piece) = .ok t := by
  induction pieces generalizing above with
  | nil => rfl
  | cons piece pieces ih =>
    rw [resolve_cons_eq_ok] at h
    cases hhere : Path.isHere piece with
    | true =>
      -- a part that names nothing was left out of the path
      have hup : Path.isUp piece = false := by
        simp only [Path.isHere, Bool.or_eq_true, List.isEmpty_iff, beq_iff_eq] at hhere
        rcases hhere with rfl | rfl <;> decide
      rw [List.filter_cons_of_neg (by simp [hhere])]
      simp only [hhere, hup] at h
      exact ih h.2
    | false =>
      rw [List.filter_cons_of_pos (by simp [hhere]), makeAlong]
      cases hup : Path.isUp piece with
      | true =>
        simp only [hhere, hup] at h
        exact ih h.2
      | false =>
        simp only [hhere, hup] at h
        obtain ⟨entries', hpiece⟩ := isFolderAt_of_resolve h hnames
        simp only [hpiece]
        exact ih h

/-- An entry is found by its name among entries of different names. -/
lemma lookup_eq_some_of_mem (hnodup : (entries.map (·.1)).Nodup) (h : (name, t) ∈ entries) :
    entries.lookup name = some t := by
  obtain ⟨before, after, rfl⟩ := List.append_of_mem h
  refine List.lookup_eq_some_iff.mpr ⟨before, after, rfl, fun e he => bne_iff_ne.mpr fun heq => ?_⟩
  rw [List.map_append, List.map_cons] at hnodup
  exact (List.nodup_append.mp hnodup).2.2 _ (List.mem_map_of_mem he) _ List.mem_cons_self heq.symm

/-- Replacing the entries of a name changes what is found under that name only. -/
lemma lookup_map_entry (new : FileTree) (k : FileName) :
    (entries.map fun e => if e.1 = name then (name, new) else e).lookup k =
      if k = name then (entries.lookup name).map fun _ => new else entries.lookup k := by
  induction entries with
  | nil => simp
  | cons e entries ih =>
    obtain ⟨key, t⟩ := e
    rw [List.map_cons, List.lookup_cons]
    by_cases hkey : key = name
    · subst hkey
      by_cases hk : k = key
      · simp [hk]
      · simpa [List.lookup_cons, beq_false_of_ne hk, hk] using ih
    · rw [if_neg hkey, List.lookup_cons, List.lookup_cons, ih,
        beq_false_of_ne (Ne.symm hkey)]
      by_cases hk : k = key
      · simp [hk, hkey]
      · simp [beq_false_of_ne hk]

/-- An entry that is set is found under its name, and the others as before. -/
lemma lookup_setEntry (entries : List (FileName × FileTree)) (name : FileName) (new : FileTree)
    (k : FileName) :
    (setEntry entries name new).lookup k = if k = name then some new else entries.lookup k := by
  have hany : entries.any (·.1 == name) = (entries.lookup name).isSome := by
    induction entries with
    | nil => rfl
    | cons e entries ih =>
      rw [List.any_cons, List.lookup_cons, ih, BEq.comm]
      cases name == e.1 <;> rfl
  simp only [setEntry, hany, beq_iff_eq]
  cases h : entries.lookup name with
  | some old =>
    rw [Option.isSome_some, if_pos rfl, lookup_map_entry, h]
    rfl
  | none =>
    rw [Option.isSome_none, if_neg Bool.false_ne_true, List.lookup_append, List.lookup_cons]
    by_cases hk : k = name
    · simp [hk, h]
    · simp [hk, beq_false_of_ne hk]

/-- An entry of a new name comes last. -/
lemma setEntry_of_lookup_none (h : entries.lookup name = none) (new : FileTree) :
    setEntry entries name new = entries ++ [(name, new)] := by
  rw [setEntry, if_neg]
  rw [List.lookup_eq_none_iff] at h
  simp only [List.any_eq_true, beq_iff_eq, not_exists, not_and]
  rintro e he rfl
  simpa using h e he

/-- Under other names there is what there was. -/
lemma entry_setEntry_of_ne {k : FileName} (h : k ≠ name) (new : FileTree) :
    entry (setEntry entries name new) k = entry entries k := by
  rw [entry, lookup_setEntry, if_neg h, entry]

/-- Under its own name there is the entry that was set, unless the name is too long. -/
lemma entry_setEntry_self (h : name.length ≤ longestName) (new : FileTree) :
    entry (setEntry entries name new) name = .ok new := by
  rw [entry, lookup_setEntry, if_pos rfl, if_neg (Nat.not_lt.mpr h)]

/-- Nothing is found under a name that is too long. -/
lemma length_le_of_entry (h : entry entries name = .ok t) : name.length ≤ longestName := by
  rw [entry] at h
  split at h
  · exact nomatch h
  · rename_i hlength
    exact Nat.le_of_not_gt hlength

/-- To follow names is to enter the first and to follow the others from there. -/
lemma find_cons_eq_ok : find (name :: names) (folder entries) = .ok t ↔
    ∃ inner, entry entries name = .ok inner ∧ inner.find names = .ok t := by
  rw [find]
  cases entry entries name with
  | error e => exact ⟨nofun, nofun⟩
  | ok inner => exact ⟨fun h => ⟨inner, rfl, h⟩, fun ⟨_, h, ht⟩ => Except.ok.inj h ▸ ht⟩

/-- There is a folder under the names if there is one under the others in what the first names. -/
lemma isFolderAt_cons : (folder entries).IsFolderAt (name :: names) ↔
    ∃ inner, entry entries name = .ok inner ∧ inner.IsFolderAt names := by
  simp only [IsFolderAt, find_cons_eq_ok]
  exact ⟨fun ⟨_, inner, h, ht⟩ => ⟨inner, h, _, ht⟩, fun ⟨inner, h, _, ht⟩ => ⟨_, inner, h, ht⟩⟩

/-- To place something under names is to place it in what the first names. -/
lemma place_cons_eq_ok {new : FileTree} (hnames : names ≠ []) :
    place new (name :: names) (folder entries) = .ok t ↔
      ∃ inner inner', entry entries name = .ok inner ∧ place new names inner = .ok inner' ∧
        folder (setEntry entries name inner') = t := by
  rw [place]
  · cases entry entries name with
    | error e => exact ⟨nofun, nofun⟩
    | ok inner =>
      cases hplace : place new names inner <;>
        simp [hplace, bind, Except.bind, pure, Except.pure]
  · exact hnames

/-- A folder keeps its folders when one entry gives way to another that has the same ones. -/
lemma isFolderAt_setEntry {new : FileTree} (hname : name.length ≤ longestName)
    (hnew : ∀ old, entry entries name = .ok old →
      ∀ {names}, old.IsFolderAt names → new.IsFolderAt names)
    (h : (folder entries).IsFolderAt names) :
    (folder (setEntry entries name new)).IsFolderAt names := by
  cases names with
  | nil => exact ⟨_, rfl⟩
  | cons k names =>
    obtain ⟨old, hold, hfolder⟩ := isFolderAt_cons.mp h
    rw [isFolderAt_cons]
    by_cases hk : k = name
    · subst hk
      exact ⟨new, entry_setEntry_self hname new, hnew old hold hfolder⟩
    · exact ⟨old, (entry_setEntry_of_ne hk new).trans hold, hfolder⟩

/-- What is put under a name that is new in a folder comes last there, and no folder is lost. -/
lemma find_place {new : FileTree} (hfind : t.find names = .ok (folder entries))
    (hname : entries.lookup name = none) (h : place new (names ++ [name]) t = .ok t') :
    t'.find names = .ok (folder (entries ++ [(name, new)])) ∧ name.length ≤ longestName ∧
      ∀ {names'}, t.IsFolderAt names' → t'.IsFolderAt names' := by
  induction names generalizing t t' with
  | nil =>
    -- in the folder itself
    obtain rfl := Except.ok.inj hfind
    rw [List.nil_append, place] at h
    split at h
    · exact nomatch h
    · rename_i hlength
      have hlength := Nat.le_of_not_gt hlength
      obtain rfl := Except.ok.inj h
      refine ⟨?_, hlength, fun h => isFolderAt_setEntry hlength (fun old hold => ?_) h⟩
      · rw [find, setEntry_of_lookup_none hname]
      · rw [entry, hname, if_neg (Nat.not_lt.mpr hlength)] at hold
        exact nomatch hold
  | cons first names ih =>
    cases t with
    | file content => exact nomatch hfind
    | folder outer =>
      obtain ⟨inner, hinner, hfind⟩ := find_cons_eq_ok.mp hfind
      obtain ⟨old, inner', hold, hplace, rfl⟩ :=
        (place_cons_eq_ok (List.append_ne_nil_of_right_ne_nil _ (by simp))).mp h
      obtain rfl := Except.ok.inj (hinner.symm.trans hold)
      -- the tree is changed inside the entry that the first name leads to
      obtain ⟨hfind', hlength, hkept⟩ := ih hfind hplace
      have hfirst := length_le_of_entry hinner
      refine ⟨find_cons_eq_ok.mpr ⟨inner', entry_setEntry_self hfirst inner', hfind'⟩, hlength,
        fun h => isFolderAt_setEntry hfirst (fun old' hold' => ?_) h⟩
      obtain rfl := Except.ok.inj (hold.symm.trans hold')
      exact hkept

end FileTree

end Highlighter
