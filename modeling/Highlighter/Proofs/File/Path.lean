import Mathlib.Data.List.Induction
import Mathlib.Data.List.TakeWhile
import Highlighter.File.Path

/-!
# Parts of paths

The path of a name in a folder has the parts of the folder's path and the name behind them
(`pieces_join`). The folder that such a path is in is the one that the name was put behind
(`parent?_join`).
-/

namespace Highlighter.Path

variable {p : Path} {name : FileName}

/-- Every path has a part, if only an empty one. -/
lemma pieces_ne_nil (p : Path) : p.pieces ≠ [] := List.splitOn_ne_nil _ _

/-- No part of a path has a slash in it. -/
lemma slash_not_mem {piece : Bytes} (h : piece ∈ p.pieces) : slash ∉ piece := by
  obtain ⟨bytes⟩ := p
  change piece ∈ bytes.splitOn slash at h
  -- induction on the bytes: a slash begins a new part, and any other byte joins the first one
  induction bytes generalizing piece with
  | nil =>
    rw [List.splitOn_nil, List.mem_singleton] at h
    rw [h]
    exact List.not_mem_nil
  | cons b bytes ih =>
    rw [List.splitOn_cons_eq_if_modifyHead] at h
    split at h
    · rcases List.mem_cons.mp h with rfl | h
      · exact List.not_mem_nil
      · exact ih h
    · rename_i hb
      rw [beq_iff_eq] at hb
      cases hsplit : bytes.splitOn slash with
      | nil => exact absurd hsplit (List.splitOn_ne_nil _ _)
      | cons first pieces =>
        rw [hsplit, List.modifyHead_cons] at h
        rw [hsplit] at ih
        rcases List.mem_cons.mp h with rfl | h
        · exact List.not_mem_cons_of_ne_of_not_mem (Ne.symm hb) (ih List.mem_cons_self)
        · exact ih (List.mem_cons_of_mem _ h)

/-- Parts without slashes are those of the path that they make. -/
lemma pieces_ofPieces {pieces : List Bytes} (h : ∀ piece ∈ pieces, slash ∉ piece)
    (hne : pieces ≠ []) : (ofPieces pieces).pieces = pieces :=
  List.splitOn_intercalate slash h hne

/-- A path begins at the root if it has more than one part and the first one is empty. -/
lemma isAbsolute_iff : p.isAbsolute ↔ ∃ piece pieces, p.pieces = [] :: piece :: pieces := by
  obtain ⟨bytes⟩ := p
  rw [isAbsolute, beq_iff_eq, pieces]
  cases bytes with
  | nil => simp
  | cons b bytes =>
    rw [List.splitOn_cons_eq_if_modifyHead, List.head?_cons, Option.some.injEq]
    obtain ⟨first, pieces, hsplit⟩ := List.exists_cons_of_ne_nil (List.splitOn_ne_nil slash bytes)
    rw [hsplit]
    split
    · rename_i hb
      exact ⟨fun _ => ⟨_, _, rfl⟩, fun _ => beq_iff_eq.mp hb⟩
    · rename_i hb
      rw [beq_iff_eq] at hb
      exact ⟨fun h => absurd h hb, nofun⟩

/-- The parts of the path of a name in a folder. A slash at the end of the folder's path makes an
empty part there, and none here. -/
lemma pieces_join (hp : p.bytes ≠ []) (hname : slash ∉ name) :
    ∃ above, (p.pieces = above ∨ p.pieces = above ++ [[]]) ∧ above ≠ [] ∧
      (p.join name).pieces = above ++ [name] := by
  rw [join]
  split
  · rename_i hslash
    have hlast : p.bytes.getLast? = some slash := by
      simpa [hp] using hslash
    obtain ⟨bytes, hbytes⟩ := List.getLast?_eq_some_iff.mp hlast
    refine ⟨bytes.splitOn slash, .inr ?_, List.splitOn_ne_nil _ _, ?_⟩
    · rw [pieces, hbytes, List.splitOn_append_cons_self, List.splitOn_nil]
    · rw [pieces, hbytes, List.append_assoc, List.singleton_append, List.splitOn_append_cons_self,
        List.splitOn_eq_singleton hname]
  · refine ⟨p.pieces, .inl rfl, p.pieces_ne_nil, ?_⟩
    rw [pieces, List.splitOn_append_cons_self, List.splitOn_eq_singleton hname, pieces]

/-- The path of a name in a folder is not empty. -/
lemma bytes_join_ne_nil (hp : p.bytes ≠ []) (name : FileName) : (p.join name).bytes ≠ [] := by
  rw [join]
  split <;> exact List.append_ne_nil_of_left_ne_nil hp _

/-- The path of a name in a folder begins where that of the folder does. -/
lemma isAbsolute_join (hp : p.bytes ≠ []) (name : FileName) :
    (p.join name).isAbsolute = p.isAbsolute := by
  obtain ⟨b, bytes, hbytes⟩ := List.exists_cons_of_ne_nil hp
  rw [join, isAbsolute, isAbsolute]
  split <;> simp [hbytes]

/-- Parts with one more behind them begin as they did, and have a second one. -/
lemma exists_concat_eq_iff {pieces : List Bytes} {first last : Bytes} :
    (∃ second rest, pieces ++ [last] = first :: second :: rest) ↔ pieces.head? = some first := by
  cases pieces with
  | nil => simp
  | cons piece pieces =>
    obtain ⟨second, rest, hrest⟩ := List.exists_cons_of_ne_nil (List.concat_ne_nil last pieces)
    simp [hrest]

/-- The parts that name something of their own. -/
abbrev steps (p : Path) : List Bytes := p.pieces.filter fun piece => !isHere piece

/-- Where no part names anything, nothing is left to follow. -/
lemma filter_eq_nil_of_isHere {pieces : List Bytes} (h : ∀ piece ∈ pieces, isHere piece) :
    (pieces.filter fun piece => !isHere piece) = [] :=
  List.filter_eq_nil_iff.mpr fun piece hpiece => by simp [h piece hpiece]

/-- Unless no part names anything, there is a last one that does. -/
lemma exists_last_step {pieces : List Bytes} (h : ¬ ∀ piece ∈ pieces, isHere piece) :
    ∃ before last after, pieces = before ++ [last] ++ after ∧ isHere last = false ∧
      ∀ piece ∈ after, isHere piece := by
  induction pieces using List.reverseRecOn with
  | nil => exact absurd (List.forall_mem_nil _) h
  | append_singleton pieces piece ih =>
    cases hpiece : isHere piece with
    | false => exact ⟨pieces, piece, [], by simp, hpiece, List.forall_mem_nil _⟩
    | true =>
      obtain ⟨before, last, after, rfl, hlast, hafter⟩ := ih fun hpieces =>
        h (List.forall_mem_append.mpr ⟨hpieces, List.forall_mem_singleton.mpr hpiece⟩)
      exact ⟨before, last, after ++ [piece], List.append_assoc _ _ _, hlast,
        List.forall_mem_append.mpr ⟨hafter, List.forall_mem_singleton.mpr hpiece⟩⟩

/-- The parent of a name behind parts that name nothing is the root or the current folder. -/
lemma parent?_of_here {first : Bytes} {rest : List Bytes}
    (hpieces : p.pieces = first :: rest ++ [name]) (hname : isHere name = false)
    (hhere : ∀ piece ∈ first :: rest, isHere piece) :
    p.parent? = some (if first.isEmpty then ⟨[slash]⟩ else ⟨[dot]⟩) := by
  have hdrop : (first :: rest).reverse.dropWhile isHere = [] := by
    rw [List.dropWhile_eq_nil_iff]
    exact fun piece hpiece => hhere piece (List.mem_reverse.mp hpiece)
  rw [parent?, hpieces, List.reverse_append, List.reverse_singleton, List.singleton_append,
    List.dropWhile_cons_of_neg (by simp [hname])]
  simp only [hdrop, List.getLast?_reverse, List.head?_cons]
  exact (apply_ite some _ _ _).symm

/-- The parent of a name is the path through the last part before it that names something. -/
lemma parent?_of_step {before after : List Bytes} {last : Bytes}
    (hpieces : p.pieces = before ++ [last] ++ after ++ [name]) (hname : isHere name = false)
    (hlast : isHere last = false) (hafter : ∀ piece ∈ after, isHere piece) :
    p.parent? = some (ofPieces (before ++ [last])) := by
  have hdrop : (before ++ [last] ++ after).reverse.dropWhile isHere =
      (before ++ [last]).reverse := by
    rw [List.reverse_append, List.dropWhile_append_of_pos, List.reverse_concat]
    · exact List.dropWhile_cons_of_neg (by simp [hlast])
    · exact fun piece hpiece => hafter piece (List.mem_reverse.mp hpiece)
  rw [parent?, hpieces, @List.reverse_append _ _ [name], List.reverse_singleton,
    List.singleton_append, List.dropWhile_cons_of_neg (by simp [hname])]
  simp only [hdrop, List.reverse_reverse]
  simp

/-- The folder of a name is the one whose path it was put behind, but for parts that name what is
before them. -/
lemma parent?_join (hp : p.bytes ≠ []) (hslash : slash ∉ name) (hname : isHere name = false) :
    ∃ q, (p.join name).parent? = some q ∧ q.isAbsolute = p.isAbsolute ∧ q.steps = p.steps := by
  obtain ⟨above, habove, hne, hjoin⟩ := pieces_join hp hslash
  -- `above` is what stands in front of the name: the parts of the folder, without an empty one at
  -- its end
  have hsteps : p.steps = above.filter fun piece => !isHere piece := by
    rcases habove with h | h <;> simp [steps, h, isHere]
  have habsolute : p.isAbsolute ↔ above.head? = some [] := by
    rw [← isAbsolute_join hp name, isAbsolute_iff, hjoin, exists_concat_eq_iff]
  by_cases hhere : ∀ piece ∈ above, isHere piece
  -- no part in front of the name names anything: the parent is the root or the current folder
  · obtain ⟨first, rest, rfl⟩ := List.exists_cons_of_ne_nil hne
    refine ⟨_, parent?_of_here hjoin hname hhere, ?_⟩
    rw [hsteps, filter_eq_nil_of_isHere hhere, Bool.eq_iff_iff, habsolute, List.head?_cons,
      Option.some.injEq]
    by_cases hfirst : first = []
    · rw [hfirst]
      decide
    · rw [if_neg (by simpa using hfirst)]
      exact ⟨⟨fun h => absurd h (by decide), fun h => absurd h hfirst⟩, by decide⟩
  -- the last part that names something ends the path of the parent
  · obtain ⟨before, last, after, rfl, hlast, hafter⟩ := exists_last_step hhere
    have hpieces : (ofPieces (before ++ [last])).pieces = before ++ [last] := by
      refine pieces_ofPieces (fun piece hpiece => ?_) (by simp)
      refine slash_not_mem (p := p.join name) ?_
      rw [hjoin, List.append_assoc]
      exact List.mem_append_left _ hpiece
    refine ⟨_, parent?_of_step hjoin hname hlast hafter, ?_, ?_⟩
    · have hlast' : last ≠ [] := by
        rintro rfl
        exact absurd hlast (by decide)
      rw [Bool.eq_iff_iff, habsolute, isAbsolute_iff, hpieces, exists_concat_eq_iff]
      cases before with
      | nil => simp [hlast']
      | cons first before => rfl
    · rw [hsteps, steps, hpieces, List.filter_append _ after, filter_eq_nil_of_isHere hafter,
        List.append_nil]

end Highlighter.Path
