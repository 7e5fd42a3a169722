import Highlighter.File.System
import Highlighter.Proofs.File.Path
import Highlighter.Proofs.File.Tree

/-!
# Files in a folder

`Opens` says that a path leads to a folder, and what the folder holds. A file that is stored under a
new name in it is one more entry (`Opens.store`) and can be read (`Opens.contentAt`); making the
folder again changes nothing (`Opens.makeFolders`).
-/

namespace Highlighter.FileSystem

/-- The path leads to a folder with these entries, which stands under these names in the tree. -/
structure Opens (s : FileSystem) (p : Path) (names : List FileName)
    (entries : List (FileName × FileTree)) : Prop where
  nonempty : p.bytes ≠ []
  accepted : refusal? p = none
  resolve : s.tree.resolve (s.origin p) p.pieces = .ok names
  find : s.tree.find names = .ok (.folder entries)

variable {s s' : FileSystem} {p : Path} {names : List FileName} {name : FileName}
  {entries : List (FileName × FileTree)}

/-- A path whose entries are listed leads to a folder with these entries. -/
lemma exists_opens_of_list {listed : List FileName} (h : s.list p = .ok listed) :
    ∃ names entries, s.Opens p names entries ∧ entries.map (·.1) = listed := by
  obtain ⟨t, hat, hlisted⟩ := exists_of_bind_eq_ok h
  obtain ⟨names, hnames, hfind⟩ := exists_of_bind_eq_ok hat
  rw [FileSystem.names] at hnames
  split at hnames
  · exact nomatch hnames
  · rename_i haccepted
    split at hnames
    · exact nomatch hnames
    · rename_i hempty
      cases t with
      | file content => exact nomatch hlisted
      | folder entries =>
        exact ⟨names, entries, ⟨by simpa using hempty, haccepted, hnames, hfind⟩,
          Except.ok.inj hlisted⟩

/-- A path that is not refused is followed from where it begins. -/
lemma names_eq_of_accepted (hp : p.bytes ≠ []) (haccepted : refusal? p = none) :
    s.names p = s.tree.resolve (s.origin p) p.pieces := by
  rw [FileSystem.names, haccepted]
  simp [hp]

/-- The entries of a folder are listed by name. -/
lemma Opens.list (h : s.Opens p names entries) : s.list p = .ok (entries.map (·.1)) := by
  have hnames : s.names p = .ok names :=
    (names_eq_of_accepted h.nonempty h.accepted).trans h.resolve
  have hat : s.at? p = .ok (.folder entries) := by
    rw [at?, hnames]
    exact h.find
  rw [FileSystem.list, hat]
  rfl

/-- A name as a file can have it: it has no slash and is not one that leads somewhere else. -/
def Proper (name : FileName) : Prop :=
  Path.slash ∉ name ∧ Path.isHere name = false ∧ Path.isUp name = false

/-- Neither the name is too long nor the path of it in the folder. -/
def Fits (p : Path) (name : FileName) : Prop :=
  refusal? (p.join name) = none ∧ name.length ≤ FileTree.longestName

/-- A proper name in a folder leads one step further. -/
lemma Opens.names_join (h : s.Opens p names entries) (hname : Proper name)
    (haccepted : refusal? (p.join name) = none) :
    s.names (p.join name) = .ok (names ++ [name]) := by
  obtain ⟨hslash, hhere, hup⟩ := hname
  obtain ⟨above, habove, -, hjoin⟩ := Path.pieces_join h.nonempty hslash
  have hresolve : s.tree.resolve (s.origin p) above = .ok names := by
    have hp := h.resolve
    -- a slash at the end of the folder leaves an empty part, which leads nowhere else
    rcases habove with rfl | hpieces
    · exact hp
    · rw [hpieces, FileTree.resolve_append] at hp
      obtain ⟨found, hfound, hp⟩ := exists_of_bind_eq_ok hp
      have hlast := (FileTree.resolve_cons_eq_ok.mp hp).2
      rw [if_neg (by decide), FileTree.resolve, List.reverse_reverse] at hlast
      rw [hfound, Except.ok.inj hlast]
  have horigin : s.origin (p.join name) = s.origin p := by
    rw [origin, Path.isAbsolute_join h.nonempty, origin]
  rw [names_eq_of_accepted (Path.bytes_join_ne_nil h.nonempty name) haccepted, hjoin, horigin,
    FileTree.resolve_append, hresolve]
  refine FileTree.resolve_cons_eq_ok.mpr ?_
  rw [hhere, hup, if_neg (by decide), FileTree.resolve, List.reverse_cons, List.reverse_reverse]

/-- The folder of a name in a folder that is there need not be made. -/
lemma Opens.makeFolders (h : s.Opens p names entries) (hname : Proper name) :
    ∃ q, (p.join name).parent? = some q ∧ ∀ {s'}, s.makeFolders q = .ok s' → s' = s := by
  obtain ⟨q, hq, habsolute, hsteps⟩ := Path.parent?_join h.nonempty hname.1 hname.2.1
  refine ⟨q, hq, fun {s'} hmade => ?_⟩
  have horigin : s.origin q = s.origin p := by
    rw [origin, habsolute, origin]
  have hmake := FileTree.makeAlong_eq_self h.resolve ⟨entries, h.find⟩
  rw [FileSystem.makeFolders] at hmade
  split at hmade
  · exact nomatch hmade
  · simp only [horigin, hsteps, hmake] at hmade
    exact (Except.ok.inj hmade).symm

/-- A file that is stored under a new name is the last entry of its folder. -/
lemma Opens.store (h : s.Opens p names entries) (hname : Proper name)
    {content : Bytes} (hnew : entries.lookup name = none)
    (hstore : s.store (p.join name) content = .ok s') :
    s'.Opens p names (entries ++ [(name, .file content)]) ∧ Fits p name := by
  rw [FileSystem.store] at hstore
  split at hstore
  · obtain ⟨_, -, hstore⟩ := exists_of_bind_eq_ok hstore
    exact nomatch hstore
  · obtain ⟨found, hfound, hstore⟩ := exists_of_bind_eq_ok hstore
    obtain ⟨t, hput, hs'⟩ := exists_of_bind_eq_ok hstore
    obtain rfl := Except.ok.inj hs'
    -- the path was followed, so it was not refused
    have haccepted : refusal? (p.join name) = none := by
      rw [FileSystem.names] at hfound
      split at hfound
      · exact nomatch hfound
      · assumption
    rw [h.names_join hname haccepted] at hfound
    obtain rfl := Except.ok.inj hfound
    -- the file was stored, so there was no folder in its place
    have hplace : FileTree.place (.file content) (names ++ [name]) s.tree = .ok t := by
      rw [FileTree.put] at hput
      split at hput
      · exact nomatch hput
      · exact hput
      · exact hput
      · exact nomatch hput
    obtain ⟨hfind, hlength, hkept⟩ := FileTree.find_place h.find hnew hplace
    exact ⟨⟨h.nonempty, h.accepted, FileTree.resolve_of_kept hkept h.resolve, hfind⟩, haccepted,
      hlength⟩

/-- A file of a folder has the content of its entry. -/
lemma Opens.contentAt (h : s.Opens p names entries) (hname : Proper name) {content : Bytes}
    (hfile : entries.lookup name = some (.file content)) (hfits : Fits p name) :
    s.contentAt (p.join name) = .ok content := by
  obtain ⟨haccepted, hlength⟩ := hfits
  have hat : s.at? (p.join name) = .ok (.file content) := by
    rw [at?, h.names_join hname haccepted]
    change s.tree.find (names ++ [name]) = _
    rw [FileTree.find_append, h.find]
    refine FileTree.find_cons_eq_ok.mpr ⟨.file content, ?_, rfl⟩
    rw [FileTree.entry, if_neg (Nat.not_lt.mpr hlength), hfile]
  rw [FileSystem.contentAt, hat]
  rfl

end Highlighter.FileSystem
