import Mathlib.Data.List.Sort
import Highlighter.Registry.Folder
import Highlighter.Program.World
import Highlighter.Proofs.Document.RoundTrip
import Highlighter.Proofs.Registry.Registrations

/-!
# Loading the grammars of a folder

What becomes of a registry when a folder is loaded into it, in terms of what the host shows of the
folder (`Host.Shows`): the listing and the contents. A program on a registry is taken apart by
`runOn_bind`; a file registers the grammar in it or nothing (`run_loadFile`), and the files are gone
through in one order, however the folder lists them (`grammarFiles_eq`). Main statement:
`loadInto_of_shows`.
-/

namespace Highlighter

variable {σ α β : Type} {s s' : σ} {a : α}

/-- The listing of a folder with these names, all of which can be read. -/
def readable (names : List FileName) : Except FileError (List (Except FileError FileName)) :=
  .ok (names.map .ok)

/-- In the state `s`, the folder has this listing and its files have these contents, and looking at
them leaves the state as it is. -/
structure Host.Shows [Host (StateM σ)] (s : σ) (folder : Path)
    (listing : Except FileError (List (Except FileError FileName)))
    (content : FileName → Except FileError Bytes) : Prop where
  listFolder : (Host.listFolder folder : StateM σ _).run s = (listing, s)
  contentAt : ∀ name, (Host.contentAt (folder.join name) : StateM σ _).run s = (content name, s)

/-- A world shows each folder of its file system. -/
lemma World.shows (w : World) (folder : Path) :
    Host.Shows w folder ((w.files.list folder).map fun names => names.map .ok)
      (fun name => w.files.contentAt (folder.join name)) :=
  ⟨rfl, fun _ => rfl⟩

namespace Program

/-- What a program does to a registry and to its host. -/
abbrev runOn (p : Program (StateT Registry (StateM σ)) α) (r : Registry) (s : σ) :
    (Except Report α × Registry) × σ :=
  StateT.run (StateT.run (ExceptT.run p) r) s

/-- One program after another: the second runs unless the first reports an error. -/
lemma runOn_bind (p : Program (StateT Registry (StateM σ)) α)
    (f : α → Program (StateT Registry (StateM σ)) β) (r : Registry) (s : σ) :
    runOn (p >>= f) r s =
      match runOn p r s with
      | ((.ok a, r'), s') => runOn (f a) r' s'
      | ((.error report, r'), s') => ((.error report, r'), s') := by
  change (let y := runOn p r s; StateT.run (StateT.run (ExceptT.bindCont f y.1.1) y.1.2) y.2) = _
  match runOn p r s with
  | ((.ok a, r'), s') => rfl
  | ((.error report, r'), s') => rfl

/-- What the host does leaves the registry as it is. -/
lemma run_lift_bind {x : StateM σ α} (h : x.run s = (a, s')) (f : α → StateT Registry (StateM σ) β)
    (r : Registry) : ((liftM x >>= f).run r).run s = ((f a).run r).run s' := by
  change (let y := x.run s; ((f y.1).run r).run y.2) = _
  rw [h]

/-- A step of the host leaves the registry as it is and reports what goes wrong. -/
lemma runOn_orReport {x : StateM σ (Except FileError α)} {result : Except FileError α}
    (h : x.run s = (result, s')) (headline : String) (r : Registry) :
    runOn (orReport headline (liftM x)) r s =
      ((result.mapError fun e => ⟨headline, [e.message]⟩, r), s') := by
  have hlift : runOn (liftM (liftM x : StateT Registry (StateM σ) _)) r s =
      ((.ok result, r), s') := by
    change (let y := x.run s; ((Except.ok y.1, r), y.2)) = _
    rw [h]
  rw [orReport, runOn_bind, hlift]
  cases result <;> rfl

/-- The file of a sound grammar holds that grammar. -/
lemma grammarIn?_toText {g : Grammar} (hkeyed : g.keywords.Keyed) (hsound : g.defect? = none) :
    grammarIn? (.ok (Utf8.ofString g.toText)) = some g := by
  have hread : Grammar.ofBytes (Utf8.ofString g.toText) = .ok g :=
    Grammar.ofBytes_eq_ok_iff.mpr
      ⟨Document.ofGrammar g, Document.parse?_toJson _, Document.toGrammar_ofGrammar hkeyed hsound⟩
  rw [grammarIn?, Except.toOption, Option.bind_some, hread]
  rfl

/-- The grammars that the files hold, in order. -/
def grammarsIn (content : FileName → Except FileError Bytes) (files : List FileName) :
    List Grammar :=
  files.filterMap fun name => grammarIn? (content name)

/-- The registry with grammars that bring no extensions. -/
def registerGrammars (r : Registry) (gs : List Grammar) : Registry :=
  r.registerEach (gs.map fun g => (g, []))

/-- Two lists of grammars are entered one after the other. -/
lemma registerGrammars_append (r : Registry) (gs gs' : List Grammar) :
    registerGrammars r (gs ++ gs') = registerGrammars (registerGrammars r gs) gs' := by
  simp [registerGrammars, Registry.registerEach]

variable [Host (StateM σ)] {folder : Path} {r : Registry} {names : List FileName}
  {listing : Except FileError (List (Except FileError FileName))}
  {content : FileName → Except FileError Bytes}

/-- Loading a file enters the grammar in it, if it holds one. -/
lemma run_loadFile {p : Path} {found : Except FileError Bytes}
    (h : (Host.contentAt p : StateM σ _).run s = (found, s)) (r : Registry) :
    ((loadFile (m := StateM σ) p).run r).run s =
      (((grammarIn? found).toList.length, registerGrammars r (grammarIn? found).toList), s) := by
  rw [loadFile, run_lift_bind h]
  cases grammarIn? found <;> rfl

/-- Loading files enters the grammars in them, in order, and counts them. -/
lemma run_loadFiles (h : Host.Shows s folder listing content) (files : List FileName)
    (r : Registry) :
    ((loadFiles (m := StateM σ) (files.map folder.join)).run r).run s =
      (((grammarsIn content files).length, registerGrammars r (grammarsIn content files)), s) := by
  induction files generalizing r with
  | nil => rfl
  | cons name files ih =>
    have hgrammars : grammarsIn content (name :: files) =
        (grammarIn? (content name)).toList ++ grammarsIn content files := by
      cases hg : grammarIn? (content name) <;> simp [grammarsIn, hg]
    rw [List.map_cons, loadFiles]
    change (let y := ((loadFile (m := StateM σ) (folder.join name)).run r).run s
      let z := ((loadFiles (m := StateM σ) (files.map folder.join)).run y.1.2).run y.2
      ((y.1.1 + z.1.1, z.1.2), z.2)) = _
    simp only [run_loadFile (h.contentAt name), ih, hgrammars, registerGrammars_append,
      List.length_append]

/-- A listing in which every name can be read is read. -/
lemma mapM_id_map_ok (names : List FileName) :
    (names.map (Except.ok (ε := FileError))).mapM id = .ok names := by
  induction names with
  | nil => rfl
  | cons name names ih => rw [List.map_cons, List.mapM_cons, ih]; rfl

/-- A listing that is read has only names that can be read. -/
lemma eq_map_of_mapM_id {found : List (Except FileError FileName)} (h : found.mapM id = .ok names) :
    found = names.map .ok := by
  induction found generalizing names with
  | nil =>
    obtain rfl := Except.ok.inj h
    rfl
  | cons entry found ih =>
    rw [List.mapM_cons] at h
    cases entry with
    | error e => exact nomatch h
    | ok name =>
      cases hfound : found.mapM id with
      | error e =>
        rw [hfound] at h
        exact nomatch h
      | ok later =>
        rw [hfound] at h
        obtain rfl := Except.ok.inj h
        rw [ih hfound, List.map_cons]

/-- A folder whose names can all be read is gone through. -/
lemma run_loadInto_of_ok
    (h : (Host.listFolder folder : StateM σ _).run s = (readable names, s')) (r : Registry) :
    (loadInto r folder : StateM σ _).run s =
      (((loadFiles (m := StateM σ) ((Registry.grammarFiles names).map folder.join)).run r).run
        s').map (·.map .ok id) id := by
  change runOn (loadGrammars folder) r s = _
  rw [loadGrammars, runOn_bind, runOn_orReport h]
  simp only [readable, Except.mapError, mapM_id_map_ok]
  rfl

/-- Where the listing fails, or a name in it, the registry is left as it is. -/
lemma run_loadInto_of_not_ok (h : (Host.listFolder folder : StateM σ _).run s = (listing, s'))
    (hlisting : ∀ names, listing ≠ readable names) (r : Registry) :
    ∃ report, (loadInto r folder : StateM σ _).run s = ((.error report, r), s') := by
  change ∃ report, runOn (loadGrammars folder) r s = _
  rw [loadGrammars, runOn_bind, runOn_orReport h]
  cases listing with
  | error e => exact ⟨_, rfl⟩
  | ok found =>
    cases hfound : found.mapM id with
    | error e =>
      simp only [Except.mapError, hfound]
      exact ⟨_, rfl⟩
    | ok names => exact absurd (congrArg Except.ok (eq_map_of_mapM_id hfound)) (hlisting names)

/-- The grammar files are in order. -/
lemma pairwise_grammarFiles (names : List FileName) :
    (Registry.grammarFiles names).Pairwise (· ≤ ·) := by
  have h := @List.pairwise_mergeSort _ (fun a b : FileName => decide (a ≤ b))
    (fun a b c => by simpa using List.le_trans) (fun a b => by simpa using List.le_total a b)
  exact (h _).imp of_decide_eq_true

/-- The grammar files are the names with the extension, each as often as it is listed. -/
lemma grammarFiles_perm (names : List FileName) :
    (Registry.grammarFiles names).Perm
      (names.filter fun n => Path.extensionOf? n = some Registry.grammarExtension) := by
  simp only [Registry.grammarFiles, beq_eq_decide]
  exact List.mergeSort_perm _ _

/-- A grammar file is one of the names listed. -/
lemma mem_of_mem_grammarFiles {name : FileName} (h : name ∈ Registry.grammarFiles names) :
    name ∈ names :=
  (List.mem_filter.mp ((grammarFiles_perm names).mem_iff.mp h)).1

/-- Which grammars files hold hangs on their contents only. -/
lemma grammarsIn_congr {content' : FileName → Except FileError Bytes} {files : List FileName}
    (h : ∀ name ∈ files, content' name = content name) :
    grammarsIn content' files = grammarsIn content files :=
  List.filterMap_congr fun name hname => congrArg grammarIn? (h name hname)

/-- The files are gone through in one order, however the folder lists them. -/
lemma grammarFiles_eq {files : List FileName}
    (hperm : files.Perm (names.filter fun n =>
      Path.extensionOf? n = some Registry.grammarExtension))
    (hsorted : files.Pairwise (· ≤ ·)) : Registry.grammarFiles names = files :=
  List.Perm.eq_of_pairwise (fun _ _ _ _ => List.le_antisymm) (pairwise_grammarFiles names) hsorted
    ((grammarFiles_perm names).trans hperm.symm)

/-- The grammar files do not hang on the order of the listing. -/
lemma grammarFiles_eq_of_perm {names' : List FileName} (h : names'.Perm names) :
    Registry.grammarFiles names' = Registry.grammarFiles names :=
  grammarFiles_eq ((grammarFiles_perm names).trans (h.filter _).symm) (pairwise_grammarFiles names)

/-- Loading a folder that can be read enters the grammars of its files and counts them. -/
lemma run_loadInto (h : Host.Shows s folder (readable names) content) (r : Registry) :
    (loadInto r folder : StateM σ _).run s =
      let gs := grammarsIn content (Registry.grammarFiles names)
      ((.ok gs.length, registerGrammars r gs), s) := by
  rw [run_loadInto_of_ok h.listFolder, run_loadFiles h]
  rfl

/-- Loading that reports an error leaves the registry as it is. -/
lemma eq_of_run_loadInto_error {report : Report} {r' : Registry}
    (h : (loadInto r folder : StateM σ _).run s = ((.error report, r'), s')) : r' = r := by
  by_cases hlisting : ∃ names, ((Host.listFolder folder : StateM σ _).run s).1 = readable names
  · obtain ⟨names, hnames⟩ := hlisting
    rw [run_loadInto_of_ok (Prod.ext hnames rfl)] at h
    exact nomatch h
  · obtain ⟨report', hrun⟩ := run_loadInto_of_not_ok (s := s) (Prod.eta _).symm
      (not_exists.mp hlisting) r
    rw [hrun] at h
    exact (Prod.mk.inj (Prod.mk.inj h).1).2.symm

/-- Loading a folder registers the grammars in it, in the order of the file names, and counts
them. Files with the extension `json` are read and all others are not; a file that cannot be read
or that holds no grammar is as good as none. The order in which the folder is listed does not
matter. If it cannot be listed to its end, loading gives up, and the registry is as it was. -/
theorem loadInto_of_shows (r : Registry) (folder : Path) (s : σ) :
    (∀ {names content}, Host.Shows s folder (readable names) content →
      ∀ {files : List FileName},
        files.Perm (names.filter fun n =>
          Path.extensionOf? n = some Registry.grammarExtension) →
        files.Pairwise (· ≤ ·) →
        let gs := grammarsIn content files
        (loadInto r folder : StateM σ _).run s = ((.ok gs.length, registerGrammars r gs), s)) ∧
    (∀ {names names' s' content content'}, Host.Shows s folder (readable names) content →
      Host.Shows s' folder (readable names') content' → names'.Perm names →
      (∀ name ∈ names, content' name = content name) →
        ((loadInto r folder : StateM σ _).run s').1 = ((loadInto r folder : StateM σ _).run s).1) ∧
    (∀ {listing content}, Host.Shows s folder listing content →
      (∀ names, listing ≠ readable names) →
        ∃ report, (loadInto r folder : StateM σ _).run s = ((.error report, r), s)) ∧
    (∀ {report r' s'}, (loadInto r folder : StateM σ _).run s = ((.error report, r'), s') →
      r' = r) := by
  refine ⟨?loaded, ?order, ?refused, eq_of_run_loadInto_error⟩
  case loaded =>
    intro names content h files hperm hsorted
    rw [← grammarFiles_eq hperm hsorted]
    exact run_loadInto h r
  case order =>
    intro names names' s' content content' h h' hperm hcontent
    rw [run_loadInto h, run_loadInto h', grammarFiles_eq_of_perm hperm]
    simp only [grammarsIn_congr fun name hname => hcontent name (mem_of_mem_grammarFiles hname)]
  case refused =>
    intro listing content h hlisting
    exact run_loadInto_of_not_ok h.listFolder hlisting r

/-- A world in which there is nothing but a folder `g` with some entries. -/
def oneFolder (entries : List (FileName × FileTree)) : World :=
  .start ⟨.folder [(Utf8.ofString "g", .folder entries)], []⟩ (fun _ => none) []

/-- Two files for grammars, between others that hold none. -/
def twoFiles (a b : Bytes) : List (FileName × FileTree) :=
  [(Utf8.ofString "b.json", .file b), (Utf8.ofString "c.json", .folder []),
    (Utf8.ofString "d.json", .file []), (Utf8.ofString "a.json", .file a),
    (Utf8.ofString "a.txt", .file a)]

/-- One of several grammars of one name. -/
def sameName (p : Processor) : Grammar := { Grammar.passthrough with defaultProcessor := p }

/-- Two files for one name, listed in two ways, and a folder that is not there. -/
theorem loadInto_of_shows_override :
    ∃ old new : Grammar, ∃ a b : Bytes, old.name = new.name ∧
      grammarIn? (.ok a) = some old ∧ grammarIn? (.ok b) = some new ∧
      let load := fun name => (loadInto .builtin (Path.ofString name) : StateM World _)
      let w := oneFolder (twoFiles a b)
      (load "g").run w = ((.ok 2, registerGrammars .builtin [old, new]), w) ∧
        ((load "g").run (oneFolder (twoFiles a b).reverse)).1 = ((load "g").run w).1 ∧
        ∃ report r, (load "h").run w = ((.error report, r), w) ∧ r = .builtin := by
  have hread : ∀ p, (sameName p).defect? = none →
      ∃ content, grammarIn? (.ok content) = some (sameName p) :=
    fun p hp => ⟨_, grammarIn?_toText Overlay.keyed_empty hp⟩
  obtain ⟨a, hold⟩ := hread .raw (by decide +kernel)
  obtain ⟨b, hnew⟩ := hread .keywords (by decide +kernel)
  refine ⟨sameName .raw, sameName .keywords, a, b, rfl, hold, hnew, ?_⟩
  have hshows : Host.Shows (oneFolder (twoFiles a b)) (Path.ofString "g")
      (readable (["b.json", "c.json", "d.json", "a.json", "a.txt"].map Utf8.ofString)) _ :=
    World.shows _ _
  have hshows' : Host.Shows (oneFolder (twoFiles a b).reverse) (Path.ofString "g")
      (readable (["a.txt", "a.json", "d.json", "c.json", "b.json"].map Utf8.ofString)) _ :=
    World.shows _ _
  have hmissing : Host.Shows (oneFolder (twoFiles a b)) (Path.ofString "h")
      (.error .notFound) _ := World.shows _ _
  obtain ⟨hloaded, horder, -, -⟩ :=
    loadInto_of_shows .builtin (Path.ofString "g") (oneFolder (twoFiles a b))
  obtain ⟨-, -, hrefused, hunchanged⟩ :=
    loadInto_of_shows .builtin (Path.ofString "h") (oneFolder (twoFiles a b))
  refine ⟨?_, horder hshows hshows' (by decide) ?_, ?_⟩
  · have hempty : grammarIn? (.ok []) = none := by decide +kernel
    refine (@hloaded _ _ hshows (["a.json", "b.json", "c.json", "d.json"].map Utf8.ofString)
      (by decide) (by decide)).trans ?_
    -- in order of their names: two grammars of one name, a folder and an empty file
    have hgrammars : grammarsIn
        (fun name => (oneFolder (twoFiles a b)).files.contentAt ((Path.ofString "g").join name))
        (["a.json", "b.json", "c.json", "d.json"].map Utf8.ofString) =
        [.ok a, .ok b, .error .isFolder, .ok []].filterMap grammarIn? := rfl
    rw [hgrammars]
    simp only [List.filterMap_cons, List.filterMap_nil, hold, hnew, hempty]
    rfl
  · simp only [List.map_cons, List.map_nil, List.forall_mem_cons]
    exact ⟨rfl, rfl, rfl, rfl, rfl, List.forall_mem_nil _⟩
  · obtain ⟨report, h⟩ := hrefused hmissing (fun names => nofun)
    exact ⟨report, _, h, hunchanged h⟩

end Program
end Highlighter
