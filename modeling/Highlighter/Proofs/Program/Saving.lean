import Highlighter.Proofs.File.System
import Highlighter.Proofs.Program.Loading
import Highlighter.Proofs.Registry.Filing

/-!
# Saved grammars are loaded back

A grammar that is saved in a folder is one more file there (`store_of_run_saveGrammar`). After a
number of them the folder shows just these files (`shows_of_run_saveGrammars`), and what is loaded
from them are the grammars that were saved, in the order of the file names (`grammarsIn_perm`). A
grammar that is registered already changes nothing, so the order does not matter. Main statement:
`loadInto_of_saved`.
-/

namespace Highlighter

namespace World

variable {α β : Type} {w w' : World}

/-- One program after another ends well when both do. -/
lemma exists_of_run_bind {p : Program (StateM World) α} {f : α → Program (StateM World) β} {b : β}
    (h : w.run (p >>= f) = (.ok b, w')) :
    ∃ a w₁, w.run p = (.ok a, w₁) ∧ w₁.run (f a) = (.ok b, w') := by
  change (let y := w.run p; ExceptT.bindCont f y.1 y.2) = _ at h
  cases hp : w.run p with
  | mk result w₁ =>
    rw [hp] at h
    cases result with
    | error report => exact nomatch h
    | ok a => exact ⟨a, w₁, rfl, h⟩

/-- A step that ends well reports nothing. -/
lemma run_of_run_orReport {x : StateM World (Except FileError α)} {headline : String} {a : α}
    (h : w.run (Program.orReport headline x) = (.ok a, w')) : x.run w = (.ok a, w') := by
  obtain ⟨result, w₁, hx, h⟩ := exists_of_run_bind h
  have hresult : x.run w = (result, w₁) := by
    change ((Except.ok (x.run w).1, (x.run w).2) : Except Report _ × World) = _ at hx
    obtain ⟨hresult, hw₁⟩ := Prod.mk.inj hx
    exact Prod.ext (Except.ok.inj hresult) hw₁
  cases result with
  | error e => exact nomatch h
  | ok a' =>
    obtain ⟨ha, rfl⟩ := Prod.mk.inj h
    rw [hresult, Except.ok.inj ha]

/-- A change of the files that ends well is the change of the world. -/
lemma files_of_run_alter {change : FileSystem → Except FileError FileSystem}
    (h : (alter change).run w = (.ok (), w')) : change w.files = .ok w'.files := by
  cases hchange : change w.files with
  | error e =>
    simp only [StateT.run, alter, hchange] at h
    exact nomatch h
  | ok files =>
    simp only [StateT.run, alter, hchange] at h
    obtain ⟨-, rfl⟩ := Prod.mk.inj h
    rfl

/-- To store a file changes the files so. -/
lemma store_of_run {p : Path} {content : Bytes}
    (h : (Host.store p content : StateM World _).run w = (.ok (), w')) :
    w.files.store p content = .ok w'.files :=
  @files_of_run_alter _ _ (·.store p content) h

/-- To make folders changes the files so. -/
lemma makeFolders_of_run {p : Path}
    (h : (Host.makeFolders p : StateM World _).run w = (.ok (), w')) :
    w.files.makeFolders p = .ok w'.files :=
  @files_of_run_alter _ _ (·.makeFolders p) h

end World

namespace Program

/-- Saves grammars to files of a folder, one after the other. -/
def saveGrammars {m : Type → Type} [Monad m] [Host m] (folder : Path)
    (files : List (FileName × Grammar)) : Program m Unit :=
  files.forM fun file => saveGrammar (folder.join file.1) file.2

open FileSystem

variable {w w' : World} {folder : Path} {names : List FileName}
  {entries : List (FileName × FileTree)}

/-- Saving a grammar in a folder stores its text there, and nothing else. -/
lemma store_of_run_saveGrammar (h : w.files.Opens folder names entries) {name : FileName}
    (hname : Proper name) {g : Grammar}
    (hsaved : w.run (saveGrammar (folder.join name) g) = (.ok (), w')) :
    w.files.store (folder.join name) (Utf8.ofString g.toText) = .ok w'.files := by
  obtain ⟨q, hq, hmakes⟩ := h.makeFolders hname
  simp only [saveGrammar, hq] at hsaved
  split at hsaved
  · obtain ⟨_, w₁, hmade, hsaved⟩ := World.exists_of_run_bind hsaved
    rw [← hmakes (World.makeFolders_of_run (World.run_of_run_orReport hmade))]
    exact World.store_of_run (World.run_of_run_orReport hsaved)
  · exact World.store_of_run (World.run_of_run_orReport hsaved)

/-- A name with the extension of grammars is one that a file can have. -/
lemma proper_of_extension {name : FileName} (hslash : Path.slash ∉ name)
    (hjson : Path.extensionOf? name = some Registry.grammarExtension) : Proper name := by
  refine ⟨hslash, Bool.eq_false_iff.mpr fun hhere => ?_, Bool.eq_false_iff.mpr fun hup => ?_⟩
  · simp only [Path.isHere, Bool.or_eq_true, List.isEmpty_iff, beq_iff_eq] at hhere
    rcases hhere with rfl | rfl <;> exact absurd hjson (by decide)
  · rw [Path.isUp, beq_iff_eq] at hup
    subst hup
    exact absurd hjson (by decide)

/-- The entry of a saved grammar. -/
def savedEntry (file : FileName × Grammar) : FileName × FileTree :=
  (file.1, .file (Utf8.ofString file.2.toText))

/-- Grammars that are saved under new names of a folder are there one after the other, behind what
was there before. -/
lemma opens_of_run_saveGrammars {files : List (FileName × Grammar)}
    (h : w.files.Opens folder names entries) (hproper : ∀ file ∈ files, Proper file.1)
    (hnodup : (entries.map (·.1) ++ files.map (·.1)).Nodup)
    (hsaved : w.run (saveGrammars folder files) = (.ok (), w')) :
    w'.files.Opens folder names (entries ++ files.map savedEntry) ∧
      ∀ file ∈ files, Fits folder file.1 := by
  induction files generalizing w entries with
  | nil =>
    obtain rfl := (Prod.mk.inj hsaved).2
    rw [List.map_nil, List.append_nil]
    exact ⟨h, List.forall_mem_nil _⟩
  | cons file files ih =>
    obtain ⟨hfile, hproper⟩ := List.forall_mem_cons.mp hproper
    change w.run (saveGrammar (folder.join file.1) file.2 >>= fun _ =>
      saveGrammars folder files) = _ at hsaved
    obtain ⟨_, w₁, hfirst, hlater⟩ := World.exists_of_run_bind hsaved
    -- no file before has the name, so the file is a new entry
    have hnew : entries.lookup file.1 = none := by
      refine List.lookup_eq_none_iff.mpr fun e he => bne_iff_ne.mpr fun heq => ?_
      exact (List.nodup_append.mp hnodup).2.2 _ (List.mem_map_of_mem he) _ List.mem_cons_self
        heq.symm
    obtain ⟨hopens, hfits⟩ := h.store hfile hnew (store_of_run_saveGrammar h hfile hfirst)
    obtain ⟨hopens, hlater⟩ := ih hopens hproper (by simpa using hnodup) hlater
    refine ⟨?_, List.forall_mem_cons.mpr ⟨hfits, hlater⟩⟩
    rwa [List.append_assoc] at hopens

/-- What was saved in a folder that was empty before is what the folder shows. -/
lemma shows_of_run_saveGrammars {files : List (FileName × Grammar)}
    (hempty : w.files.list folder = .ok []) (hproper : ∀ file ∈ files, Proper file.1)
    (hnodup : (files.map (·.1)).Nodup)
    (hsaved : w.run (saveGrammars folder files) = (.ok (), w')) :
    ∃ content, Host.Shows w' folder (readable (files.map (·.1))) content ∧
      ∀ file ∈ files, content file.1 = .ok (Utf8.ofString file.2.toText) := by
  obtain ⟨names, entries, hopens, hentries⟩ := exists_opens_of_list hempty
  rw [List.map_eq_nil_iff] at hentries
  subst hentries
  obtain ⟨hopens, hfits⟩ := opens_of_run_saveGrammars hopens hproper (by simpa using hnodup) hsaved
  refine ⟨fun name => w'.files.contentAt (folder.join name), ?_, fun file hfile => ?_⟩
  · have hshows := w'.shows folder
    rw [hopens.list, List.nil_append, List.map_map] at hshows
    exact hshows
  · refine hopens.contentAt (hproper file hfile) ?_ (hfits file hfile)
    refine FileTree.lookup_eq_some_of_mem ?_ (List.mem_map_of_mem hfile)
    rwa [List.nil_append, List.map_map]

/-- Grammars that change nothing one by one change nothing together. -/
lemma registerGrammars_eq_self {r : Registry} {gs : List Grammar}
    (h : ∀ g ∈ gs, r.register g [] = r) : registerGrammars r gs = r := by
  induction gs with
  | nil => rfl
  | cons g gs ih =>
    obtain ⟨hg, hgs⟩ := List.forall_mem_cons.mp h
    rw [← List.singleton_append, registerGrammars_append]
    change registerGrammars (r.register g []) gs = r
    rw [hg, ih hgs]

/-- The grammars in files with the extension `json` are those that were saved in them, in some
order. -/
lemma grammarsIn_perm {files : List (FileName × Grammar)}
    {content : FileName → Except FileError Bytes}
    (hjson : ∀ file ∈ files, Path.extensionOf? file.1 = some Registry.grammarExtension)
    (hcontent : ∀ file ∈ files, grammarIn? (content file.1) = some file.2) :
    (grammarsIn content (Registry.grammarFiles (files.map (·.1)))).Perm (files.map (·.2)) := by
  have hfiles : (Registry.grammarFiles (files.map (·.1))).Perm (files.map (·.1)) := by
    refine (grammarFiles_perm _).trans
      (List.Perm.of_eq (List.filter_eq_self.mpr fun name hname => ?_))
    obtain ⟨file, hfile, rfl⟩ := List.mem_map.mp hname
    exact decide_eq_true (hjson file hfile)
  refine (hfiles.filterMap _).trans (List.Perm.of_eq ?_)
  rw [List.filterMap_map, ← List.filterMap_eq_map]
  exact List.filterMap_congr hcontent

/-- Saving all grammars and loading them back changes nothing. Each grammar of a registry is
saved to a file of its own with the extension `json`, under any names and in any order, in a folder
that was empty. Loading the folder gives their number and leaves the registry as it was: what is
found by name and by extension, the names, the catalog, and all that is highlighted. -/
theorem loadInto_of_saved (b : Registry.Beginning) {calls : List Registry.Registration}
    (hmade : ∀ call ∈ calls, Grammar.Made call.1) {files : List (FileName × Grammar)}
    (hgrammars : (files.map (·.2)).Perm ((b.registry.registerEach calls).entries.map (·.grammar)))
    (hnames : ∀ file ∈ files, Path.slash ∉ file.1 ∧
      Path.extensionOf? file.1 = some Registry.grammarExtension)
    (hnodup : (files.map (·.1)).Nodup) (hempty : w.files.list folder = .ok [])
    (hsaved : w.run (saveGrammars folder files) = (.ok (), w')) :
    let r := b.registry.registerEach calls
    (loadInto r folder : StateM World _).run w' = ((.ok r.size, r), w') := by
  intro r
  have hlists : r.Lists (Registry.enterEach b.records calls) := b.lists.registerEach calls
  have hfiled : ∀ c ∈ Registry.enterEach b.records calls, c.Filed :=
    Registry.filed_enterEach b.filed_records hmade
  -- every grammar that was saved is on record
  have hregistered : ∀ g ∈ files.map (·.2), ∃ c ∈ Registry.enterEach b.records calls,
      c.grammar = g := by
    intro g hg
    rw [hgrammars.mem_iff, hlists.entries, List.map_map] at hg
    exact List.mem_map.mp hg
  have hproper : ∀ file ∈ files, Proper file.1 := fun file hfile =>
    proper_of_extension (hnames file hfile).1 (hnames file hfile).2
  obtain ⟨content, hshows, hcontent⟩ := shows_of_run_saveGrammars hempty hproper hnodup hsaved
  -- each file holds the grammar that was saved to it
  have hread : ∀ file ∈ files, grammarIn? (content file.1) = some file.2 := by
    intro file hfile
    obtain ⟨c, hc, hg⟩ := hregistered file.2 (List.mem_map_of_mem hfile)
    have hmade := (hfiled c hc).2
    rw [hcontent file hfile, ← hg]
    exact grammarIn?_toText hmade.keyed hmade.sound
  have hperm := grammarsIn_perm (fun file hfile => (hnames file hfile).2) hread
  -- a grammar that is on record already changes nothing when it is registered again
  have hself : ∀ g ∈ grammarsIn content (Registry.grammarFiles (files.map (·.1))),
      r.register g [] = r := by
    intro g hg
    obtain ⟨c, hc, rfl⟩ := hregistered g (hperm.mem_iff.mp hg)
    exact hlists.register_self hc (hfiled c hc)
  rw [run_loadInto hshows]
  simp only [registerGrammars_eq_self hself, (hperm.trans hgrammars).length_eq]
  rw [List.length_map, Registry.size]

/-- The grammars of the next statement, by name. -/
def named (name : String) : Grammar := { Grammar.passthrough with name := name }

/-- Two grammars, the second with an extension that the first one had, in files that sort the other
way round. -/
theorem loadInto_of_saved_renamed :
    let r := Registry.empty.registerEach [(named "A", [".txt", "log"]), (named "B", ["TXT"])]
    let files := [(Utf8.ofString "b.json", named "A"), (Utf8.ofString "a.json", named "B")]
    ∃ w', (oneFolder []).run (saveGrammars (Path.ofString "g/") files) = (.ok (), w') ∧
      (loadInto r (Path.ofString "g/") : StateM World _).run w' = ((.ok r.size, r), w') := by
  intro r files
  have hmade : ∀ name, (named name).defect? = none → Grammar.Made (named name) := fun name h =>
    @Grammar.Made.derived .passthrough .passthrough name [] _ (Builder.build_eq_ok rfl h)
  have hcalls : ∀ call ∈ [(named "A", [".txt", "log"]), (named "B", ["TXT"])],
      Grammar.Made call.1 := by
    simp only [List.forall_mem_cons]
    exact ⟨hmade _ (by decide +kernel), hmade _ (by decide +kernel), List.forall_mem_nil _⟩
  have hgrammars : (files.map (·.2)).Perm (r.entries.map (·.grammar)) := by
    have h : r.entries.map (·.grammar) = files.map (·.2) := by decide +kernel
    rw [h]
  have hsaves : ((oneFolder []).run (saveGrammars (Path.ofString "g/") files)).1.isOk := by
    decide +kernel
  cases hsaved : (oneFolder []).run (saveGrammars (Path.ofString "g/") files) with
  | mk result w' =>
    rw [hsaved] at hsaves
    cases result with
    | error report => exact nomatch hsaves
    | ok _ =>
      exact ⟨w', rfl, loadInto_of_saved .empty hcalls hgrammars (by decide) (by decide) rfl hsaved⟩

end Program
end Highlighter
