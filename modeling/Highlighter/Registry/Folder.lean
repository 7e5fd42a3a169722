import Highlighter.Document.Printer
import Highlighter.Document.Reader
import Highlighter.File.Path
import Highlighter.Program.Host
import Highlighter.Registry.Basic

/-!
# Folders of grammars

The files of a folder that grammars are looked for in are those with the extension `json`, in the order
of their names. Loading them into a registry passes over the files that hold no grammar. A grammar is
saved to one file.
-/

namespace Highlighter.Registry

/-- The extension of files that hold grammars. -/
def grammarExtension : Bytes := Utf8.ofString "json"

/-- The names of a folder that may hold grammars, in the order of their bytes. -/
def grammarFiles (names : List FileName) : List FileName :=
  (names.filter fun n => Path.extensionOf? n == some grammarExtension).mergeSort fun a b => a ≤ b

end Highlighter.Registry

namespace Highlighter.Program

variable {m : Type → Type} [Monad m] [Host m]

/-- The grammar in a file, unless the file could not be read or holds none. -/
def grammarIn? (content : Except FileError Bytes) : Option Grammar :=
  content.toOption.bind fun bytes => (Grammar.ofBytes bytes).toOption

/-- Registers the grammar in a file, and counts it. A file without one is passed over. -/
def loadFile (p : Path) : StateT Registry m Nat := do
  match grammarIn? (← (Host.contentAt p : m _)) with
  | some g =>
    modify fun r => r.register g []
    return 1
  | none => return 0

/-- Registers the grammars in some files one after the other, and counts them. -/
def loadFiles : List Path → StateT Registry m Nat
  | [] => return 0
  | p :: paths => return (← loadFile p) + (← loadFiles paths)

/-- Registers the grammars of a folder, and counts them. All names are read before the first
grammar is. -/
def loadGrammars (folder : Path) : Program (StateT Registry m) Nat := do
  let listing ← orReport ("reading grammar directory " ++ folder.shown)
    (liftM (Host.listFolder folder : m _) : StateT Registry m _)
  match listing.mapM id with
  | .ok names =>
    (loadFiles ((Registry.grammarFiles names).map folder.join) : StateT Registry m Nat)
  | .error e => throw (.because e.message)

/-- Loads the grammars of a folder into a registry. Gives their number, or why it gave up, and the
registry as it is then. -/
def loadInto (r : Registry) (folder : Path) : m (Except Report Nat × Registry) :=
  (loadGrammars folder).run.run r

/-- Registers the grammars of a folder. Gives the new registry and the number of grammars. -/
def loadFolder (r : Registry) (folder : Path) : Program m (Registry × Nat) := do
  let (loaded, r) ← (loadInto r folder : m _)
  return (r, ← loaded)

/-- Saves a grammar to a file, and makes the folders that the file is in. -/
def saveGrammar (p : Path) (g : Grammar) : Program m Unit := do
  if let some folder := p.parent? then
    if !folder.bytes.isEmpty then
      orReport ("create " ++ folder.shown) (Host.makeFolders folder)
  orReport ("create " ++ p.shown) (Host.store p (Utf8.ofString g.toText))

end Highlighter.Program
