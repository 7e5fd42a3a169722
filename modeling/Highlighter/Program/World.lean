import Highlighter.File.System
import Highlighter.Program.Host

/-!
# A host that is a value

Programs run on a file system, given variables and a given input; what they write is kept. The clock
stands still.
-/

namespace Highlighter

/-- Everything that a program can see and change. -/
structure World where
  files : FileSystem
  environment : Environment
  input : Bytes
  output : String
  notes : String

namespace World

/-- A world before any program has run. -/
def start (files : FileSystem) (environment : Environment) (input : Bytes) : World :=
  ⟨files, environment, input, "", ""⟩

/-- Changes the files, if the change works. -/
def alter (change : FileSystem → Except FileError FileSystem) :
    StateM World (Except FileError Unit) :=
  fun w =>
    match change w.files with
    | .ok files => (.ok (), { w with files := files })
    | .error e => (.error e, w)

instance : Host (StateM World) where
  environment := return (← get).environment
  input := return (← get).input
  output s := modify fun w => { w with output := w.output ++ s }
  note s := modify fun w => { w with notes := w.notes ++ s }
  contentAt p := return (← get).files.contentAt p
  listFolder p := return ((← get).files.list p).map fun names => names.map .ok
  isFile p := return (← get).files.isFileAt p
  isPresent p := return (← get).files.isPresent p
  makeFolders p := alter (·.makeFolders p)
  store p content := alter (·.store p content)
  clock := return 0
  unixTime := return 0

/-- Runs a program in a world: its result and the world after it. -/
def run {α : Type} (w : World) (p : Program (StateM World) α) : Except Report α × World :=
  StateT.run (ExceptT.run p) w

end World
end Highlighter
