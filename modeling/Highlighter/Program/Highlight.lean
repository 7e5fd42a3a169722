import Highlighter.Registry.Folder
import Highlighter.Json.Basic
import Highlighter.Text.Excerpt

/-!
# The highlighting program

Highlights a file, or the standard input, and writes the marked text to the standard output.
Without a language among its arguments the file's extension tells the language, and then the
settings.
-/

namespace Highlighter

/-- The value of a summary. -/
def Registry.Summary.toJson (s : Registry.Summary) : Json String :=
  .record [
    ("name", .text s.name),
    ("extensions", .texts s.extensions),
    ("case_insensitive", .bool s.ignoreCase),
    ("states", .nat s.states),
    ("keywords", .nat s.keywords)]

/-- The catalog as text. -/
def Registry.catalogText (r : Registry) : String :=
  (Json.list (r.catalog.map (·.toJson))).pretty

namespace Program.Highlight

variable {m : Type → Type} [Monad m] [Host m]

/-- How the program is called. -/
def usage : String := "usage: synhl [--list] [LANGUAGE] [FILE]"

/-- The argument that stands for the standard input. -/
def standardInput : String := "-"

/-- What the arguments ask for. -/
structure Request where
  language : Option String
  file : Option Path
  deriving DecidableEq

/-- The request of the arguments. A single one is a file if there is a file of that name, and a
language otherwise. -/
def request (args : List String) : Program m Request := do
  let file (name : String) := if name = standardInput then none else some (Path.ofString name)
  match args with
  | [] => return ⟨none, none⟩
  | [one] =>
    if one = standardInput then return ⟨none, none⟩
    else if ← (Host.isFile (Path.ofString one) : m Bool) then return ⟨none, file one⟩
    else return ⟨some one, none⟩
  | [language, name] => return ⟨some language, file name⟩
  | _ => throw (.because usage)

/-- The built-in grammars and those of the folder in the settings. -/
def registry (settings : Settings) : Program m Registry := do
  match settings.grammarDir with
  | none => return .builtin
  | some dir =>
    let folder : Path := ⟨dir⟩
    let loaded ← ExceptT.adapt (Report.context ("SYNHL_GRAMMAR_DIR=" ++ folder.shown))
      (loadFolder (m := m) .builtin folder)
    return loaded.1

/-- The language of a request. -/
def language (r : Registry) (settings : Settings) (q : Request) : String :=
  (q.language <|> (q.file.bind r.forPath?).map (·.name)).getD settings.language

/-- The bytes that a request is about. -/
def source (q : Request) : Program m Bytes := do
  match q.file with
  | some p => orReport ("reading " ++ p.shown) (Host.contentAt p)
  | none => (Host.input : m Bytes)

/-- Highlights what the arguments ask for. -/
def highlight (r : Registry) (settings : Settings) (args : List String) : Program m Unit := do
  let q ← request args
  let lang := language r settings q
  let text := Utf8.toStringLossy (← source q)
  if (r.byName? lang).isNone then
    (Host.note ("[synhl] no grammar named " ++ Text.quoted lang.toList ++
      "; output is unchanged\n") : m Unit)
  let html := r.highlight text lang
  (Host.output
    (if settings.wrapPre then "<pre class=\"highlight\">" ++ html ++ "</pre>\n" else html) : m Unit)

/-- The program. Help comes before the catalog, and both before the other arguments. -/
def run (args : List String) : Program m Unit := do
  let settings := Settings.ofEnvironment (← (Host.environment : m Environment))
  let r ← registry settings
  if args.any fun a => a == "-h" || a == "--help" then (Host.output (usage ++ "\n") : m Unit)
  else if args.contains "--list" then (Host.output (r.catalogText ++ "\n") : m Unit)
  else highlight r settings args

end Program.Highlight
end Highlighter
