import Highlighter.Program.Highlight
import Highlighter.Program.Tables
import Highlighter.Program.Fuzz
import Std.Time.DateTime.Timestamp

/-!
# The command line

Runs the programs on the system. The first argument says which program, and the others are its own.
-/

namespace Highlighter

/-- The error behind a failure that the system reports, with the codes that it gives for a folder
and for a name that is too long. -/
def FileError.ofSystem : IO.Error → FileError
  | .noFileOrDirectory _ _ _ => .notFound
  | .alreadyExists _ _ _ => .alreadyExists
  | .inappropriateType _ code _ => if code = 21 then .isFolder else .notFolder
  | .invalidArgument _ 36 _ => .nameTooLong
  | e => .other (toString e)

/-- The variables that the programs know. -/
def knownVariables : List String :=
  ["SYNHL_GRAMMAR_DIR", "SYNHL_WRAP_PRE", "SYNHL_LANGUAGE", "FUZZ_INPUT", "FUZZ_LANG",
   "FUZZ_EX_DIR", "FUZZ_SAVE", "FUZZ_DIR", "FUZZ_LEN", "FUZZ_ITERS", "FUZZ_SEED"]

/-- Tries something on the system. -/
def tryFile {α : Type} (action : IO α) : IO (Except FileError α) := do
  match ← action.toBaseIO with
  | .ok a => return .ok a
  | .error e => return .error (.ofSystem e)

instance : Host IO where
  environment := do
    let found ← knownVariables.mapM fun name => return (name, ← IO.getEnv name)
    return fun name => ((found.lookup name).join).map Utf8.ofString
  input := return (← IO.FS.readBinFile "/dev/stdin").toList
  output s := do
    IO.print s
    (← IO.getStdout).flush
  note s := IO.eprint s
  contentAt p := tryFile do return (← IO.FS.readBinFile p.shown).toList
  listFolder p := tryFile do
    let folder ← IO.FS.realPath p.shown
    return ((← folder.readDir).map fun e => .ok (Utf8.ofString e.fileName)).toList
  isFile p := do
    match ← tryFile do return (← (← IO.FS.realPath p.shown).metadata).type with
    | .ok kind => return kind == .file
    | .error _ => return false
  isPresent p := do
    match ← tryFile (IO.FS.realPath p.shown) with
    | .ok place => place.pathExists
    | .error _ => return false
  makeFolders p := tryFile (IO.FS.createDirAll p.shown)
  store p content := tryFile (IO.FS.writeBinFile p.shown (ByteArray.mk content.toArray))
  clock := IO.monoMsNow
  unixTime := return (← Std.Time.Timestamp.now).toSecondsSinceUnixEpoch.val.toNat

/-- The programs by their names. -/
def programNamed? (name : String) (args : List String) : Option (Program IO Unit) :=
  match name with
  | "synhl" => some (Program.Highlight.run args)
  | "gen_grammar_tables" => some (Program.Tables.run args)
  | "fuzz_highlight" => some Program.Fuzz.run
  | _ => none

end Highlighter

open Highlighter in
/-- Runs the program that the first argument names. -/
def main (args : List String) : IO UInt32 := do
  match args with
  | name :: args =>
    match programNamed? name args with
    | some program => return (← Program.exitCode program).toUInt32
    | none =>
      IO.eprintln ("no program named " ++ name)
      return 2
  | [] =>
    IO.eprintln "usage: highlighter synhl|gen_grammar_tables|fuzz_highlight [ARGUMENT]..."
    return 2
