import Highlighter.File.Tree
import Highlighter.Settings
import Highlighter.Text.Basic

/-!
# What programs run on

The services that a program asks for: its variables and input, its two outputs, files, and the
time. A program is written for any host, so that it can run on a system or on a value.
-/

namespace Highlighter

/-- The services of a host. -/
class Host (m : Type → Type) where
  /-- The variables that are set. -/
  environment : m Environment
  /-- All of the standard input. -/
  input : m Bytes
  /-- Writes to the standard output. -/
  output : String → m Unit
  /-- Writes to the standard error output. -/
  note : String → m Unit
  contentAt : Path → m (Except FileError Bytes)
  /-- The names in a folder, in any order. Some of them may turn out to be unreadable. -/
  listFolder : Path → m (Except FileError (List (Except FileError FileName)))
  isFile : Path → m Bool
  isPresent : Path → m Bool
  makeFolders : Path → m (Except FileError Unit)
  store : Path → Bytes → m (Except FileError Unit)
  /-- Milliseconds since some moment before the program began. -/
  clock : m Nat
  /-- Seconds since the beginning of 1970. -/
  unixTime : m Nat

/-- Why a program gave up: what it was doing, and the causes of that in turn. -/
structure Report where
  headline : String
  causes : List String
  deriving DecidableEq

namespace Report

/-- A report without causes. -/
def because (headline : String) : Report := ⟨headline, []⟩

/-- The report of a larger undertaking that failed for this reason. -/
def context (headline : String) (r : Report) : Report := ⟨headline, r.headline :: r.causes⟩

/-- The report on one line. -/
def oneLine (r : Report) : String := ": ".intercalate (r.headline :: r.causes)

/-- A cause with an indented beginning, and its further lines indented as far. -/
def indented (first more cause : String) : String :=
  first ++ String.ofList (Text.replaceAll ['\n'] ('\n' :: more.toList) cause.toList)

/-- The lines of the causes. Two or more are numbered from `n` on. -/
def numbered (n : Nat) : List String → String
  | [] => ""
  | cause :: causes =>
    let digits := toString n
    let first := String.ofList (List.replicate (5 - digits.length) ' ') ++ digits ++ ": "
    "\n" ++ indented first "       " cause ++ numbered (n + 1) causes

/-- The report as a program prints it. -/
def text (r : Report) : String :=
  match r.causes with
  | [] => "Error: " ++ r.headline ++ "\n"
  | [cause] =>
    "Error: " ++ r.headline ++ "\n\nCaused by:\n" ++ indented "    " "    " cause ++ "\n"
  | causes => "Error: " ++ r.headline ++ "\n\nCaused by:" ++ numbered 0 causes ++ "\n"

end Report

/-- A program that may give up with a report. -/
abbrev Program (m : Type → Type) := ExceptT Report m

namespace Program

variable {m : Type → Type} [Monad m]

/-- Gives up unless the operation on files worked. -/
def orReport {α : Type} (headline : String) (result : m (Except FileError α)) : Program m α := do
  match ← (result : m (Except FileError α)) with
  | .ok a => return a
  | .error e => throw ⟨headline, [e.message]⟩

/-- Runs a program to its exit code. A report is written to the error output. -/
def exitCode [Host m] (p : Program m Unit) : m Nat := do
  match ← p.run with
  | .ok _ => return 0
  | .error r =>
    Host.note r.text
    return 1

end Program
end Highlighter
