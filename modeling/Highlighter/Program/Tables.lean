import Highlighter.Registry.Folder

/-!
# The program that writes the tables

Saves every built-in grammar to a file of its own, so that the tables can be read, changed, and
loaded again.
-/

namespace Highlighter.Program.Tables

variable {m : Type → Type} [Monad m] [Host m]

/-- The folder that the files go to if none is named. -/
def standardFolder : String := "tables"

/-- The name of a language as a file name: small letters, signs spelled out, no spaces. -/
def fileStem (name : String) : List Char :=
  (Unicode.lowercase name).toList.flatMap fun c =>
    match c with
    | '+' => ['p']
    | '#' => "sharp".toList
    | ' ' => ['_']
    | c => [c]

/-- The text with spaces behind it up to a width. -/
def padded (width : Nat) (s : String) : String :=
  String.ofList (s.toList ++ List.replicate (width - s.length) ' ')

/-- The line that tells of one grammar. -/
def line (g : Grammar) (p : Path) : String :=
  "[gen_grammar_tables] " ++ padded 10 g.name ++
    " states=" ++ padded 2 (toString g.reachable.length) ++
    " words=" ++ padded 4 (toString g.keywords.wordCount) ++ " -> " ++ p.shown ++ "\n"

/-- Saves one grammar and tells of it. -/
def save (folder : Path) (g : Grammar) : Program m Unit := do
  let p := folder.join (Utf8.encode (fileStem g.name) ++ Utf8.ofString ".json")
  saveGrammar p g
  (Host.output (line g p) : m Unit)

/-- The program. -/
def run (args : List String) : Program m Unit := do
  let folder := Path.ofString (args.head?.getD standardFolder)
  let r := Registry.builtin
  (Host.output ("[gen_grammar_tables] writing " ++ toString r.size ++ " grammars to " ++
    folder.shown ++ "\n") : m Unit)
  r.entries.forM fun e => save folder e.grammar

end Highlighter.Program.Tables
