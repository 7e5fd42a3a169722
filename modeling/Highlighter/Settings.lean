import Highlighter.Language.Basic
import Highlighter.Text.Basic
import Highlighter.Text.Utf8

/-!
# Settings

What the programs take from the environment. A variable that is no text counts as not set, except
for the folder of grammars, which is a path.
-/

namespace Highlighter

/-- The variables that are set, with their bytes. -/
abbrev Environment := String → Option Bytes

namespace Environment

/-- The text of a variable. -/
def text? (env : Environment) (name : String) : Option String := (env name).bind Utf8.toString?

/-- A switch is off for `0` and for `false` in any case, and on for every other text. -/
def flag (env : Environment) (name : String) (default : Bool) : Bool :=
  match env.text? name with
  | some v => !(v == "0" || Ascii.sameIgnoringCase v "false")
  | none => default

/-- A number of 64 bits. -/
def number (env : Environment) (name : String) (default : Nat) : Nat :=
  ((env.text? name).bind fun v => Text.numeral? v.toList).getD default

end Environment

/-- The settings that the programs share. -/
structure Settings where
  /-- A folder of further grammars. -/
  grammarDir : Option Bytes
  /-- Whether the output stands in a block of its own. -/
  wrapPre : Bool
  /-- The language of a text that nothing else tells the language of. -/
  language : String
  deriving DecidableEq

namespace Settings

/-- The settings where nothing is set. -/
def standard : Settings := ⟨none, false, Language.plainText.name⟩

/-- The settings of an environment. An empty folder and a blank language count as not set. -/
def ofEnvironment (env : Environment) : Settings where
  grammarDir := (env "SYNHL_GRAMMAR_DIR").filter fun v => !v.isEmpty
  wrapPre := env.flag "SYNHL_WRAP_PRE" standard.wrapPre
  language :=
    ((env.text? "SYNHL_LANGUAGE").filter fun v => !(Unicode.trim v.toList).isEmpty).getD
      standard.language

end Settings
end Highlighter
