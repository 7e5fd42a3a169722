import Highlighter.Document.Basic
import Highlighter.Json.Reader

/-!
# Reading grammar documents

A structure is read from a record, in which unknown fields are left out and no known field may come
twice, or from the list of all its fields. A state is its name, or a record whose one field has that
name and no value. A processor is a record with a field `kind`, or a list that begins with the kind.
-/

namespace Highlighter

namespace Json

/-- The fields of a structure: those of a record that have one of the names, none of them twice, or
the items of a list, as many as there are names. -/
def fieldsOf? (names : List String) : Spelled → Option (List (String × Spelled))
  | record fields => do
    let fields ← fields.mapM fun (name, value) => return (← text? name, value)
    let known := fields.filter fun (name, _) => names.contains name
    if (known.map (·.1)).eraseDups.length = known.length then some known else none
  | list items => if items.length = names.length then some (names.zip items) else none
  | _ => none

/-- A field that has to be there. -/
def required? {α : Type} (fields : List (String × Spelled)) (name : String)
    (read : Spelled → Option α) : Option α :=
  fields.lookup name >>= read

/-- A field that has a value also when it is not there. -/
def optional? {α : Type} (fields : List (String × Spelled)) (name : String) (missing : α)
    (read : Spelled → Option α) : Option α :=
  match fields.lookup name with
  | some value => read value
  | none => some missing

/-- A string. -/
def string? : Spelled → Option String
  | text raw => text? raw
  | _ => none

/-- A truth value. -/
def bool? : Spelled → Option Bool
  | bool b => some b
  | _ => none

/-- A list whose items are read one by one. -/
def list? {α : Type} (read : Spelled → Option α) : Spelled → Option (List α)
  | list items => items.mapM read
  | _ => none

/-- A value that may be missing. -/
def maybe? {α : Type} (read : Spelled → Option α) : Spelled → Option (Option α)
  | null => some none
  | value => (read value).map some

end Json

open Json

/-- Reads a state. -/
def State.ofJson? : Spelled → Option State
  | .text raw => text? raw >>= State.ofName?
  | .record [(raw, .null)] => text? raw >>= State.ofName?
  | _ => none

/-- The processor of a kind, given the text that goes with a field name. -/
def Processor.ofKind? (kind : String) (payload? : String → Option String) : Option Processor :=
  match kind with
  | "raw" => some .raw
  | "keywords" => some .keywords
  | "escape" => some .escape
  | "trim_trigger" => some .trimTrigger
  | "drop_trigger" => some .dropTrigger
  | "escape_trim_trigger" => some .escapeTrimTrigger
  | "escape_carry" => (payload? "chars").map .escapeCarry
  | "discard" => some .discard
  | "putback" => (payload? "prefix").map .putback
  | "putback_trim" => (payload? "prefix").map .putbackTrim
  | "carry_trigger" => some .carryTrigger
  | _ => none

/-- The one value of a name among fields. -/
def single? (fields : List (String × Spelled)) (name : String) : Option Spelled :=
  match fields.filter (·.1 == name) with
  | [(_, value)] => some value
  | _ => none

/-- Reads a processor. The whole record is read before its kind is known, so all of it has to be
plain, and nested at most `room` deep. -/
def Processor.ofJson? (room : Nat) : Spelled → Option Processor
  | .record fields => do
    if !allFieldsPlain room fields then none else
    let fields ← fields.mapM fun (name, value) => return (← text? name, value)
    let kind ← single? fields "kind" >>= string?
    Processor.ofKind? kind fun name => single? fields name >>= string?
  | .list [kind] => do Processor.ofKind? (← string? kind) fun _ => none
  | .list [kind, payload] => do
    let p ← Processor.ofKind? (← string? kind) fun _ => string? payload
    if p matches .escapeCarry _ | .putback _ | .putbackTrim _ then some p else none
  | _ => none

/-- How deep the values in a processor may nest when `levels` lists and records are around it: with
the processor itself there may be 127. -/
def Processor.roomBelow (levels : Nat) : Nat := 127 - (levels + 1)

/-- Reads a transition entry. -/
def TransitionEntry.ofJson? (value : Spelled) : Option TransitionEntry := do
  let fields ← fieldsOf? ["from", "on", "to"] value
  return ⟨← required? fields "from" State.ofJson?, ← required? fields "on" string?,
    ← required? fields "to" State.ofJson?⟩

/-- Reads a wildcard entry. -/
def WildcardEntry.ofJson? (value : Spelled) : Option WildcardEntry := do
  let fields ← fieldsOf? ["from", "to"] value
  return ⟨← required? fields "from" State.ofJson?, ← required? fields "to" State.ofJson?⟩

/-- Reads a processor entry, which stands in a list of the document. -/
def ProcessorEntry.ofJson? (value : Spelled) : Option ProcessorEntry := do
  let fields ← fieldsOf? ["from", "to", "processor"] value
  return ⟨← required? fields "from" State.ofJson?,
    ← optional? fields "to" none (maybe? State.ofJson?),
    ← required? fields "processor" (Processor.ofJson? (Processor.roomBelow 3))⟩

/-- Reads an edge entry. -/
def EdgeEntry.ofJson? (value : Spelled) : Option EdgeEntry := do
  let fields ← fieldsOf? ["from", "to", "markup"] value
  return ⟨← required? fields "from" State.ofJson?, ← required? fields "to" State.ofJson?,
    ← required? fields "markup" string?⟩

/-- Reads a closure entry. -/
def ClosureEntry.ofJson? (value : Spelled) : Option ClosureEntry := do
  let fields ← fieldsOf? ["state", "markup"] value
  return ⟨← required? fields "state" State.ofJson?, ← required? fields "markup" string?⟩

/-- Reads a keyword entry. -/
def KeywordEntry.ofJson? (value : Spelled) : Option KeywordEntry := do
  let fields ← fieldsOf? ["class", "words"] value
  return ⟨← required? fields "class" string?, ← required? fields "words" (list? string?)⟩

/-- The names of the fields of a document. -/
def Document.fieldNames : List String :=
  ["name", "initial", "transitions", "wildcards", "processors", "edges", "closures", "keywords",
   "case_insensitive", "ident_chars", "default_processor"]

/-- Reads a document. -/
def Document.ofJson? (value : Spelled) : Option Document := do
  let fields ← fieldsOf? Document.fieldNames value
  return {
    name := ← required? fields "name" string?
    initial := ← required? fields "initial" State.ofJson?
    transitions := ← required? fields "transitions" (list? TransitionEntry.ofJson?)
    wildcards := ← required? fields "wildcards" (list? WildcardEntry.ofJson?)
    processors := ← optional? fields "processors" [] (list? ProcessorEntry.ofJson?)
    edges := ← optional? fields "edges" [] (list? EdgeEntry.ofJson?)
    closures := ← optional? fields "closures" [] (list? ClosureEntry.ofJson?)
    keywords := ← optional? fields "keywords" [] (list? KeywordEntry.ofJson?)
    ignoreCase := ← optional? fields "case_insensitive" false bool?
    identChars := ← optional? fields "ident_chars" "" string?
    defaultProcessor :=
      ← required? fields "default_processor" (Processor.ofJson? (Processor.roomBelow 1)) }

/-- Why stored bytes are no grammar. -/
inductive LoadError where
  /-- The bytes are no document. -/
  | malformed
  /-- The grammar of the document was refused. -/
  | refused (r : Refusal)
  deriving DecidableEq

/-- The words for a failed load. -/
def LoadError.message : LoadError → String
  | malformed => "failed to parse grammar JSON"
  | refused r => r.message

/-- Reads the stored form of a grammar. -/
def Grammar.ofBytes (bytes : Bytes) : Except LoadError Grammar :=
  match parse? bytes >>= Document.ofJson? with
  | none => .error .malformed
  | some d => d.toGrammar.mapError .refused

end Highlighter
