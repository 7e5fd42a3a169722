import Highlighter.Document.Printer
import Highlighter.Document.Reader
import Highlighter.Proofs.Json.Reading

/-!
# Reading back documents

Every structure of a grammar document is read back from its JSON value: what the writer puts under a
field name is what the reader looks up there. Main statements: `ofJson?_spelled` for each structure,
and `Document.parse?_toJson`, a document is read back from the file that is written of it.
-/

namespace Highlighter

open Json

namespace Json

/-- The names of all fields are read back. -/
lemma mapM_text?_spelled (fields : List (String × Json String)) :
    (fields.map fun f => (spell f.1, spelled f.2)).mapM
        (fun (name, value) => return (← text? name, value)) =
      some (fields.map fun f => (f.1, spelled f.2)) := by
  induction fields with
  | nil => rfl
  | cons f fields ih =>
    rw [List.map_cons, List.mapM_cons, ih]
    simp [text?_spell]

variable {names : List String} {fields : List (String × Json String)}

/-- All fields of a written structure are found, if it has the right ones. -/
lemma fieldsOf?_spelled (hnames : fields.map (·.1) = names)
    (hdistinct : names.eraseDups.length = names.length) :
    fieldsOf? names (spelled (record fields)) = some (fields.map fun f => (f.1, spelled f.2)) := by
  have hknown : (fields.map fun f => (f.1, spelled f.2)).filter (fun f => names.contains f.1) =
      fields.map fun f => (f.1, spelled f.2) := by
    refine List.filter_eq_self.mpr fun f hf => ?_
    obtain ⟨f', hf', rfl⟩ := List.mem_map.mp hf
    rw [List.contains_iff_mem, ← hnames]
    exact List.mem_map_of_mem hf'
  have hmap : (fields.map fun f => (f.1, spelled f.2)).map (·.1) = names := by
    rw [List.map_map, ← hnames]
    rfl
  rw [spelled, fieldsOf?, mapM_text?_spelled]
  simp only [Option.bind_eq_bind, Option.bind_some, hknown, hmap]
  rw [if_pos]
  rw [hdistinct, ← hnames, List.length_map, List.length_map]

/-- A field is found by its name among fields of different names. -/
lemma lookup_spelled (hdistinct : (fields.map (·.1)).Nodup) {name : String} {v : Json String}
    (hv : (name, v) ∈ fields) :
    (fields.map fun f => (f.1, spelled f.2)).lookup name = some (spelled v) := by
  induction fields with
  | nil => exact nomatch hv
  | cons f fields ih =>
    rw [List.map_cons, List.nodup_cons] at hdistinct
    rw [List.map_cons, List.lookup_cons]
    rcases List.mem_cons.mp hv with rfl | hv
    · rw [beq_self_eq_true]
    · have hname : (name == f.1) = false := beq_eq_false_iff_ne.mpr fun heq =>
        hdistinct.1 (heq ▸ List.mem_map_of_mem hv)
      rw [hname]
      exact ih hdistinct.2 hv

variable {α : Type} {read : Spelled → Option α} {i : Nat} {name : String} {v : Json String} {a : α}

/-- The field at some place is read, if it has the right name and value. -/
lemma required?_spelled (hdistinct : (fields.map (·.1)).Nodup) (i : Nat)
    (hv : fields[i]? = some (name, v)) (hread : read (spelled v) = some a) :
    required? (fields.map fun f => (f.1, spelled f.2)) name read = some a := by
  rw [required?, lookup_spelled hdistinct (List.mem_of_getElem? hv)]
  exact hread

/-- A field that may be missing is read from its place in the list. -/
lemma optional?_spelled {missing : α} (hdistinct : (fields.map (·.1)).Nodup) (i : Nat)
    (hv : fields[i]? = some (name, v)) (hread : read (spelled v) = some a) :
    optional? (fields.map fun f => (f.1, spelled f.2)) name missing read = some a := by
  rw [optional?, lookup_spelled hdistinct (List.mem_of_getElem? hv)]
  exact hread

/-- A text is read from its own spelling. -/
lemma string?_spelled (t : String) : string? (spelled (text t)) = some t := by
  rw [spelled, string?, text?_spell]

/-- A truth value is read from its own spelling. -/
lemma bool?_spelled (b : Bool) : bool? (spelled (bool b)) = some b := by
  rw [spelled, bool?]

/-- A list is read from its own spelling, given that each of its items is. -/
lemma list?_spelled {write : α → Json String}
    (h : ∀ a, read (spelled (write a)) = some a) (l : List α) :
    list? read (spelled (list (l.map write))) = some l := by
  rw [spelled, list?, List.map_map, List.mapM_map]
  induction l with
  | nil => rfl
  | cons a l ih =>
    rw [List.mapM_cons, ih]
    simp [h]

end Json

/-- A state is read back. -/
lemma State.ofJson?_spelled (s : State) : State.ofJson? (spelled s.toJson) = some s := by
  simp [State.toJson, spelled, State.ofJson?, text?_spell]

/-- A processor is read back, whatever the room. -/
lemma Processor.ofJson?_spelled {room : Nat} (p : Processor) :
    Processor.ofJson? room (spelled p.toJson) = some p := by
  cases p <;>
    simp [Processor.toJson, Processor.kind, Processor.payload, Processor.ofJson?,
      Processor.ofKind?, spelled, allFieldsPlain, isFieldPlain, isPlain, single?, string?,
      text?_spell]

/-- A transition entry is read back. -/
lemma TransitionEntry.ofJson?_spelled (e : TransitionEntry) :
    TransitionEntry.ofJson? (spelled e.toJson) = some e := by
  have hdistinct : ["from", "on", "to"].Nodup := by decide
  rw [toJson, ofJson?, fieldsOf?_spelled (by rfl) (by rfl), Option.bind_eq_bind, Option.bind_some,
    required?_spelled (by exact hdistinct) 0 (by rfl) (State.ofJson?_spelled _),
    required?_spelled (by exact hdistinct) 1 (by rfl) (string?_spelled _),
    required?_spelled (by exact hdistinct) 2 (by rfl) (State.ofJson?_spelled _)]
  rfl

/-- A wildcard entry is read back. -/
lemma WildcardEntry.ofJson?_spelled (e : WildcardEntry) :
    WildcardEntry.ofJson? (spelled e.toJson) = some e := by
  have hdistinct : ["from", "to"].Nodup := by decide
  rw [toJson, ofJson?, fieldsOf?_spelled (by rfl) (by rfl), Option.bind_eq_bind, Option.bind_some,
    required?_spelled (by exact hdistinct) 0 (by rfl) (State.ofJson?_spelled _),
    required?_spelled (by exact hdistinct) 1 (by rfl) (State.ofJson?_spelled _)]
  rfl

/-- A target that may be missing is read back. -/
lemma State.maybe?_spelled (target : Option State) :
    maybe? State.ofJson? (spelled ((target.map State.toJson).getD .null)) = some target := by
  cases target with
  | none =>
    rw [Option.map_none, Option.getD_none, spelled]
    rfl
  | some target => simp [State.toJson, spelled, maybe?, State.ofJson?, text?_spell]

/-- A processor entry is read back. -/
lemma ProcessorEntry.ofJson?_spelled (e : ProcessorEntry) :
    ProcessorEntry.ofJson? (spelled e.toJson) = some e := by
  have hdistinct : ["from", "to", "processor"].Nodup := by decide
  rw [toJson, ofJson?, fieldsOf?_spelled (by rfl) (by rfl), Option.bind_eq_bind, Option.bind_some,
    required?_spelled (by exact hdistinct) 0 (by rfl) (State.ofJson?_spelled _),
    optional?_spelled (by exact hdistinct) 1 (by rfl) (State.maybe?_spelled _),
    required?_spelled (by exact hdistinct) 2 (by rfl) (Processor.ofJson?_spelled _)]
  rfl

/-- An edge entry is read back. -/
lemma EdgeEntry.ofJson?_spelled (e : EdgeEntry) :
    EdgeEntry.ofJson? (spelled e.toJson) = some e := by
  have hdistinct : ["from", "to", "markup"].Nodup := by decide
  rw [toJson, ofJson?, fieldsOf?_spelled (by rfl) (by rfl), Option.bind_eq_bind, Option.bind_some,
    required?_spelled (by exact hdistinct) 0 (by rfl) (State.ofJson?_spelled _),
    required?_spelled (by exact hdistinct) 1 (by rfl) (State.ofJson?_spelled _),
    required?_spelled (by exact hdistinct) 2 (by rfl) (string?_spelled _)]
  rfl

/-- A closure entry is read back. -/
lemma ClosureEntry.ofJson?_spelled (e : ClosureEntry) :
    ClosureEntry.ofJson? (spelled e.toJson) = some e := by
  have hdistinct : ["state", "markup"].Nodup := by decide
  rw [toJson, ofJson?, fieldsOf?_spelled (by rfl) (by rfl), Option.bind_eq_bind, Option.bind_some,
    required?_spelled (by exact hdistinct) 0 (by rfl) (State.ofJson?_spelled _),
    required?_spelled (by exact hdistinct) 1 (by rfl) (string?_spelled _)]
  rfl

/-- A keyword entry is read back. -/
lemma KeywordEntry.ofJson?_spelled (e : KeywordEntry) :
    KeywordEntry.ofJson? (spelled e.toJson) = some e := by
  have hdistinct : ["class", "words"].Nodup := by decide
  rw [toJson, ofJson?, fieldsOf?_spelled (by rfl) (by rfl), Option.bind_eq_bind, Option.bind_some,
    required?_spelled (by exact hdistinct) 0 (by rfl) (string?_spelled _),
    required?_spelled (by exact hdistinct) 1 (by rfl) (list?_spelled string?_spelled _)]
  rfl

/-- A document is read back, field by field. -/
lemma Document.ofJson?_spelled (d : Document) :
    Document.ofJson? (spelled d.toJson) = some d := by
  have hdistinct : Document.fieldNames.Nodup := by decide
  rw [toJson, ofJson?, fieldsOf?_spelled (by rfl) (by rfl), Option.bind_eq_bind, Option.bind_some,
    required?_spelled (by exact hdistinct) 0 (by rfl) (string?_spelled _),
    required?_spelled (by exact hdistinct) 1 (by rfl) (State.ofJson?_spelled _),
    required?_spelled (by exact hdistinct) 2 (by rfl) (list?_spelled TransitionEntry.ofJson?_spelled _),
    required?_spelled (by exact hdistinct) 3 (by rfl) (list?_spelled WildcardEntry.ofJson?_spelled _),
    optional?_spelled (by exact hdistinct) 4 (by rfl) (list?_spelled ProcessorEntry.ofJson?_spelled _),
    optional?_spelled (by exact hdistinct) 5 (by rfl) (list?_spelled EdgeEntry.ofJson?_spelled _),
    optional?_spelled (by exact hdistinct) 6 (by rfl) (list?_spelled ClosureEntry.ofJson?_spelled _),
    optional?_spelled (by exact hdistinct) 7 (by rfl) (list?_spelled KeywordEntry.ofJson?_spelled _),
    optional?_spelled (by exact hdistinct) 8 (by rfl) (bool?_spelled _),
    optional?_spelled (by exact hdistinct) 9 (by rfl) (string?_spelled _),
    required?_spelled (by exact hdistinct) 10 (by rfl) (Processor.ofJson?_spelled _)]
  rfl

/-- There is no number in a list when there is none in its items. -/
lemma Json.numberless_list {α : Type} {write : α → Json String} (h : ∀ a, Numberless (write a))
    (l : List α) : Numberless (list (l.map write)) :=
  .list fun item hitem => by
    obtain ⟨a, -, rfl⟩ := List.mem_map.mp hitem
    exact h a

/-- There is no number in what is written of a processor. -/
lemma Processor.numberless_toJson (p : Processor) : Numberless p.toJson :=
  .record fun field hfield => by
    cases p <;> simp only [payload, List.mem_cons, List.not_mem_nil, or_false] at hfield
    case escapeCarry | putback | putbackTrim =>
      obtain rfl | rfl := hfield <;> exact .text _
    all_goals
      rw [hfield]
      exact .text _

/-- There is no number in what is written of a document. -/
lemma Document.numberless_toJson (d : Document) : Numberless d.toJson := by
  have htransition : ∀ e : TransitionEntry, Numberless e.toJson := fun e =>
    .record (by simp [State.toJson, Numberless.text])
  have hwildcard : ∀ e : WildcardEntry, Numberless e.toJson := fun e =>
    .record (by simp [State.toJson, Numberless.text])
  have hprocessor : ∀ e : ProcessorEntry, Numberless e.toJson := fun e =>
    .record (by
      cases e.target <;>
        simp [State.toJson, Numberless.text, Numberless.null, Processor.numberless_toJson])
  have hedge : ∀ e : EdgeEntry, Numberless e.toJson := fun e =>
    .record (by simp [State.toJson, Numberless.text])
  have hclosure : ∀ e : ClosureEntry, Numberless e.toJson := fun e =>
    .record (by simp [State.toJson, Numberless.text])
  have hkeyword : ∀ e : KeywordEntry, Numberless e.toJson := fun e =>
    .record (by simp [Json.texts, Numberless.text, numberless_list Numberless.text])
  exact .record (by
    simp [State.toJson, Numberless.text, Numberless.bool, Processor.numberless_toJson,
      numberless_list htransition, numberless_list hwildcard, numberless_list hprocessor,
      numberless_list hedge, numberless_list hclosure, numberless_list hkeyword])

/-- A document is read back from the file that is written of it. -/
theorem Document.parse?_toJson (d : Document) :
    parse? (Utf8.ofString d.toJson.pretty) >>= Document.ofJson? = some d := by
  rw [parse?_pretty d.numberless_toJson]
  exact d.ofJson?_spelled

end Highlighter
