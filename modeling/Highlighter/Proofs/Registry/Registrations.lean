import Highlighter.Proofs.Registry.Records

/-!
# Sequences of registrations

What a registry tells after any number of registrations, from nothing or from the built-in languages.
Main statement: `lists_registerEach`, it tells what the records tell in which the same grammars were
entered one after the other, in the order in which their names came up first.
-/

namespace Highlighter.Registry

/-- A grammar to be registered, with the extensions that it brings. -/
abbrev Registration := Grammar × List String

/-- The registry after some registrations. -/
def registerEach (r : Registry) (calls : List Registration) : Registry :=
  calls.foldl (fun r call => r.register call.1 call.2) r

/-- The records after some registrations. -/
def enterEach (records : List Record) (calls : List Registration) : List Record :=
  calls.foldl (fun records call => enter records call.1 call.2) records

/-- Where a sequence of registrations begins. -/
inductive Beginning where
  | empty
  | builtin

/-- The record of a built-in language. -/
def Record.ofLanguage (l : Language) : Record :=
  ⟨Unicode.lowercase l.name, l.grammar, l.extensions⟩

namespace Beginning

/-- The registry at the beginning. -/
def registry : Beginning → Registry
  | empty => .empty
  | builtin => .builtin

/-- The records at the beginning. -/
def records : Beginning → List Record
  | empty => []
  | builtin => Language.all.map Record.ofLanguage

end Beginning

variable {r : Registry} {records : List Record}

/-- The empty registry lists no record. -/
lemma lists_empty : empty.Lists [] := ⟨rfl, by simp [empty], by simp [empty]⟩

/-- Registering grammar after grammar enters one after the other. -/
lemma Lists.registerEach (h : r.Lists records) (calls : List Registration) :
    (r.registerEach calls).Lists (enterEach records calls) := by
  induction calls generalizing r records with
  | nil => exact h
  | cons call calls ih => exact ih (h.register call.1 call.2)

/-- Entering a grammar keeps the names in place and lists a new one last. -/
lemma keys_enter (records : List Record) (g : Grammar) (exts : List String) :
    (enter records g exts).map (·.key) =
      if Unicode.lowercase g.name ∈ records.map (·.key) then records.map (·.key)
      else records.map (·.key) ++ [Unicode.lowercase g.name] := by
  rw [enter]
  split
  · rw [List.map_map]
    refine List.map_congr_left fun c _ => ?_
    simp only [Function.comp_apply, Record.renew, Record.without, apply_ite Record.key, ite_self]
  · simp

/-- A list without duplicates has none to lose. -/
lemma eraseDups_of_nodup {keys : List String} (h : keys.Nodup) : keys.eraseDups = keys := by
  induction keys with
  | nil => rfl
  | cons key keys ih =>
    obtain ⟨hkey, hkeys⟩ := List.nodup_cons.mp h
    have hfilter : keys.filter (fun k => !k == key) = keys :=
      List.filter_eq_self.mpr fun k hk => by simpa using ne_of_mem_of_not_mem hk hkey
    rw [List.eraseDups_cons, hfilter, ih hkeys]

/-- Names keep the order in which they came up first. -/
lemma Lists.keys_enterEach (h : r.Lists records) (calls : List Registration) :
    (enterEach records calls).map (·.key) =
      (records.map (·.key) ++ calls.map fun call => Unicode.lowercase call.1.name).eraseDups := by
  induction calls generalizing r records with
  | nil =>
    rw [List.map_nil, List.append_nil, eraseDups_of_nodup h.nodup_keys]
    rfl
  | cons call calls ih =>
    refine (ih (h.register call.1 call.2)).trans ?_
    rw [keys_enter, List.map_cons]
    split
    · rename_i hknown
      rw [List.eraseDups_append, List.eraseDups_append, List.cons_removeAll,
        if_neg (by simpa using hknown)]
    · rw [List.append_assoc, List.singleton_append]

/-- A grammar of a new name, with extensions that no record has, is only listed. -/
lemma enter_of_new {g : Grammar} {exts : List String}
    (hkey : Unicode.lowercase g.name ∉ records.map (·.key))
    (hexts : ∀ c ∈ records, c.extensions.Disjoint (exts.map normalExtension)) :
    enter records g exts =
      records ++ [⟨Unicode.lowercase g.name, g, exts.map normalExtension⟩] := by
  have hwithout : records.map (·.without (exts.map normalExtension)) = records := by
    conv_rhs => rw [← List.map_id records]
    exact List.map_congr_left fun c hc => Record.without_eq_self fun ext hext => hexts c hc hext
  rw [enter, if_neg hkey, hwithout]

/-- The extensions of a language are in normal form. -/
lemma normalExtension_extensions (l : Language) :
    l.extensions.map normalExtension = l.extensions := by
  cases l <;> decide +kernel

/-- Two languages have no extension in common. -/
lemma disjoint_extensions_of_ne {l l' : Language} (h : l ≠ l') :
    l.extensions.Disjoint l'.extensions := by
  have hall : ∀ l ∈ Language.all, ∀ l' ∈ Language.all, l ≠ l' →
      ∀ ext ∈ l.extensions, ext ∉ l'.extensions := by decide +kernel
  exact fun ext hext hext' => hall l (Language.mem_all l) l' (Language.mem_all l') h ext hext hext'

/-- Entering languages one after the other lists their records. -/
lemma enterEach_languages {before languages : List Language} (h : (before ++ languages).Nodup) :
    enterEach (before.map .ofLanguage) (languages.map fun l => (l.grammar, l.extensions)) =
      (before ++ languages).map .ofLanguage := by
  induction languages generalizing before with
  | nil => rw [List.append_nil]; rfl
  | cons l languages ih =>
    have hnew : ∀ l' ∈ before, l' ≠ l := fun l' hl' heq =>
      (List.nodup_append.mp h).2.2 l' hl' l List.mem_cons_self heq
    have hkey : Unicode.lowercase l.grammar.name ∉ (before.map Record.ofLanguage).map (·.key) := by
      rw [Language.name_grammar, List.map_map]
      intro hmem
      obtain ⟨l', hl', hkey⟩ := List.mem_map.mp hmem
      exact hnew l' hl' (Language.lowercase_name_injective hkey)
    have hexts : ∀ c ∈ before.map Record.ofLanguage,
        c.extensions.Disjoint (l.extensions.map normalExtension) := by
      intro c hc
      obtain ⟨l', hl', rfl⟩ := List.mem_map.mp hc
      rw [normalExtension_extensions]
      exact disjoint_extensions_of_ne (hnew l' hl')
    have henter : enter (before.map .ofLanguage) l.grammar l.extensions =
        (before ++ [l]).map .ofLanguage := by
      rw [enter_of_new hkey hexts, normalExtension_extensions, Language.name_grammar]
      simp [Record.ofLanguage]
    rw [List.map_cons, enterEach, List.foldl_cons, henter, ← enterEach, ih, List.append_assoc,
      List.singleton_append]
    rwa [List.append_assoc, List.singleton_append]

/-- The built-in registry tells of every built-in language, in order. -/
lemma lists_builtin : builtin.Lists (Language.all.map .ofLanguage) := by
  have hcalls : builtin =
      empty.registerEach (Language.all.map fun l => (l.grammar, l.extensions)) := by
    rw [builtin_eq, registerAll, registerEach, List.foldl_map]
  have hrecords := @enterEach_languages [] Language.all (by decide)
  rw [List.map_nil, List.nil_append] at hrecords
  rw [hcalls, ← hrecords]
  exact lists_empty.registerEach _

/-- The built-in registry lists the names of all languages. -/
lemma names_builtin : builtin.names = Language.all.map (·.name) := by
  rw [lists_builtin.names_eq, List.map_map]
  exact List.map_congr_left fun l _ => l.name_grammar

/-- No name is listed twice in the built-in registry. -/
lemma nodup_names_builtin : builtin.names.Nodup := by
  rw [names_builtin]
  decide

/-- At the beginning the registry lists the records that belong there. -/
lemma Beginning.lists (b : Beginning) : b.registry.Lists b.records := by
  cases b with
  | empty => exact lists_empty
  | builtin => exact lists_builtin

/-- A registry is a list of records. After any registrations the entries and both maps tell of
the records in which the same grammars were entered one after the other. No two of these share a
name or an extension, and they stand in the order in which their names came up first. A grammar is
found by the name and by the extensions of its record alone, and the listings follow the
records. -/
theorem lists_registerEach (b : Beginning) (calls : List Registration) :
    let r := b.registry.registerEach calls
    let records := enterEach b.records calls
    r.Lists records ∧
      (records.map (·.key)).Nodup ∧
      (records.Pairwise fun c d => c.extensions.Disjoint d.extensions) ∧
      records.map (·.key) =
        (b.records.map (·.key) ++ calls.map fun call => Unicode.lowercase call.1.name).eraseDups ∧
      (∀ name, r.byName? name =
        (records.find? fun c => c.key = Unicode.lowercase name).map (·.grammar)) ∧
      (∀ ext, r.forExtension? ext =
        (records.find? fun c => normalExtension ext ∈ c.extensions).map (·.grammar)) ∧
      r.names = records.map (·.grammar.name) ∧
      r.catalog = records.map (·.entry.summary) ∧
      r.size = records.length := by
  intro r records
  have h : r.Lists records := b.lists.registerEach calls
  exact ⟨h, h.nodup_keys, h.disjoint_extensions, b.lists.keys_enterEach calls, h.byName?_eq,
    h.forExtension?_eq, h.names_eq, h.catalog_eq, h.size_eq⟩

end Highlighter.Registry
