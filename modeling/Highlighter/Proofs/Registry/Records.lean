import Highlighter.Proofs.Registry.ByName

/-!
# Registries as lists of records

A registry keeps its grammars in one list and their places in two maps. Seen from outside it is a
list of records: a name in small letters, a grammar, and the extensions that belong to it.
`Registry.Lists` says that the list and both maps tell of the same records, so no two records share
a name or an extension. Main statements: `Lists.register`, registering enters the grammar in the
records, and what is found by name and by extension in terms of them (`Lists.byName?_eq`,
`Lists.forExtension?_eq`).
-/

namespace Highlighter.Registry

/-- What is on record about a grammar: its name in small letters, the grammar, and the extensions
that belong to it. -/
structure Record where
  key : String
  grammar : Grammar
  extensions : List String
  deriving DecidableEq

namespace Record

/-- The entry of a record. -/
def entry (c : Record) : Entry := ⟨c.grammar, c.extensions⟩

/-- The record with some extensions lost. -/
def without (c : Record) (exts : List String) : Record :=
  { c with extensions := c.extensions.filter fun ext => ext ∉ exts }

/-- The record with another grammar, and with other extensions if there are any. -/
def renew (c : Record) (g : Grammar) (exts : List String) : Record :=
  { c with grammar := g, extensions := if exts.isEmpty then c.extensions else exts }

/-- Losing extensions leaves the name of a record as it is. -/
@[simp] lemma key_without (c : Record) (exts : List String) : (c.without exts).key = c.key := rfl

/-- What is left to a record is what it had and did not lose. -/
lemma mem_extensions_without {c : Record} {exts : List String} {ext : String} :
    ext ∈ (c.without exts).extensions ↔ ext ∈ c.extensions ∧ ext ∉ exts := by
  simp [without]

/-- A record loses nothing when it has none of the extensions. -/
lemma without_eq_self {c : Record} {exts : List String} (h : ∀ ext ∈ c.extensions, ext ∉ exts) :
    c.without exts = c := by
  have hfilter : (c.extensions.filter fun ext => ext ∉ exts) = c.extensions :=
    List.filter_eq_self.mpr fun ext hext => decide_eq_true (h ext hext)
  rw [without, hfilter]

/-- With no extensions to lose, the record stays the same. -/
lemma without_nil (c : Record) : c.without [] = c := without_eq_self fun _ _ => List.not_mem_nil

/-- Two losses, one after the other, are one loss of both lists. -/
lemma without_without (c : Record) (exts exts' : List String) :
    (c.without exts).without exts' = c.without (exts ++ exts') := by
  simp [without, List.filter_filter, Bool.and_comm]

end Record

/-- Enters a grammar in a list of records. The record of the same name is renewed, and a new one
comes last; extensions that the grammar brings are lost to all other records. -/
def enter (records : List Record) (g : Grammar) (extensions : List String) : List Record :=
  let key := Unicode.lowercase g.name
  let exts := extensions.map normalExtension
  if key ∈ records.map (·.key) then
    records.map fun c => if c.key = key then c.renew g exts else c.without exts
  else records.map (·.without exts) ++ [⟨key, g, exts⟩]

/-- The records in which every place but one has lost some extensions. -/
def deprive (place : Nat) (exts : List String) (records : List Record) : List Record :=
  records.mapIdx fun i c => if i = place then c else c.without exts

/-- The registry lists the records and finds each one under its name, and each one but that of one
place under its extensions. -/
structure ListsBeside (place : Nat) (r : Registry) (records : List Record) : Prop where
  entries : r.entries = records.map (·.entry)
  placeOfName : ∀ {key i}, r.placeOfName key = some i ↔
    ∃ c, records[i]? = some c ∧ c.key = key
  placeOfExtension : ∀ {ext i}, i ≠ place → (r.placeOfExtension ext = some i ↔
    ∃ c, records[i]? = some c ∧ ext ∈ c.extensions)

/-- The registry lists just the records, and finds each one under its name and its extensions. -/
structure Lists (r : Registry) (records : List Record) : Prop where
  entries : r.entries = records.map (·.entry)
  placeOfName : ∀ {key place}, r.placeOfName key = some place ↔
    ∃ c, records[place]? = some c ∧ c.key = key
  placeOfExtension : ∀ {ext place}, r.placeOfExtension ext = some place ↔
    ∃ c, records[place]? = some c ∧ ext ∈ c.extensions

variable {r : Registry} {records : List Record} {place : Nat}

/-- What stands at a place of the deprived list. -/
lemma getElem?_deprive (exts : List String) (i : Nat) :
    (deprive place exts records)[i]? =
      (records[i]?).map fun c => if i = place then c else c.without exts :=
  List.getElem?_mapIdx

/-- A statement about the record at a place of the deprived list, told of the record before it. -/
lemma exists_deprive {exts : List String} {i : Nat} {p : Record → Prop} :
    (∃ c, (deprive place exts records)[i]? = some c ∧ p c) ↔
      ∃ c, records[i]? = some c ∧ p (if i = place then c else c.without exts) := by
  simp [getElem?_deprive]

/-- With no extensions to lose, the list stays the same. -/
lemma deprive_nil : deprive place [] records = records := by
  refine List.ext_getElem? fun i => ?_
  simp [getElem?_deprive, Record.without_nil]

/-- The list is deprived of two lists of extensions as it is of both together. -/
lemma deprive_deprive (exts exts' : List String) :
    deprive place exts' (deprive place exts records) = deprive place (exts ++ exts') records := by
  refine List.ext_getElem? fun i => ?_
  simp only [getElem?_deprive, Option.map_map]
  congr 1
  funext c
  simp only [Function.comp_apply]
  split
  · rfl
  · exact Record.without_without c exts exts'

/-- Claiming an extension takes it from the entry at the place where it is found, if that is another
one. -/
lemma getElem?_entries_claim (r : Registry) (place : Nat) (ext : String) (i : Nat) :
    (r.claim place ext).entries[i]? = (r.entries[i]?).map fun e =>
      if r.placeOfExtension ext = some i ∧ i ≠ place then
        { e with extensions := e.extensions.filter (· != ext) }
      else e := by
  simp only [claim]
  cases howner : r.placeOfExtension ext with
  | none => simp
  | some owner =>
    by_cases hplace : owner = place
    · subst hplace
      simp only [if_true, Option.some.injEq]
      rw [Option.map_congr (g := id), Option.map_id_fun, id]
      rintro e -
      rw [if_neg fun hi => hi.2 hi.1.symm, id]
    · simp only [if_neg hplace, List.getElem?_modify, Option.map_eq_map, Option.some.injEq]
      congr 1
      funext e
      by_cases hi : owner = i
      · subst hi
        simp [hplace]
      · simp [hi]

/-- The extension claimed leads to the place it is claimed for, all others lead where they led. -/
lemma placeOfExtension_claim (r : Registry) (place : Nat) (ext x : String) :
    (r.claim place ext).placeOfExtension x =
      if x = ext then some place else r.placeOfExtension x := rfl

/-- Claiming one extension deprives the records of all other places of it. -/
lemma ListsBeside.claim (h : r.ListsBeside place records) (ext : String) :
    (r.claim place ext).ListsBeside place (deprive place [ext] records) where
  entries := by
    refine List.ext_getElem? fun i => ?_
    rw [getElem?_entries_claim, h.entries, List.getElem?_map, List.getElem?_map, getElem?_deprive,
      Option.map_map, Option.map_map]
    refine Option.map_congr fun c hc => ?_
    simp only [Function.comp_apply]
    by_cases hi : i = place
    · rw [if_neg fun h => h.2 hi, if_pos hi]
    · rw [if_neg hi]
      by_cases howner : r.placeOfExtension ext = some i
      · rw [if_pos ⟨howner, hi⟩]
        have hfilter : ∀ x, (x != ext) = decide (x ∉ [ext]) := fun x => by
          by_cases hx : x = ext <;> simp [hx]
        simp only [Record.entry, Record.without, hfilter]
      -- the record does not have the extension, so there is nothing to lose
      · rw [if_neg fun h => howner h.1, Record.without_eq_self]
        rintro x hx hmem
        rw [List.mem_singleton.mp hmem] at hx
        exact howner ((h.placeOfExtension hi).mpr ⟨c, hc, hx⟩)
  placeOfName := by
    intro key i
    rw [exists_deprive]
    refine h.placeOfName.trans ?_
    simp only [apply_ite Record.key, Record.key_without, ite_self]
  placeOfExtension := by
    intro x i hi
    rw [exists_deprive, placeOfExtension_claim]
    simp only [if_neg hi, Record.mem_extensions_without, List.mem_singleton]
    split
    · rename_i hx
      simp [hx, hi.symm]
    · rename_i hx
      simp [hx, h.placeOfExtension hi]

/-- Claiming extension after extension deprives the other places of all of them, and each of them
then leads to the place that claims. -/
lemma foldl_claim (h : r.ListsBeside place records) (exts : List String) :
    (exts.foldl (Registry.claim place) r).ListsBeside place (deprive place exts records) ∧
      ∀ x, (exts.foldl (Registry.claim place) r).placeOfExtension x =
        if x ∈ exts then some place else r.placeOfExtension x := by
  induction exts generalizing r records with
  | nil => exact ⟨by rwa [deprive_nil], fun _ => rfl⟩
  | cons ext exts ih =>
    obtain ⟨hlists, hplaces⟩ := ih (h.claim ext)
    rw [deprive_deprive, List.singleton_append] at hlists
    refine ⟨hlists, fun x => ?_⟩
    rw [List.foldl_cons, hplaces, placeOfExtension_claim]
    by_cases hx : x = ext <;> simp [hx]

/-- Forgetting extensions that lead to the place set apart touches none of the other records. -/
lemma ListsBeside.eraseAll (h : r.ListsBeside place records) {dropped : List String}
    (hdropped : ∀ ext ∈ dropped, r.placeOfExtension ext = some place) :
    ListsBeside place { r with placeOfExtension := r.placeOfExtension.eraseAll dropped }
      records := by
  refine ⟨h.entries, h.placeOfName, fun {ext i} hi => ?_⟩
  rw [← h.placeOfExtension hi]
  simp only [PartialMap.eraseAll_apply]
  split
  · rename_i hext
    simp [hdropped ext hext, Ne.symm hi]
  · rfl

/-- The records in which one place has just some extensions, and no other place has any of them. -/
def grant (place : Nat) (exts : List String) (records : List Record) : List Record :=
  records.mapIdx fun i c => if i = place then { c with extensions := exts } else c.without exts

/-- What stands at a place once extensions are granted. -/
lemma getElem?_grant (exts : List String) (i : Nat) :
    (grant place exts records)[i]? = (records[i]?).map fun c =>
      if i = place then { c with extensions := exts } else c.without exts :=
  List.getElem?_mapIdx

/-- A statement about the record at a place once extensions are granted, told of the record before
it. -/
lemma exists_grant {exts : List String} {i : Nat} {p : Record → Prop} :
    (∃ c, (grant place exts records)[i]? = some c ∧ p c) ↔ ∃ c, records[i]? = some c ∧
      p (if i = place then { c with extensions := exts } else c.without exts) := by
  simp [getElem?_grant]

/-- Once the extensions of the place are settled, the registry lists all the records. -/
lemma ListsBeside.settle (h : r.ListsBeside place records) (hplace : place < records.length)
    {exts : List String} (hleft : ∀ ext, r.placeOfExtension ext = some place → ext ∈ exts) :
    (r.settle place exts).Lists (grant place exts records) := by
  obtain ⟨hlists, hplaces⟩ := foldl_claim h exts
  -- the entries, the places of names and the places of extensions are looked at one by one
  refine ⟨?_, fun {key i} => ?_, fun {x i} => ?_⟩
  · refine List.ext_getElem? fun i => ?_
    simp only [Registry.settle, hlists.entries, List.getElem?_modify, List.getElem?_map,
      getElem?_deprive, getElem?_grant, Option.map_eq_map, Option.map_map]
    congr 1
    funext c
    by_cases hi : i = place
    · simp [hi, Record.entry]
    · simp [hi, Ne.symm hi]
  · rw [exists_grant]
    refine hlists.placeOfName.trans (exists_deprive.trans ?_)
    simp only [apply_ite Record.key, Record.key_without, ite_self]
  · change (exts.foldl (Registry.claim place) r).placeOfExtension x = some i ↔ _
    rw [hplaces, exists_grant]
    by_cases hi : i = place
    · subst hi
      simp only [if_true, List.getElem?_eq_getElem hplace, Option.some.injEq, exists_eq_left']
      split
      · simp [*]
      · rename_i hx
        exact iff_of_false (fun hfound => hx (hleft x hfound)) hx
    · simp only [if_neg hi, Record.mem_extensions_without]
      split
      · rename_i hx
        simp [hx, Ne.symm hi]
      · rename_i hx
        simp [hx, h.placeOfExtension hi]

/-- A statement about the record at a place of a list modified at one place. -/
lemma exists_modify {i : Nat} {f : Record → Record} {p : Record → Prop} :
    (∃ c, (records.modify place f)[i]? = some c ∧ p c) ↔
      ∃ c, records[i]? = some c ∧ p (if place = i then f c else c) := by
  simp [List.getElem?_modify]

/-- A statement about the record at a place of a list with one more record at its end. -/
lemma exists_concat {new : Record} {i : Nat} {p : Record → Prop} :
    (∃ c, (records ++ [new])[i]? = some c ∧ p c) ↔
      (∃ c, records[i]? = some c ∧ p c) ∨ (i = records.length ∧ p new) := by
  rcases Nat.lt_trichotomy i records.length with hi | rfl | hi
  · simp [List.getElem?_append_left hi, hi.ne]
  · simp
  · have hnone : (records ++ [new])[i]? = none :=
      List.getElem?_eq_none (by rw [List.length_append]; exact hi)
    simp [hnone, hi.le, hi.ne']

namespace Lists

/-- A registry that lists the records lists them beside any of their places. -/
lemma beside (h : r.Lists records) (place : Nat) : r.ListsBeside place records :=
  ⟨h.entries, h.placeOfName, fun _ => h.placeOfExtension⟩

/-- Each name is recorded at one place only. -/
lemma place_eq_of_key (h : r.Lists records) {i j : Nat} {c d : Record} (hc : records[i]? = some c)
    (hd : records[j]? = some d) (hkey : c.key = d.key) : i = j := by
  have hi : r.placeOfName d.key = some i := h.placeOfName.mpr ⟨c, hc, hkey⟩
  have hj : r.placeOfName d.key = some j := h.placeOfName.mpr ⟨d, hd, rfl⟩
  exact Option.some.inj (hi.symm.trans hj)

/-- Two records of one name are the same record. -/
lemma eq_of_key (h : r.Lists records) {c d : Record} (hc : c ∈ records) (hd : d ∈ records)
    (hkey : c.key = d.key) : c = d := by
  obtain ⟨i, hi⟩ := List.mem_iff_getElem?.mp hc
  obtain ⟨j, hj⟩ := List.mem_iff_getElem?.mp hd
  obtain rfl := h.place_eq_of_key hi hj hkey
  exact Option.some.inj (hi.symm.trans hj)

/-- Each extension is recorded at one place only. -/
lemma place_eq_of_extension (h : r.Lists records) {i j : Nat} {c d : Record}
    (hc : records[i]? = some c) (hd : records[j]? = some d) {ext : String}
    (hext : ext ∈ c.extensions) (hext' : ext ∈ d.extensions) : i = j := by
  have hi : r.placeOfExtension ext = some i := h.placeOfExtension.mpr ⟨c, hc, hext⟩
  have hj : r.placeOfExtension ext = some j := h.placeOfExtension.mpr ⟨d, hd, hext'⟩
  exact Option.some.inj (hi.symm.trans hj)

/-- A name leads nowhere exactly when no record has it. -/
lemma placeOfName_eq_none (h : r.Lists records) {key : String} :
    r.placeOfName key = none ↔ key ∉ records.map (·.key) := by
  constructor
  · rintro hnone hmem
    obtain ⟨c, hc, rfl⟩ := List.mem_map.mp hmem
    obtain ⟨i, hi⟩ := List.mem_iff_getElem?.mp hc
    rw [h.placeOfName.mpr ⟨c, hi, rfl⟩] at hnone
    exact nomatch hnone
  · intro hnew
    rw [Option.eq_none_iff_forall_ne_some]
    intro i hi
    obtain ⟨c, hc, rfl⟩ := h.placeOfName.mp hi
    exact hnew (List.mem_map_of_mem (List.mem_of_getElem? hc))

/-- A grammar of a new name is listed last, and its extensions are lost to the records before it. -/
lemma append (h : r.Lists records) {g : Grammar} {key : String} (hnew : key ∉ records.map (·.key))
    (exts : List String) :
    (r.append key g exts).Lists (records.map (·.without exts) ++ [⟨key, g, exts⟩]) := by
  have hlength : r.entries.length = records.length := by rw [h.entries, List.length_map]
  -- before the extensions are settled, the registry lists all records but the last one
  have hbeside : Registry.ListsBeside records.length
      { r with entries := r.entries ++ [⟨g, []⟩],
               placeOfName := r.placeOfName.insert key records.length }
      (records ++ [⟨key, g, []⟩]) := by
    refine ⟨by simp [h.entries, Record.entry], fun {key' i} => ?_, fun {x i} hi => ?_⟩
    · rw [exists_concat]
      change r.placeOfName.insert key records.length key' = some i ↔ _
      rw [PartialMap.insert_apply]
      split
      · rename_i hkey
        subst hkey
        have hfresh : ¬ ∃ c, records[i]? = some c ∧ c.key = key' := fun ⟨c, hc, hkey⟩ =>
          hnew (hkey ▸ List.mem_map_of_mem (List.mem_of_getElem? hc))
        rw [or_iff_right hfresh, Option.some.injEq]
        exact ⟨fun h => ⟨h.symm, rfl⟩, fun h => h.1.symm⟩
      · rename_i hkey
        simp [h.placeOfName, Ne.symm hkey]
    · rw [exists_concat, h.placeOfExtension]
      simp
  -- no extension can lead to a place that is new
  have hleft : ∀ ext, r.placeOfExtension ext = some records.length → ext ∈ exts := by
    intro ext hext
    obtain ⟨c, hc, -⟩ := h.placeOfExtension.mp hext
    simp at hc
  have hsettled := hbeside.settle (by simp) hleft
  have hgrant : grant records.length exts (records ++ [⟨key, g, []⟩]) =
      records.map (·.without exts) ++ [⟨key, g, exts⟩] := by
    refine List.ext_getElem? fun i => ?_
    rw [getElem?_grant]
    rcases Nat.lt_trichotomy i records.length with hi | rfl | hi
    · simp [List.getElem?_append_left, hi, hi.ne]
    · simp
    · rw [List.getElem?_eq_none (by rw [List.length_append]; exact hi),
        List.getElem?_eq_none (by rw [List.length_append, List.length_map]; exact hi)]
      rfl
  rw [hgrant] at hsettled
  rw [Registry.append, hlength]
  exact hsettled

/-- Changing the grammar at a place changes it in the record of that place. -/
lemma modify (h : r.Lists records) (place : Nat) (g : Grammar) :
    Registry.Lists { r with entries := r.entries.modify place fun e => { e with grammar := g } }
      (records.modify place fun c => { c with grammar := g }) where
  entries := by
    refine List.ext_getElem? fun i => ?_
    simp only [h.entries, List.getElem?_modify, List.getElem?_map, Option.map_eq_map,
      Option.map_map]
    congr 1
    funext c
    by_cases hi : place = i <;> simp [hi, Record.entry]
  placeOfName := by
    intro key i
    rw [exists_modify]
    simpa only [apply_ite Record.key, ite_self] using h.placeOfName
  placeOfExtension := by
    intro ext i
    rw [exists_modify]
    simpa only [apply_ite Record.extensions, ite_self] using h.placeOfExtension

/-- A grammar of a known name renews the record of that name, and its extensions are lost to all
others. -/
lemma replace (h : r.Lists records) {place : Nat} {c : Record} (hc : records[place]? = some c)
    (g : Grammar) (exts : List String) :
    (r.replace place g exts).Lists (records.map fun d =>
      if d.key = c.key then d.renew g exts else d.without exts) := by
  have hplace : place < records.length := (List.getElem?_eq_some_iff.mp hc).1
  have hrenewed := (h.modify place g).beside place
  have hold : ((r.entries[place]?).map (·.extensions)).getD [] = c.extensions := by
    simp [h.entries, hc, Record.entry]
  -- what leads to the place are extensions of the record
  have hmine : ∀ ext, r.placeOfExtension ext = some place → ext ∈ c.extensions := by
    intro ext hext
    obtain ⟨d, hd, hmem⟩ := h.placeOfExtension.mp hext
    rwa [Option.some.inj (hc.symm.trans hd)]
  have hgrant : grant place (c.renew g exts).extensions
        (records.modify place fun c => { c with grammar := g }) =
      records.map fun d => if d.key = c.key then d.renew g exts else d.without exts := by
    refine List.ext_getElem? fun i => ?_
    rw [getElem?_grant, List.getElem?_modify, List.getElem?_map, Option.map_eq_map, Option.map_map]
    refine Option.map_congr fun d hd => ?_
    by_cases hi : i = place
    · subst hi
      obtain rfl := Option.some.inj (hc.symm.trans hd)
      simp [Record.renew]
    · have hkey : d.key ≠ c.key := fun hkey => hi (h.place_eq_of_key hd hc hkey)
      simp only [Function.comp_apply, if_neg hi, if_neg (Ne.symm hi), if_neg hkey, Record.renew]
      split
      -- nothing is lost to the record, since no other one shares its extensions
      · rename_i hempty
        rw [List.isEmpty_iff.mp hempty, Record.without_nil, Record.without_eq_self]
        exact fun ext hext hext' => hi (h.place_eq_of_extension hd hc hext hext')
      · rfl
  rw [Registry.replace, hold, ← hgrant]
  split
  · rename_i hempty
    rw [Record.renew, if_pos hempty]
    exact hrenewed.settle (by simpa using hplace) hmine
  · rename_i hempty
    rw [Record.renew, if_neg hempty]
    have hdropped : ∀ ext ∈ c.extensions.filter fun e => r.placeOfExtension e = some place,
        r.placeOfExtension ext = some place := fun ext hext => by simpa using List.of_mem_filter hext
    refine (hrenewed.eraseAll hdropped).settle (by simpa using hplace) fun ext hext => ?_
    -- the place has lost all its extensions
    simp only [PartialMap.eraseAll_apply] at hext
    split at hext
    · cases hext
    · rename_i hkept
      exact absurd (List.mem_filter.mpr ⟨hmine ext hext, decide_eq_true hext⟩) hkept

/-- Registering a grammar enters it in the records. -/
theorem register (h : r.Lists records) (g : Grammar) (exts : List String) :
    (r.register g exts).Lists (enter records g exts) := by
  rw [Registry.register, enter]
  cases hplace : r.placeOfName (Unicode.lowercase g.name) with
  | none =>
    have hnew := h.placeOfName_eq_none.mp hplace
    rw [if_neg hnew]
    exact h.append hnew _
  | some place =>
    obtain ⟨c, hc, hkey⟩ := h.placeOfName.mp hplace
    rw [if_pos (hkey ▸ List.mem_map_of_mem (List.mem_of_getElem? hc)), ← hkey]
    exact h.replace hc g _

/-- No two records have one name. -/
lemma nodup_keys (h : r.Lists records) : (records.map (·.key)).Nodup := by
  rw [List.nodup_iff_getElem?_ne_getElem?]
  intro i j hij hj heq
  rw [List.length_map] at hj
  have hi := hij.trans hj
  rw [List.getElem?_map, List.getElem?_map, List.getElem?_eq_getElem hi,
    List.getElem?_eq_getElem hj] at heq
  exact hij.ne (h.place_eq_of_key (List.getElem?_eq_getElem hi) (List.getElem?_eq_getElem hj)
    (Option.some.inj heq))

/-- No two records have an extension in common. -/
lemma disjoint_extensions (h : r.Lists records) :
    records.Pairwise fun c d => c.extensions.Disjoint d.extensions := by
  rw [List.pairwise_iff_getElem]
  intro i j hi hj hij ext hc hd
  exact hij.ne (h.place_eq_of_extension (List.getElem?_eq_getElem hi) (List.getElem?_eq_getElem hj)
    hc hd)

/-- Going by a place that a table finds is searching the records from first to last. -/
lemma bind_place (h : r.Lists records) {found : Option Nat} {p : Record → Bool}
    (hfound : ∀ {i}, found = some i ↔ ∃ c, records[i]? = some c ∧ p c) :
    (found.bind fun i => (r.entries[i]?).map (·.grammar)) =
      (records.find? p).map (·.grammar) := by
  cases hfind : records.find? p with
  | none =>
    have hnone : found = none := by
      rw [Option.eq_none_iff_forall_ne_some]
      intro i hi
      obtain ⟨c, hc, hp⟩ := hfound.mp hi
      exact List.find?_eq_none.mp hfind c (List.mem_of_getElem? hc) hp
    rw [hnone]
    rfl
  | some c =>
    obtain ⟨i, hi⟩ := List.mem_iff_getElem?.mp (List.mem_of_find?_eq_some hfind)
    rw [hfound.mpr ⟨c, hi, List.find?_some hfind⟩, h.entries]
    simp [hi, Record.entry]

/-- A grammar is looked up by the name of its record, in small letters. -/
lemma byName?_eq (h : r.Lists records) (name : String) :
    r.byName? name =
      (records.find? fun c => c.key = Unicode.lowercase name).map (·.grammar) :=
  h.bind_place fun {i} => by rw [h.placeOfName]; simp

/-- A grammar is looked up by an extension of its record, in normal form. -/
lemma forExtension?_eq (h : r.Lists records) (ext : String) :
    r.forExtension? ext =
      (records.find? fun c => normalExtension ext ∈ c.extensions).map (·.grammar) :=
  h.bind_place fun {i} => by rw [h.placeOfExtension]; simp

/-- The names listed are those of the recorded grammars, in order. -/
lemma names_eq (h : r.Lists records) : r.names = records.map (·.grammar.name) := by
  simp [names, h.entries, Record.entry]

/-- The catalogue has one summary for each record, in order. -/
lemma catalog_eq (h : r.Lists records) : r.catalog = records.map (·.entry.summary) := by
  simp [catalog, h.entries]

/-- The registry is as large as the list of its records. -/
lemma size_eq (h : r.Lists records) : r.size = records.length := by
  simp [size, h.entries]

/-- A registry is known by the records it lists. -/
lemma unique {r' : Registry} (h : r.Lists records) (h' : r'.Lists records) : r = r' := by
  obtain ⟨entries, names, exts⟩ := r
  obtain ⟨entries', names', exts'⟩ := r'
  have hentries : entries = entries' := h.entries.trans h'.entries.symm
  have hnames : names = names' :=
    funext fun _ => Option.ext fun _ => h.placeOfName.trans h'.placeOfName.symm
  have hexts : exts = exts' :=
    funext fun _ => Option.ext fun _ => h.placeOfExtension.trans h'.placeOfExtension.symm
  rw [hentries, hnames, hexts]

end Lists
end Highlighter.Registry
