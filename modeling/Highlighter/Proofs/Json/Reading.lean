import Mathlib.Tactic.Lemma
import Mathlib.Tactic.SplitIfs
import Highlighter.Json.Basic
import Highlighter.Json.Reader

/-!
# Reading back what was written

The printer and the reader of JSON values agree. Main statements: `text?_spell`, a string comes back
from its spelling, whatever characters it has; `readsBack_of_numberless`, a value comes back from what
is written of it on any level; `parse?_pretty`, so it does from a whole file. Numbers are left out:
no grammar document has any.
-/

namespace Highlighter.Json

open Utf8

/-- The bytes between the quotes around a text. -/
def spell (t : String) : Bytes := encode (t.toList.flatMap escapeChar)

/-- A value as it is read back. -/
def spelled : Json String → Spelled
  | null => null
  | bool b => bool b
  | number spelling => number spelling
  | text t => text (spell t)
  | list items => list (items.map spelled)
  | record fields => record (fields.map fun field => (spell field.1, spelled field.2))
decreasing_by
  · have := List.sizeOf_lt_of_mem ‹_ ∈ items›
    simp only [list.sizeOf_spec]
    omega
  · rename_i h
    have := List.sizeOf_lt_of_mem h
    cases field
    simp only [record.sizeOf_spec, Prod.mk.sizeOf_spec] at *
    omega

/-- No number stands in the value. -/
inductive Numberless : Json String → Prop
  | null : Numberless null
  | bool (b : Bool) : Numberless (bool b)
  | text (t : String) : Numberless (text t)
  | list {items : List (Json String)} (h : ∀ item ∈ items, Numberless item) :
    Numberless (list items)
  | record {fields : List (String × Json String)} (h : ∀ field ∈ fields, Numberless field.2) :
    Numberless (record fields)

/-- A byte that stands for itself between quotes. -/
def IsOrdinary (b : UInt8) : Prop := b ≠ 0x22 ∧ ¬ b < 0x20 ∧ b ≠ 0x5C

/-! ### Strings -/

/-- A byte of the encoding of a character is its number or lies beyond the small ones. -/
lemma toNat_of_mem_encodeChar {c : Char} {b : UInt8} (hb : b ∈ encodeChar c) :
    b.toNat = c.toNat ∨ 0x80 ≤ b.toNat := by
  have hv : c.toNat < 0x110000 := by
    rcases c.valid with h | ⟨-, h⟩
    · exact Nat.lt_trans h (by decide)
    · exact h
  have htoNat : ∀ n < 256, n.toUInt8.toNat = n := fun n hn => UInt8.toNat_ofNat_of_lt' hn
  simp only [encodeChar] at hb
  generalize c.toNat = n at *
  -- all bytes of a character beyond ASCII have their first bit set
  split_ifs at hb with h1 h2 h3
  · rw [List.mem_singleton] at hb
    rw [hb, htoNat n (by omega)]
    exact .inl rfl
  all_goals
    right
    simp only [List.mem_cons, List.not_mem_nil, or_false] at hb
  · rcases hb with rfl | rfl <;> rw [htoNat _ (by omega)] <;> omega
  · rcases hb with rfl | rfl | rfl <;> rw [htoNat _ (by omega)] <;> omega
  · rcases hb with rfl | rfl | rfl | rfl <;> rw [htoNat _ (by omega)] <;> omega

/-- A character that needs no escape is encoded by bytes that stand for themselves. -/
lemma isOrdinary_of_mem_encodeChar {c : Char} (hquote : c ≠ '"') (hback : c ≠ '\\')
    (hcontrol : ¬ c.toNat < 0x20) : ∀ b ∈ encodeChar c, IsOrdinary b := by
  have hquote' : c.toNat ≠ 0x22 := fun h => hquote (Char.toNat_inj.mp h)
  have hback' : c.toNat ≠ 0x5C := fun h => hback (Char.toNat_inj.mp h)
  intro b hb
  have hb' := toNat_of_mem_encodeChar hb
  refine ⟨fun h => ?_, fun h => ?_, fun h => ?_⟩
  · rw [h, show UInt8.toNat 0x22 = 0x22 from rfl] at hb'
    omega
  · have h' : b.toNat < 0x20 := UInt8.lt_iff_toNat_lt.mp h
    omega
  · rw [h, show UInt8.toNat 0x5C = 0x5C from rfl] at hb'
    omega

/-- Ordinary bytes are taken over one by one. -/
lemma quotedBytes?_append {bytes : Bytes} (h : ∀ b ∈ bytes, IsOrdinary b) (rest : Bytes) :
    quotedBytes? (bytes ++ rest) =
      (quotedBytes? rest).map fun (raw, rest) => (bytes ++ raw, rest) := by
  induction bytes with
  | nil => simp
  | cons b bytes ih =>
    obtain ⟨hquote, hcontrol, hback⟩ := h b List.mem_cons_self
    rw [List.cons_append, quotedBytes?.eq_def]
    simp only [if_neg hquote, if_neg hcontrol, if_neg hback]
    rw [ih fun b hb => h b (List.mem_cons_of_mem _ hb), Option.map_map]
    rfl

/-- A backslash is taken over together with the letter behind it. -/
lemma quotedBytes?_shortEscape {e : UInt8} (h : isShortEscape e) (rest : Bytes) :
    quotedBytes? (0x5C :: e :: rest) =
      (quotedBytes? rest).map fun (raw, rest) => (0x5C :: e :: raw, rest) := by
  rw [quotedBytes?.eq_def]
  simp [h]

/-- The escape of a number is taken over with its four digits. -/
lemma quotedBytes?_hexEscape {h₁ h₂ h₃ h₄ : UInt8} (h : [h₁, h₂, h₃, h₄].all isHexDigit)
    (rest : Bytes) :
    quotedBytes? (0x5C :: 0x75 :: h₁ :: h₂ :: h₃ :: h₄ :: rest) =
      (quotedBytes? rest).map fun (raw, rest) =>
        (0x5C :: 0x75 :: h₁ :: h₂ :: h₃ :: h₄ :: raw, rest) := by
  simp only [List.all_cons, List.all_nil, Bool.and_true, Bool.and_eq_true] at h
  rw [quotedBytes?.eq_def]
  simp [h, isShortEscape]

/-- A digit is a small character that is told for a digit and read as its number. -/
lemma hexDigit_spec : ∀ n < 16, (hexDigit n).toNat < 0x80 ∧
    isHexDigit (hexDigit n).toNat.toUInt8 ∧ hexValue? (hexDigit n) = some n := by
  decide

/-- A small character is encoded by one byte, its number. -/
lemma encodeChar_ascii {c : Char} (h : c.toNat < 0x80) : encodeChar c = [c.toNat.toUInt8] := by
  rw [encodeChar, if_pos h]

/-- How a character is written between quotes: as a backslash and a letter, as the digits of its number,
or as it stands. -/
inductive Escapes (c : Char) : List Char → Prop
  /-- The letter is told for one behind a backslash, and is read as the character. -/
  | short {e : Char} (hascii : e.toNat < 0x80) (htold : isShortEscape e.toNat.toUInt8)
      (hread : shortEscape? e = some c) : Escapes c ['\\', e]
  /-- Other control characters have digits. -/
  | digits (hcontrol : c.toNat < 0x20) :
      Escapes c ['\\', 'u', '0', '0', hexDigit (c.toNat / 16), hexDigit (c.toNat % 16)]
  /-- All other characters need no escape. -/
  | plain (hquote : c ≠ '"') (hback : c ≠ '\\') (hcontrol : ¬ c.toNat < 0x20) : Escapes c [c]

/-- Every character is written in one of these ways. -/
lemma escapes_escapeChar (c : Char) : Escapes c (escapeChar c) := by
  unfold escapeChar
  split
  case h_8 hquote hback _ _ _ _ _ =>
    split
    · rename_i hcontrol
      exact .digits hcontrol
    · rename_i hcontrol
      exact .plain hquote hback hcontrol
  all_goals exact .short (by decide) (by decide) rfl

/-- What is written for a character is taken over whole. -/
lemma quotedBytes?_escapeChar (c : Char) (rest : Bytes) :
    quotedBytes? (encode (escapeChar c) ++ rest) =
      (quotedBytes? rest).map fun (raw, rest) => (encode (escapeChar c) ++ raw, rest) := by
  have hescapes := escapes_escapeChar c
  generalize escapeChar c = written at hescapes ⊢
  cases hescapes with
  | @short e hascii htold hread =>
    simp only [encode_cons, encode_nil, encodeChar_ascii hascii]
    exact quotedBytes?_shortEscape htold rest
  | digits hcontrol =>
    obtain ⟨hascii, hhex, -⟩ := hexDigit_spec (c.toNat / 16) (by omega)
    obtain ⟨hascii', hhex', -⟩ := hexDigit_spec (c.toNat % 16) (by omega)
    simp only [encode_cons, encode_nil, encodeChar_ascii hascii, encodeChar_ascii hascii']
    exact quotedBytes?_hexEscape (by simp [hhex, hhex']; decide) rest
  | plain hquote hback hcontrol =>
    rw [encode_cons, encode_nil, List.append_nil]
    exact quotedBytes?_append (isOrdinary_of_mem_encodeChar hquote hback hcontrol) rest

/-- The bytes of a text end at the quote behind it. -/
lemma quotedBytes?_spell (t : String) (rest : Bytes) :
    quotedBytes? (spell t ++ 0x22 :: rest) = some (spell t, rest) := by
  unfold spell
  induction t.toList with
  | nil =>
    rw [quotedBytes?.eq_def]
    rfl
  | cons c cs ih =>
    rw [List.flatMap_cons, encode_append, List.append_assoc, quotedBytes?_escapeChar, ih]
    rfl

/-- What is written for a character is read as the character. -/
lemma unescape?_escapeChar (c : Char) (rest : List Char) :
    unescape? (escapeChar c ++ rest) = (unescape? rest).map (c :: ·) := by
  have hescapes := escapes_escapeChar c
  generalize escapeChar c = written at hescapes ⊢
  cases hescapes with
  | @short e hascii htold hread =>
    -- the letter is not the one that digits stand behind
    have hu : e ≠ 'u' := by
      rintro rfl
      exact nomatch hread
    simp [unescape?, hu, hread]
  | digits hcontrol =>
    obtain ⟨-, -, hvalue⟩ := hexDigit_spec (c.toNat / 16) (by omega)
    obtain ⟨-, -, hvalue'⟩ := hexDigit_spec (c.toNat % 16) (by omega)
    have hzero : hexValue? '0' = some 0 := rfl
    have hhex : hex4? '0' '0' (hexDigit (c.toNat / 16)) (hexDigit (c.toNat % 16)) =
        some c.toNat := by
      simp only [hex4?, hzero, hvalue, hvalue', Option.bind_eq_bind, Option.bind_some,
        Option.pure_def]
      congr 1
      omega
    simp only [List.cons_append, List.nil_append]
    rw [unescape?, hhex]
    simp only []
    rw [if_neg (by omega), if_neg (by omega), Char.ofNat_toNat]
  | plain hquote hback hcontrol => simp [unescape?, hback]

/-- A text is read back from its bytes. -/
lemma text?_spell (t : String) : text? (spell t) = some t := by
  have h : ∀ cs, unescape? (cs.flatMap escapeChar) = some cs := by
    intro cs
    induction cs with
    | nil => rfl
    | cons c cs ih =>
      rw [List.flatMap_cons, unescape?_escapeChar, ih]
      rfl
  simp [text?, spell, h]

/-- A quoted text is its bytes between two quotes. -/
lemma encode_quote (t : String) : encode (quote t) = 0x22 :: (spell t ++ [0x22]) := by
  rw [quote, List.cons_append, encode_cons, encode_append]
  rfl

/-! ### Values -/

/-- A line break and its indent are skipped. -/
lemma skipSpaces_newline (level : Nat) (bytes : Bytes) :
    skipSpaces (encode (newline level) ++ bytes) = skipSpaces bytes := by
  rw [newline, encode_cons]
  change skipSpaces (encode (List.replicate (2 * level) ' ') ++ bytes) = _
  generalize 2 * level = n
  induction n with
  | zero => rfl
  | succ n ih =>
    rw [List.replicate_succ, encode_cons]
    exact ih

/-- Nothing is skipped in front of a byte that is no space. -/
lemma skipSpaces_of_not_space {b : UInt8} (h : isSpace b = false) (bytes : Bytes) :
    skipSpaces (b :: bytes) = b :: bytes := by
  rw [skipSpaces, List.dropWhile_cons_of_neg (by rw [h]; decide)]

variable {v : Json String}

/-- A value that was written begins with a byte that is neither a space nor a closing bracket. -/
lemma exists_encode_print (h : Numberless v) (level : Nat) :
    ∃ b bytes, encode (print level v) = b :: bytes ∧ isSpace b = false ∧ b ≠ 0x5D := by
  cases h with
  | null => exact ⟨_, _, rfl, rfl, by decide⟩
  | bool b => cases b <;> exact ⟨_, _, rfl, rfl, by decide⟩
  | text t => exact ⟨_, _, by rw [print, encode_quote], rfl, by decide⟩
  | @list items h =>
    cases items with
    | nil => exact ⟨_, _, rfl, rfl, by decide⟩
    | cons item items => exact ⟨_, _, rfl, rfl, by decide⟩
  | @record fields h =>
    cases fields with
    | nil => exact ⟨_, _, rfl, rfl, by decide⟩
    | cons field fields => exact ⟨_, _, rfl, rfl, by decide⟩

/-- With fuel for its bytes, the value is read back from what is written of it, behind any spaces and
in front of anything. -/
def ReadsBack (v : Json String) : Prop :=
  ∀ level fuel bytes rest, skipSpaces bytes = encode (print level v) ++ rest →
    2 * (encode (print level v)).length ≤ fuel → value? fuel bytes = some (spelled v, rest)

/-- The bytes of the items behind the first of a list, item by item. -/
lemma encode_printItems_cons (level : Nat) (item : Json String) (items : List (Json String)) :
    encode (printItems level (item :: items)) = 0x2C :: (encode (newline level) ++
      (encode (print level item) ++ encode (printItems level items))) := by
  simp only [printItems, List.cons_append, encode_cons, encode_append, List.append_assoc]
  rfl

/-- The bytes of a list with items in it. -/
lemma encode_print_list (level : Nat) (item : Json String) (items : List (Json String)) :
    encode (print level (list (item :: items))) = 0x5B :: (encode (newline (level + 1)) ++
      (encode (print (level + 1) item) ++ (encode (printItems (level + 1) items) ++
        (encode (newline level) ++ [0x5D])))) := by
  simp only [print, List.cons_append, encode_cons, encode_append, List.append_assoc]
  rfl

/-- The bytes of a field: its name in quotes, a colon and its value. -/
lemma encode_printField (level : Nat) (name : String) (value : Json String) :
    encode (printField level (name, value)) =
      0x22 :: (spell name ++ 0x22 :: 0x3A :: 0x20 :: encode (print level value)) := by
  simp only [printField, encode_append, encode_quote, List.cons_append, List.append_assoc]
  rfl

/-- The bytes of the fields behind the first of a record, field by field. -/
lemma encode_printFields_cons (level : Nat) (field : String × Json String)
    (fields : List (String × Json String)) :
    encode (printFields level (field :: fields)) = 0x2C :: (encode (newline level) ++
      (encode (printField level field) ++ encode (printFields level fields))) := by
  simp only [printFields, List.cons_append, encode_cons, encode_append, List.append_assoc]
  rfl

/-- The bytes of a record with fields in it. -/
lemma encode_print_record (level : Nat) (field : String × Json String)
    (fields : List (String × Json String)) :
    encode (print level (record (field :: fields))) = 0x7B :: (encode (newline (level + 1)) ++
      (encode (printField (level + 1) field) ++ (encode (printFields (level + 1) fields) ++
        (encode (newline level) ++ [0x7D])))) := by
  simp only [print, List.cons_append, encode_cons, encode_append, List.append_assoc]
  rfl

/-- No value begins with a space. -/
lemma skipSpaces_print {v : Json String} (h : Numberless v) (level : Nat) (bytes : Bytes) :
    skipSpaces (encode (print level v) ++ bytes) = encode (print level v) ++ bytes := by
  obtain ⟨b, more, hb, hspace, -⟩ := exists_encode_print h level
  rw [hb, List.cons_append, skipSpaces_of_not_space hspace]

/-- The items of a list are read back, given that each of them is. -/
lemma items?_printItems {item : Json String} {items : List (Json String)} (hitem : ReadsBack item)
    (hplain : ∀ item ∈ items, Numberless item) (hitems : ∀ item ∈ items, ReadsBack item)
    {level outer fuel : Nat} {bytes rest : Bytes}
    (hbytes : skipSpaces bytes = encode (print level item) ++
      (encode (printItems level items) ++ (encode (newline outer) ++ 0x5D :: rest)))
    (hfuel : 2 * ((encode (print level item)).length + (encode (printItems level items)).length)
      < fuel) :
    items? fuel bytes = some (spelled item :: items.map spelled, rest) := by
  -- each item takes up fuel for its own bytes and leaves enough for the others
  induction items generalizing item fuel bytes with
  | nil =>
    obtain ⟨fuel, rfl⟩ : ∃ n, fuel = n + 1 := ⟨fuel - 1, by omega⟩
    rw [items?, hitem level fuel bytes _ hbytes (by omega)]
    simp only [printItems, encode_nil, List.nil_append]
    rw [skipSpaces_newline]
    rfl
  | cons next items ih =>
    obtain ⟨fuel, rfl⟩ : ∃ n, fuel = n + 1 := ⟨fuel - 1, by omega⟩
    rw [items?, hitem level fuel bytes _ hbytes (by omega)]
    simp only [encode_printItems_cons, List.length_cons, List.length_append, List.cons_append,
      List.append_assoc, skipSpaces_of_not_space (show isSpace 0x2C = false from rfl)] at hfuel ⊢
    rw [ih (hitems next List.mem_cons_self) (fun v hv => hplain v (List.mem_cons_of_mem _ hv))
      (fun v hv => hitems v (List.mem_cons_of_mem _ hv))
      (by rw [skipSpaces_newline, skipSpaces_print (hplain next List.mem_cons_self)]) (by omega)]
    rfl

/-- The rest of the fields behind one that was read, with that one in front. -/
def fieldsBehind? (fuel : Nat) (field : Bytes × Spelled) (bytes : Bytes) :
    Option (List (Bytes × Spelled) × Bytes) :=
  match skipSpaces bytes with
  | 0x2C :: rest => (fields? fuel rest).map fun (fields, rest) => (field :: fields, rest)
  | 0x7D :: rest => some ([field], rest)
  | _ => none

/-- A field is read back from the front, given that its value is. -/
lemma fields?_printField {field : String × Json String} (hplain : Numberless field.2)
    (hread : ReadsBack field.2) {level fuel : Nat} {bytes after : Bytes}
    (hbytes : skipSpaces bytes = encode (printField level field) ++ after)
    (hfuel : 2 * (encode (printField level field)).length ≤ fuel) :
    fields? (fuel + 1) bytes = fieldsBehind? fuel (spell field.1, spelled field.2) after := by
  obtain ⟨name, value⟩ := field
  simp only [encode_printField, List.cons_append, List.append_assoc, List.length_cons,
    List.length_append] at hbytes hfuel
  have hvalue := hread level fuel (0x20 :: (encode (print level value) ++ after)) after
    (skipSpaces_print hplain level after)
    (by change 2 * (encode (print level value)).length ≤ fuel; omega)
  rw [fields?, hbytes]
  simp only [quotedBytes?_spell, skipSpaces_of_not_space (show isSpace 0x3A = false from rfl),
    hvalue]
  rfl

/-- The fields of a record are read back, given that the value of each is. -/
lemma fields?_printFields {field : String × Json String} {fields : List (String × Json String)}
    (hplain : ∀ f ∈ field :: fields, Numberless f.2) (hread : ∀ f ∈ field :: fields, ReadsBack f.2)
    {level outer fuel : Nat} {bytes rest : Bytes}
    (hbytes : skipSpaces bytes = encode (printField level field) ++
      (encode (printFields level fields) ++ (encode (newline outer) ++ 0x7D :: rest)))
    (hfuel : 2 * ((encode (printField level field)).length +
      (encode (printFields level fields)).length) < fuel) :
    fields? fuel bytes =
      some ((field :: fields).map (fun f => (spell f.1, spelled f.2)), rest) := by
  induction fields generalizing field fuel bytes with
  | nil =>
    obtain ⟨fuel, rfl⟩ : ∃ n, fuel = n + 1 := ⟨fuel - 1, by omega⟩
    rw [fields?_printField (hplain field List.mem_cons_self) (hread field List.mem_cons_self) hbytes
      (by omega)]
    simp only [printFields, encode_nil, List.nil_append]
    rw [fieldsBehind?, skipSpaces_newline]
    rfl
  | cons next fields ih =>
    obtain ⟨fuel, rfl⟩ : ∃ n, fuel = n + 1 := ⟨fuel - 1, by omega⟩
    rw [fields?_printField (hplain field List.mem_cons_self) (hread field List.mem_cons_self) hbytes
      (by omega)]
    simp only [fieldsBehind?, encode_printFields_cons, List.length_cons, List.length_append,
      List.cons_append, List.append_assoc,
      skipSpaces_of_not_space (show isSpace 0x2C = false from rfl)] at hfuel ⊢
    rw [ih (fun f hf => hplain f (List.mem_cons_of_mem _ hf))
      (fun f hf => hread f (List.mem_cons_of_mem _ hf))
      (by rw [skipSpaces_newline, encode_printField]; rfl) (by omega)]
    rfl

/-- Behind an opening bracket a list is read, unless it ends at once. -/
lemma value?_list {fuel : Nat} {bytes rest : Bytes} (hbytes : skipSpaces bytes = 0x5B :: rest)
    (hrest : ∀ tail, skipSpaces rest ≠ 0x5D :: tail) :
    value? (fuel + 1) bytes =
      (items? fuel (skipSpaces rest)).map fun (items, rest) => (list items, rest) := by
  rw [value?, hbytes]
  simp only

/-- Behind an opening brace a record is read, unless it ends at once. -/
lemma value?_record {fuel : Nat} {bytes rest : Bytes} (hbytes : skipSpaces bytes = 0x7B :: rest)
    (hrest : ∀ tail, skipSpaces rest ≠ 0x7D :: tail) :
    value? (fuel + 1) bytes =
      (fields? fuel (skipSpaces rest)).map fun (fields, rest) => (record fields, rest) := by
  rw [value?, hbytes]
  simp only

/-- What is written of a value is not empty, so some fuel is there to read it. -/
lemma exists_fuel (h : Numberless v) {level fuel : Nat}
    (hfuel : 2 * (encode (print level v)).length ≤ fuel) : ∃ n, fuel = n + 1 := by
  obtain ⟨b, more, hb, -⟩ := exists_encode_print h level
  rw [hb, List.length_cons] at hfuel
  exact ⟨fuel - 1, by omega⟩

/-- A value without numbers is read back from what is written of it. -/
theorem readsBack_of_numberless (h : Numberless v) : ReadsBack v := by
  -- induction on the value; the fuel is counted against the bytes, of which every value has some
  induction h with
  | null =>
    intro level fuel bytes rest hbytes hfuel
    obtain ⟨fuel, rfl⟩ := exists_fuel .null hfuel
    rw [value?, hbytes, spelled]
    rfl
  | bool b =>
    intro level fuel bytes rest hbytes hfuel
    obtain ⟨fuel, rfl⟩ := exists_fuel (.bool b) hfuel
    rw [value?, hbytes, spelled]
    cases b <;> rfl
  | text t =>
    intro level fuel bytes rest hbytes hfuel
    obtain ⟨fuel, rfl⟩ := exists_fuel (.text t) hfuel
    rw [value?, hbytes, print, encode_quote, spelled]
    simp only [List.cons_append, List.append_assoc, List.nil_append, quotedBytes?_spell]
    rfl
  | @list items h ih =>
    intro level fuel bytes rest hbytes hfuel
    obtain ⟨fuel, rfl⟩ := exists_fuel (.list h) hfuel
    rw [spelled]
    cases items with
    | nil =>
      rw [value?, hbytes]
      rfl
    | cons item items =>
      rw [encode_print_list] at hbytes hfuel
      simp only [List.cons_append, List.append_assoc, List.nil_append, List.length_cons,
        List.length_append] at hbytes hfuel
      have hitem := h item List.mem_cons_self
      -- what comes behind the bracket is the first item, and not another bracket
      rw [value?_list hbytes]
      · rw [skipSpaces_newline, skipSpaces_print hitem,
          items?_printItems (ih item List.mem_cons_self)
            (fun v hv => h v (List.mem_cons_of_mem _ hv))
            (fun v hv => ih v (List.mem_cons_of_mem _ hv)) (skipSpaces_print hitem _ _) (by omega)]
        rfl
      · intro tail htail
        obtain ⟨b, more, hb, -, hbracket⟩ := exists_encode_print hitem (level + 1)
        rw [skipSpaces_newline, skipSpaces_print hitem, hb] at htail
        exact hbracket (List.cons.inj htail).1
  | @record fields h ih =>
    intro level fuel bytes rest hbytes hfuel
    obtain ⟨fuel, rfl⟩ := exists_fuel (.record h) hfuel
    rw [spelled]
    cases fields with
    | nil =>
      rw [value?, hbytes]
      rfl
    | cons field fields =>
      rw [encode_print_record] at hbytes hfuel
      simp only [List.cons_append, List.append_assoc, List.nil_append, List.length_cons,
        List.length_append] at hbytes hfuel
      have hfield := encode_printField (level + 1) field.1 field.2
      have hrest : ∀ more, skipSpaces (encode (printField (level + 1) field) ++ more) =
          encode (printField (level + 1) field) ++ more := fun more => by rw [hfield]; rfl
      rw [value?_record hbytes]
      · rw [skipSpaces_newline, hrest, fields?_printFields h ih (hrest _) (by omega)]
        rfl
      · intro tail htail
        rw [skipSpaces_newline, hrest, hfield] at htail
        exact absurd (List.cons.inj htail).1 (by decide)

/-- A written value without numbers is read back. -/
theorem parse?_pretty (h : Numberless v) : parse? (ofString v.pretty) = some (spelled v) := by
  have hread := readsBack_of_numberless h 0 (2 * (encode (print 0 v)).length + 2)
    (encode (print 0 v)) [] (by simpa using skipSpaces_print h 0 []) (by omega)
  rw [parse?, pretty, ofString, String.toList_ofList, hread]
  rfl

end Highlighter.Json
