import Highlighter.Proofs.Scan.Tracking

/-!
# One step of the scanner

What reading a character does to the state, the segment and the output, for a character on which the
state stays (`read_of_stay`) and for one on which it is left (`read_of_leave`). What was written before
does not matter to the scanner (`finish_readAll_behind`), and characters that are no keys all lead to the
same state, so that one of them stands for all (`forall_char`).
-/

namespace Highlighter

/-- The character of a key is that key. -/
@[simp] lemma Key.ofChar?_toChar : ∀ k : Key, ofChar? k.toChar = some k := by decide +kernel

namespace Transitions

variable {t : Transitions} {s u : State} {c : Char}

/-- The entries for characters are those for keys. -/
lemma entry?_eq_some :
    t.entry? s c = some u ↔ ∃ k : Key, k.toChar = c ∧ t.explicit s k = some u := by
  constructor
  · intro h
    obtain ⟨k, hk, hu⟩ := Option.bind_eq_some_iff.mp h
    exact ⟨k, Key.toChar_of_ofChar? hk, hu⟩
  · rintro ⟨k, rfl, hu⟩
    unfold entry?
    rw [Key.ofChar?_toChar]
    exact hu

end Transitions

/-- A character that is no key. -/
def wideChar : Char := Char.ofNat 128

/-- What holds of the keys and of one character that is none holds of all characters, if it holds of
all characters alike that are no keys. -/
lemma forall_char {P : Char → Prop}
    (hwide : ∀ c d : Char, 128 ≤ c.toNat → 128 ≤ d.toNat → P d → P c)
    (h : ∀ c ∈ wideChar :: Key.all.map Key.toChar, P c) (c : Char) : P c := by
  by_cases hc : c.toNat < 128
  · have hkey : c = Key.toChar ⟨c.toNat, hc⟩ := (Char.ofNat_toNat c).symm
    rw [hkey]
    exact h _ (List.mem_cons_of_mem _ (List.mem_map_of_mem (Key.mem_all _)))
  · exact hwide c wideChar (Nat.not_lt.mp hc) (by decide) (h _ List.mem_cons_self)

namespace Grammar

/-- Characters that are no keys all lead to the same state. -/
lemma next_of_wide {c d : Char} (hc : 128 ≤ c.toNat) (hd : 128 ≤ d.toNat) (g : Grammar) (s : State) :
    g.next s c = g.next s d := by
  have hnone : ∀ e : Char, 128 ≤ e.toNat → Key.ofChar? e = none := fun e he =>
    dif_neg (by omega)
  rw [next, next, Transitions.next?, Transitions.next?, Transitions.entry?, Transitions.entry?,
    hnone c hc, hnone d hd]

/-- Where a table entry leads, the scanner goes. -/
lemma next_of_entry {g : Grammar} {s t : State} {c : Char}
    (h : g.transitions.entry? s c = some t) : g.next s c = t := by
  rw [next, Transitions.next?, h]
  rfl

end Grammar

namespace Scan

variable {g : Grammar} {s : Scan} {c : Char} {t : State}

/-- A character that leads back is put by. -/
lemma read_of_stay (ht : g.next s.state c = s.state) :
    s.read g c = { s with pending := c :: s.pending } := by
  rw [read]
  simp only [if_pos ht]

/-- The segment with the character is handed to the processor, and the markup of the edge follows. -/
lemma read_of_leave (hnext : g.next s.state c = t) (ht : t ≠ s.state) :
    s.read g c =
      { state := t
        pending := ((g.processor s.state t).close g.keywords (s.segment ++ [c])).left.reverse
        written := s.written ++ String.ofList
          ((g.processor s.state t).close g.keywords (s.segment ++ [c])).written ++
          (g.edge s.state t).getD "" } := by
  subst hnext
  simp only [read, if_neg ht, leave, segment_push]

/-- A text is read from where the scanner of the text before it stands. -/
lemma ofText_append (g : Grammar) (before after : List Char) :
    ofText g (before ++ after) = (ofText g before).readAll g after :=
  List.foldl_append

/-- One character more is read last. -/
lemma ofText_concat (g : Grammar) (text : List Char) (c : Char) :
    ofText g (text ++ [c]) = (ofText g text).read g c :=
  ofText_append g text [c]

/-- The first character is read first. -/
lemma readAll_cons (g : Grammar) (s : Scan) (c : Char) (text : List Char) :
    s.readAll g (c :: text) = (s.read g c).readAll g text := rfl

/-- Two texts are read one after the other. -/
lemma readAll_append (g : Grammar) (s : Scan) (before after : List Char) :
    s.readAll g (before ++ after) = (s.readAll g before).readAll g after :=
  List.foldl_append

/-- The scanner with something else written before. -/
def behind (out : String) (s : Scan) : Scan := { s with written := out ++ s.written }

/-- What was written before makes no difference to reading. -/
lemma read_behind (g : Grammar) (out : String) (s : Scan) (c : Char) :
    (s.behind out).read g c = (s.read g c).behind out := by
  by_cases hstay : g.next s.state c = s.state
  · rw [read_of_stay hstay, read_of_stay (s := s.behind out) hstay]
    rfl
  · rw [read_of_leave rfl hstay, read_of_leave (s := s.behind out) rfl hstay]
    simp only [behind, Scan.segment, String.append_assoc]

/-- What was written before stands in front of the result. -/
lemma finish_behind (g : Grammar) (out : String) (s : Scan) :
    (s.behind out).finish g = out ++ s.finish g := by
  change out ++ s.written ++ _ ++ _ = out ++ (s.written ++ _ ++ _)
  rw [String.append_assoc, String.append_assoc, String.append_assoc]
  rfl

/-- What was written before is written in front of the rest. -/
lemma finish_readAll_behind (g : Grammar) (out : String) (s : Scan) (text : List Char) :
    ((s.behind out).readAll g text).finish g = out ++ (s.readAll g text).finish g := by
  induction text generalizing s with
  | nil => exact finish_behind g out s
  | cons c text ih => rw [readAll_cons, readAll_cons, read_behind, ih]

end Scan
end Highlighter
