import Mathlib.Order.Bounds.Basic
import Highlighter.Text.Excerpt

/-!
# Where characters begin

In UTF-8 a byte tells whether a character begins with it or goes on with it, so that the boundaries of
characters can be told from the bytes (`Utf8.isBoundary_encode`). Going down or up byte by byte from some
place, as long as that is no boundary, comes to the boundary nearest to it (`Utf8.down?_of_isGreatest`,
`Utf8.up?_of_isLeast`), and the bytes between two boundaries are those of a text (`Utf8.slice?_encode`).
-/

namespace Highlighter

namespace Text

/-- A character of the text begins behind so many bytes, or the text ends there. -/
def Boundary (text : List Char) (place : Nat) : Prop :=
  ∃ before after, before ++ after = text ∧ byteLength before = place

variable {text before after : List Char} {c : Char} {n : Nat}

/-- The empty text takes no bytes. -/
@[simp] lemma byteLength_nil : byteLength [] = 0 := rfl

/-- A text takes the bytes of its first character and those of the others. -/
@[simp] lemma byteLength_cons (c : Char) (text : List Char) :
    byteLength (c :: text) = (Utf8.encodeChar c).length + byteLength text := List.length_append

/-- Texts take the bytes of both. -/
@[simp] lemma byteLength_append (a b : List Char) :
    byteLength (a ++ b) = byteLength a + byteLength b := by
  rw [byteLength, Utf8.encode_append, List.length_append]
  rfl

/-- The empty text has one boundary. -/
lemma boundary_nil : Boundary [] n ↔ n = 0 := by
  constructor
  · rintro ⟨before, after, hsplit, rfl⟩
    rw [(List.append_eq_nil_iff.mp hsplit).1, byteLength_nil]
  · rintro rfl
    exact ⟨[], [], rfl, rfl⟩

/-- A text has a boundary at its start, and behind its first character those of its rest. -/
lemma boundary_cons : Boundary (c :: text) n ↔
    n = 0 ∨ ∃ m, Boundary text m ∧ n = (Utf8.encodeChar c).length + m := by
  constructor
  · rintro ⟨before, after, hsplit, rfl⟩
    rcases List.append_eq_cons_iff.mp hsplit with ⟨rfl, -⟩ | ⟨before, rfl, rfl⟩
    · exact .inl rfl
    · exact .inr ⟨_, ⟨before, after, rfl, rfl⟩, byteLength_cons c before⟩
  · rintro (rfl | ⟨m, ⟨before, after, rfl, rfl⟩, rfl⟩)
    · exact ⟨[], _, rfl, rfl⟩
    · exact ⟨c :: before, after, rfl, byteLength_cons c before⟩

/-- There is no boundary behind the end. -/
lemma Boundary.le_byteLength (h : Boundary text n) : n ≤ byteLength text := by
  obtain ⟨before, after, rfl, rfl⟩ := h
  rw [byteLength_append]
  exact Nat.le_add_right _ _

/-- There is no boundary inside a character. -/
lemma Boundary.le_or_le (h : Boundary (before ++ c :: after) n) :
    n ≤ byteLength before ∨ byteLength (before ++ [c]) ≤ n := by
  obtain ⟨left, right, hsplit, rfl⟩ := h
  rcases List.append_eq_append_iff.mp hsplit with ⟨middle, rfl, -⟩ | ⟨middle, rfl, hmiddle⟩
  · left
    rw [byteLength_append]
    exact Nat.le_add_right _ _
  cases middle with
  | nil => exact .inl (congrArg byteLength (List.append_nil before)).le
  | cons d middle =>
    obtain ⟨rfl, -⟩ := List.cons_eq_cons.mp hmiddle
    right
    simp only [byteLength_append, byteLength_cons, byteLength_nil]
    omega

end Text

namespace Utf8

open Text

/-- The byte goes on a character that was begun before it. -/
def goesOn (b : UInt8) : Bool := 0x80 ≤ b && b < 0xC0

/-- To judge by the byte at a place, a character begins there. The start and the end of some bytes are
boundaries as well, and there is none behind the end. -/
def isBoundary (bytes : Bytes) (place : Nat) : Bool :=
  place == 0 ||
    match bytes[place]? with
    | some b => !goesOn b
    | none => place == bytes.length

/-- Goes down from a place to a boundary, byte by byte. It fails if it has to go below the first byte. -/
def down? (bytes : Bytes) : Nat → Option Nat
  | 0 => if isBoundary bytes 0 then some 0 else none
  | place + 1 => if isBoundary bytes (place + 1) then some (place + 1) else down? bytes place

/-- Goes up from a place to a boundary, byte by byte. It fails if it has to go behind the end. -/
def up? (bytes : Bytes) (place : Nat) : Option Nat :=
  if isBoundary bytes place then some place
  else if place < bytes.length then up? bytes (place + 1)
  else none
termination_by bytes.length - place

/-- The bytes between two places. It fails if they are out of order or no boundaries. -/
def slice? (bytes : Bytes) (low high : Nat) : Option Bytes :=
  if low ≤ high ∧ isBoundary bytes low ∧ isBoundary bytes high then
    some ((bytes.take high).drop low)
  else none

variable {text : List Char} {c : Char} {bytes : Bytes} {n place : Nat}

/-- The bytes that go on a character, by their numbers. -/
lemma goesOn_toUInt8 (h : n < 256) : goesOn n.toUInt8 = decide (0x80 ≤ n ∧ n < 0xC0) := by
  have hn : n.toUInt8.toNat = n := UInt8.toNat_ofNat_of_lt' h
  rw [goesOn, Bool.decide_and]
  simp only [UInt8.le_iff_toNat_le, UInt8.lt_iff_toNat_lt, hn]
  rfl

/-- A character has a first byte, and goes on with all others. -/
lemma exists_encodeChar (c : Char) :
    ∃ b more, encodeChar c = b :: more ∧ goesOn b = false ∧ ∀ d ∈ more, goesOn d = true := by
  have hc : c.toNat < 0xD800 ∨ (0xDFFF < c.toNat ∧ c.toNat < 0x110000) := c.valid
  -- a first byte is a small one or at least 0xC0, and all others lie between these
  have hfirst : ∀ n, n < 256 → (n < 0x80 ∨ 0xC0 ≤ n) → goesOn n.toUInt8 = false := by
    intro n hn hrange
    rw [goesOn_toUInt8 hn, decide_eq_false_iff_not]
    omega
  have hmore : ∀ n, goesOn (0x80 + n % 64).toUInt8 = true := by
    intro n
    rw [goesOn_toUInt8 (by omega), decide_eq_true_eq]
    omega
  rw [encodeChar]
  generalize c.toNat = n at hc
  by_cases h1 : n < 0x80
  · exact ⟨_, _, if_pos h1, hfirst n (by omega) (by omega), by simp⟩
  by_cases h2 : n < 0x800
  · refine ⟨_, _, (if_neg h1).trans (if_pos h2), hfirst _ (by omega) (by omega), ?_⟩
    simp only [List.forall_mem_cons, hmore, true_and]
    exact List.forall_mem_nil _
  by_cases h3 : n < 0x10000
  · refine ⟨_, _, (if_neg h1).trans ((if_neg h2).trans (if_pos h3)), hfirst _ (by omega) (by omega), ?_⟩
    simp only [List.forall_mem_cons, hmore, true_and]
    exact List.forall_mem_nil _
  · refine ⟨_, _, (if_neg h1).trans ((if_neg h2).trans (if_neg h3)), hfirst _ (by omega) (by omega), ?_⟩
    simp only [List.forall_mem_cons, hmore, true_and]
    exact List.forall_mem_nil _

/-- Every character takes some byte. -/
lemma length_encodeChar_pos (c : Char) : 0 < (encodeChar c).length := by
  obtain ⟨b, more, hc, -⟩ := exists_encodeChar c
  rw [hc]
  exact Nat.succ_pos _

/-- There is a boundary at the start. -/
lemma isBoundary_zero (bytes : Bytes) : isBoundary bytes 0 = true := rfl

/-- Behind the start the byte at the place is looked at, or the end is compared. -/
lemma isBoundary_of_pos (h : 0 < place) :
    isBoundary bytes place =
      match bytes[place]? with
      | some b => !goesOn b
      | none => place == bytes.length := by
  rw [isBoundary, beq_eq_false_iff_ne.mpr (Nat.ne_of_gt h), Bool.false_or]

/-- The bytes of a text begin with a boundary, also to judge by the first byte. -/
lemma isBoundary_encode_eq (text : List Char) (place : Nat) :
    isBoundary (encode text) place =
      match (encode text)[place]? with
      | some b => !goesOn b
      | none => place == (encode text).length := by
  cases place with
  | succ place => exact isBoundary_of_pos (Nat.succ_pos _)
  | zero =>
    cases text with
    | nil => rfl
    | cons c text =>
      obtain ⟨b, more, hc, hb, -⟩ := exists_encodeChar c
      simp [isBoundary_zero, hc, hb]

/-- Inside a character there is no boundary. -/
lemma isBoundary_inside (hpos : 0 < n) (hn : n < (encodeChar c).length) (bytes : Bytes) :
    isBoundary (encodeChar c ++ bytes) n = false := by
  obtain ⟨b, more, hc, -, hmore⟩ := exists_encodeChar c
  obtain ⟨n, rfl⟩ := Nat.exists_eq_succ_of_ne_zero (Nat.ne_of_gt hpos)
  rw [hc, List.length_cons] at hn
  have hn' : n < more.length := by omega
  rw [isBoundary_of_pos hpos, hc, List.cons_append, List.getElem?_cons_succ,
    List.getElem?_append_left hn', List.getElem?_eq_getElem hn']
  simp [hmore]

/-- Behind the first character the boundaries are those of the other characters. -/
lemma isBoundary_behind (c : Char) (text : List Char) (n : Nat) :
    isBoundary (encodeChar c ++ encode text) ((encodeChar c).length + n) =
      isBoundary (encode text) n := by
  have hpos : 0 < (encodeChar c).length + n := Nat.add_pos_left (length_encodeChar_pos c) n
  rw [isBoundary_of_pos hpos, isBoundary_encode_eq, List.getElem?_append_right (Nat.le_add_right _ _),
    Nat.add_sub_cancel_left, List.length_append]
  cases (encode text)[n]? with
  | some b => rfl
  | none => exact Bool.eq_iff_iff.mpr (by simp only [beq_iff_eq, Nat.add_left_cancel_iff])

/-- The bytes of a text show its boundaries. -/
theorem isBoundary_encode : isBoundary (encode text) n ↔ Boundary text n := by
  induction text generalizing n with
  | nil => simp [isBoundary, boundary_nil]
  | cons c text ih =>
    rw [boundary_cons, encode_cons]
    rcases Nat.eq_zero_or_pos n with rfl | hpos
    · simp [isBoundary_zero]
    by_cases hn : n < (encodeChar c).length
    · rw [isBoundary_inside hpos hn]
      simp only [Bool.false_eq_true, false_iff]
      omega
    · obtain ⟨m, rfl⟩ := Nat.exists_eq_add_of_le (Nat.not_lt.mp hn)
      rw [isBoundary_behind, ih]
      refine ⟨fun hm => .inr ⟨m, hm, rfl⟩, ?_⟩
      rintro (hzero | ⟨m', hm', heq⟩)
      · omega
      · exact Nat.add_left_cancel heq ▸ hm'

/-- Going down comes to the last boundary that is not above the place. -/
lemma down?_of_isGreatest {low : Nat} (h : IsGreatest {n | isBoundary bytes n ∧ n ≤ place} low) :
    down? bytes place = some low := by
  induction place with
  | zero =>
    obtain rfl := Nat.le_zero.mp h.1.2
    exact if_pos h.1.1
  | succ place ih =>
    rw [down?]
    split
    · rename_i hhere
      exact congrArg some (le_antisymm (h.2 ⟨hhere, le_rfl⟩) h.1.2)
    · rename_i hhere
      have hne : low ≠ place + 1 := fun heq => hhere (heq ▸ h.1.1)
      have hle : low ≤ place := Nat.le_of_lt_succ (lt_of_le_of_ne h.1.2 hne)
      exact ih ⟨⟨h.1.1, hle⟩, fun n hn => h.2 ⟨hn.1, Nat.le_succ_of_le hn.2⟩⟩

/-- No boundary is told behind the end. -/
lemma le_length_of_isBoundary (h : isBoundary bytes n) : n ≤ bytes.length := by
  refine Nat.le_of_not_lt fun hlt => ?_
  rw [isBoundary_of_pos (Nat.zero_lt_of_lt hlt), List.getElem?_eq_none hlt.le] at h
  exact hlt.ne' (beq_iff_eq.mp h)

/-- Going up comes to the first boundary that is not below the place. -/
lemma up?_of_isLeast {high : Nat} (h : IsLeast {n | isBoundary bytes n ∧ place ≤ n} high) :
    up? bytes place = some high := by
  induction place using up?.induct bytes with
  | case1 place hhere =>
    rw [up?, if_pos hhere]
    exact congrArg some (le_antisymm h.1.2 (h.2 ⟨hhere, le_rfl⟩))
  | case2 place hhere hlt ih =>
    rw [up?, if_neg hhere, if_pos hlt]
    have hne : place ≠ high := fun heq => hhere (heq ▸ h.1.1)
    have hle : place + 1 ≤ high := lt_of_le_of_ne h.1.2 hne
    exact ih ⟨⟨h.1.1, hle⟩, fun n hn => h.2 ⟨hn.1, Nat.le_of_succ_le hn.2⟩⟩
  | case3 place hhere hlt =>
    -- the boundary is not behind the end, so that the search has stopped at it
    have hend : high ≤ place := (le_length_of_isBoundary h.1.1).trans (Nat.le_of_not_lt hlt)
    exact absurd (le_antisymm hend h.1.2 ▸ h.1.1) hhere

/-- Between the boundaries in front of a piece of a text and behind it are the bytes of the piece. -/
lemma slice?_encode (before middle after : List Char) :
    slice? (encode (before ++ middle ++ after)) (byteLength before)
      (byteLength before + byteLength middle) = some (encode middle) := by
  have hlow : isBoundary (encode (before ++ middle ++ after)) (byteLength before) :=
    isBoundary_encode.mpr ⟨before, middle ++ after, (List.append_assoc _ _ _).symm, rfl⟩
  have hhigh : isBoundary (encode (before ++ middle ++ after)) (byteLength before + byteLength middle) :=
    isBoundary_encode.mpr ⟨before ++ middle, after, rfl, byteLength_append _ _⟩
  have htake : (encode (before ++ middle ++ after)).take (byteLength before + byteLength middle) =
      encode (before ++ middle) := by
    rw [encode_append, ← byteLength_append]
    exact List.take_left
  have hdrop : (encode (before ++ middle)).drop (byteLength before) = encode middle := by
    rw [encode_append]
    exact List.drop_left
  rw [slice?, if_pos ⟨Nat.le_add_right _ _, hlow, hhigh⟩, htake, hdrop]

end Utf8
end Highlighter
