import Highlighter.Check
import Highlighter.Proofs.Text.Boundary

/-!
# Excerpts around a byte

Two texts part at the first byte that they do not share (`Text.partAt_firstDivergence`), which may be
inside a character of either. The excerpt around such a place is cut out at boundaries, has the place in it,
and goes no further than to the end of the character at each of its limits (`Text.shows_excerpt`). Cutting it
out of the bytes instead, by going down and up from the limits to the nearest boundaries, never fails and
gives the same (`Text.cut?_eq`). Main statement: `Text.excerpt_divergence`.
-/

namespace Highlighter.Text

open Utf8

/-! ### Where two texts part -/

/-- The bytes `a` and `b` are the same up to the place, and no further. -/
structure PartAt (a b : Bytes) (place : Nat) : Prop where
  take_eq : a.take place = b.take place
  le_left : place ≤ a.length
  le_right : place ≤ b.length
  /-- One of them ends at the place, or they have different bytes there. -/
  parts : place = a.length ∨ place = b.length ∨
    ∃ x y, a[place]? = some x ∧ b[place]? = some y ∧ x ≠ y

variable {a b : Bytes} {x y : UInt8} {place : Nat}

/-- The first bytes are compared, and the others if they are the same. -/
lemma firstDivergence_cons :
    firstDivergence (x :: a) (y :: b) = if x = y then firstDivergence a b + 1 else 0 := by
  rw [firstDivergence, List.zip_cons_cons, List.takeWhile_cons]
  by_cases h : x = y
  · rw [if_pos h, if_pos (decide_eq_true h), List.length_cons]
    rfl
  · rw [if_neg h, if_neg (by simpa using h), List.length_nil]

/-- A byte that both begin with puts the place one further. -/
lemma PartAt.cons (h : PartAt a b place) (x : UInt8) : PartAt (x :: a) (x :: b) (place + 1) where
  take_eq := congrArg (x :: ·) h.take_eq
  le_left := Nat.succ_le_succ h.le_left
  le_right := Nat.succ_le_succ h.le_right
  parts := h.parts.imp (congrArg (· + 1)) (Or.imp_left (congrArg (· + 1)))

/-- Two texts part at the first byte that they do not share. -/
theorem partAt_firstDivergence (a b : Bytes) : PartAt a b (firstDivergence a b) := by
  induction a generalizing b with
  | nil => exact ⟨rfl, Nat.zero_le _, Nat.zero_le _, .inl rfl⟩
  | cons x a ih =>
    cases b with
    | nil => exact ⟨rfl, Nat.zero_le _, Nat.zero_le _, .inr (.inl rfl)⟩
    | cons y b =>
      rw [firstDivergence_cons]
      split
      · rename_i heq
        exact heq ▸ (ih b).cons x
      · rename_i hne
        exact ⟨rfl, Nat.zero_le _, Nat.zero_le _, .inr (.inr ⟨x, y, rfl, rfl, hne⟩)⟩

/-! ### What an excerpt shows -/

/-- The excerpt shows the text around byte `place`. -/
structure Excerpt.Shows (e : Excerpt) (text : List Char) (place : Nat) : Prop where
  /-- It begins and ends at boundaries of the text. -/
  cut : ∃ before after, before ++ e.text ++ after = text ∧ byteLength before = e.low
  low_le_place : e.low ≤ place
  place_le_high : place ≤ e.high
  /-- It goes down to the lower limit, which its first character begins at or has inside. -/
  low_le : e.low ≤ place - margin
  lt_low : ∀ c ∈ e.text.head?, place - margin < e.low + (encodeChar c).length
  /-- It goes up to the upper limit, or the end of the text, and its last character begins in front of
  that. -/
  le_high : min (place + margin) (byteLength text) ≤ e.high
  high_lt : ∀ c ∈ e.text.getLast?,
    e.high < min (place + margin) (byteLength text) + (encodeChar c).length

variable {text : List Char} {e : Excerpt}

/-- Seeking passes over characters up to the limit, and stops at one that goes beyond it. -/
lemma exists_passed (limit pos : Nat) (text : List Char) :
    ∃ passed, passed ++ (seek limit pos text).text = text ∧
      (seek limit pos text).low = pos + byteLength passed ∧
      (pos ≤ limit → (seek limit pos text).low ≤ limit) ∧
      ∀ c ∈ (seek limit pos text).text.head?,
        limit < (seek limit pos text).low + (encodeChar c).length := by
  induction text generalizing pos with
  | nil => exact ⟨[], rfl, rfl, id, nofun⟩
  | cons c text ih =>
    rw [seek]
    split
    · rename_i hnext
      obtain ⟨passed, htext, hlow, hle, hhead⟩ := ih (pos + (encodeChar c).length)
      refine ⟨c :: passed, congrArg (c :: ·) htext, ?_, fun _ => hle hnext, hhead⟩
      rw [hlow, byteLength_cons, Nat.add_assoc]
    · rename_i hnext
      refine ⟨[], rfl, rfl, id, fun d hd => ?_⟩
      obtain rfl := Option.some.inj hd
      exact Nat.lt_of_not_le hnext

/-- What is taken goes up to the limit or the end, and its last character begins before the limit. -/
lemma exists_rest (limit pos : Nat) (text : List Char) :
    ∃ rest, takeTo limit pos text ++ rest = text ∧
      (rest = [] ∨ limit ≤ pos + byteLength (takeTo limit pos text)) ∧
      ∀ c ∈ (takeTo limit pos text).getLast?,
        pos + byteLength (takeTo limit pos text) < limit + (encodeChar c).length := by
  induction text generalizing pos with
  | nil => exact ⟨[], rfl, .inl rfl, nofun⟩
  | cons c text ih =>
    rw [takeTo]
    split
    · rename_i hbefore
      obtain ⟨rest, htext, hend, hlast⟩ := ih (pos + (encodeChar c).length)
      generalize takeTo limit (pos + (encodeChar c).length) text = taken at htext hend hlast
      refine ⟨rest, congrArg (c :: ·) htext, ?_, fun d hd => ?_⟩
      · rwa [byteLength_cons, ← Nat.add_assoc]
      · rw [byteLength_cons, ← Nat.add_assoc]
        -- the last character taken is this one or the last of those behind it
        rcases List.eq_nil_or_concat taken with rfl | ⟨init, last, rfl⟩
        · -- the character is the last one
          obtain rfl := Option.some.inj hd
          exact Nat.add_lt_add_right hbefore _
        · refine hlast d ?_
          rw [List.concat_eq_append, ← List.cons_append, List.getLast?_concat] at hd
          rwa [List.concat_eq_append, List.getLast?_concat]
    · rename_i hbefore
      exact ⟨c :: text, rfl, .inr (Nat.le_of_not_lt hbefore), nofun⟩

/-- The excerpt around a place of a text shows the text around it. -/
theorem shows_excerpt (h : place ≤ byteLength text) : (excerpt text place).Shows text place := by
  obtain ⟨before, hbefore, hlow, hle, hhead⟩ := exists_passed (place - margin) 0 text
  rw [excerpt]
  generalize seek (place - margin) 0 text = start at hbefore hlow hle hhead
  obtain ⟨after, hafter, hend, hlast⟩ := exists_rest (place + margin) start.low start.text
  generalize takeTo (place + margin) start.low start.text = taken at hafter hend hlast
  have hlimit := hle (Nat.zero_le _)
  rw [Nat.zero_add] at hlow
  -- the text is cut into what was passed over, what is shown and what is left
  have htext : before ++ taken ++ after = text := by rw [List.append_assoc, hafter, hbefore]
  have hlength : byteLength text = start.low + byteLength taken + byteLength after := by
    rw [← htext, byteLength_append, byteLength_append, hlow]
  have hhigh : min (place + margin) (byteLength text) ≤ start.low + byteLength taken := by
    rcases hend with rfl | hend
    · exact (Nat.min_le_right _ _).trans hlength.le
    · exact (Nat.min_le_left _ _).trans hend
  refine
    { cut := ⟨before, after, htext, hlow.symm⟩
      low_le_place := hlimit.trans (Nat.sub_le _ _)
      place_le_high := (Nat.le_min.mpr ⟨Nat.le_add_right _ _, h⟩).trans hhigh
      low_le := hlimit
      lt_low := ?_
      le_high := hhigh
      high_lt := ?_ }
  · intro c hc
    refine hhead c ?_
    rw [← hafter, List.head?_append, Option.mem_def.mp hc]
    rfl
  · intro c hc
    have hpos := length_encodeChar_pos c
    have hbegins := hlast c hc
    change start.low + byteLength taken < _
    omega

/-! ### Cutting the excerpt out of the bytes -/

/-- The excerpt around a place, cut out of the bytes: from the lower limit down to a boundary and from the
upper one up to a boundary. It fails where a search or the cut does, or where the bytes are no text. -/
def cut? (bytes : Bytes) (place : Nat) : Option Excerpt := do
  let low ← down? bytes (place - margin)
  let high ← up? bytes (min (place + margin) bytes.length)
  let piece ← slice? bytes low high
  let text ← decode? piece
  return ⟨low, text⟩

/-- An empty excerpt ends where it begins. -/
lemma Excerpt.high_of_nil (h : e.text = []) : e.high = e.low := by
  rw [Excerpt.high, h, byteLength_nil, Nat.add_zero]

/-- The excerpt begins at the last boundary that is not above the lower limit. -/
lemma Excerpt.Shows.isGreatest (h : e.Shows text place) :
    IsGreatest {n | Boundary text n ∧ n ≤ place - margin} e.low := by
  obtain ⟨before, after, htext, hlow⟩ := h.cut
  refine ⟨⟨⟨before, e.text ++ after, by rw [← htext, List.append_assoc], hlow⟩, h.low_le⟩, ?_⟩
  rintro n ⟨hn, hlimit⟩
  cases hpiece : e.text with
  | nil => exact hlimit.trans ((Nat.sub_le _ _).trans (Excerpt.high_of_nil hpiece ▸ h.place_le_high))
  | cons c rest =>
    rw [← htext, hpiece, List.append_assoc, List.cons_append] at hn
    have hfirst := h.lt_low c (by rw [hpiece]; rfl)
    rcases hn.le_or_le with hle | hle
    · exact hlow ▸ hle
    · rw [byteLength_append, byteLength_cons, byteLength_nil] at hle
      omega

/-- The excerpt ends at the first boundary that is not below the upper limit. -/
lemma Excerpt.Shows.isLeast (h : e.Shows text place) :
    IsLeast {n | Boundary text n ∧ min (place + margin) (byteLength text) ≤ n} e.high := by
  obtain ⟨before, after, htext, hlow⟩ := h.cut
  have hboundary : Boundary text e.high :=
    ⟨before ++ e.text, after, htext, by rw [byteLength_append, hlow]; rfl⟩
  refine ⟨⟨hboundary, h.le_high⟩, ?_⟩
  rintro n ⟨hn, hlimit⟩
  have hplace := h.place_le_high.trans hboundary.le_byteLength
  rcases List.eq_nil_or_concat e.text with hpiece | ⟨init, c, hpiece⟩
  · -- nothing is shown, so that the place and both limits are the same
    have hhigh := Excerpt.high_of_nil hpiece
    have hlow_le := h.low_le_place
    omega
  · rw [List.concat_eq_append] at hpiece
    have hlast := h.high_lt c (by rw [hpiece, List.getLast?_concat]; rfl)
    have hhigh : e.high = byteLength (before ++ init) + (encodeChar c).length := by
      rw [Excerpt.high, hpiece, ← hlow]
      simp only [byteLength_append, byteLength_cons, byteLength_nil]
      omega
    rw [← htext, hpiece, ← List.append_assoc, List.append_assoc, List.singleton_append] at hn
    rcases hn.le_or_le with hle | hle
    · omega
    · rw [byteLength_append, byteLength_cons, byteLength_nil] at hle
      omega

/-- Cutting the excerpt out of the bytes of a text never fails, wherever in a character the place
is, and gives the excerpt of the text. -/
theorem cut?_eq (h : place ≤ byteLength text) : cut? (encode text) place = some (excerpt text place) := by
  have hshows := shows_excerpt h
  generalize excerpt text place = e at hshows
  have hlow : down? (encode text) (place - margin) = some e.low :=
    down?_of_isGreatest (by simpa only [isBoundary_encode] using hshows.isGreatest)
  have hlength : (encode text).length = byteLength text := rfl
  have hhigh : up? (encode text) (min (place + margin) (byteLength text)) = some e.high :=
    up?_of_isLeast (by simpa only [isBoundary_encode] using hshows.isLeast)
  obtain ⟨before, after, htext, hbefore⟩ := hshows.cut
  have hslice : slice? (encode text) e.low e.high = some (encode e.text) := by
    rw [← htext, Excerpt.high, ← hbefore]
    exact slice?_encode before e.text after
  simp only [cut?, hlength, hlow, hhigh, hslice, decode?_encode, Option.bind_eq_bind, Option.bind_some]
  rfl

/-- Where two texts part, both are shown around that byte. They are the same up to it and no further,
also if it is inside a character of one of them or of both. For either text, the search for the boundaries
around the byte ends in both directions, the cut is made at boundaries, and it gives the excerpt that is
shown. -/
theorem excerpt_divergence (a b : String) :
    PartAt (ofString a) (ofString b) (divergence a b) ∧
      (cut? (ofString a) (divergence a b) = some (excerpt a.toList (divergence a b)) ∧
        (excerpt a.toList (divergence a b)).Shows a.toList (divergence a b)) ∧
      (cut? (ofString b) (divergence a b) = some (excerpt b.toList (divergence a b)) ∧
        (excerpt b.toList (divergence a b)).Shows b.toList (divergence a b)) := by
  have hpart := partAt_firstDivergence (ofString a) (ofString b)
  exact ⟨hpart, ⟨cut?_eq hpart.le_left, shows_excerpt hpart.le_left⟩,
    ⟨cut?_eq hpart.le_right, shows_excerpt hpart.le_right⟩⟩

/-- Two letters that share their first byte part inside both of them. -/
example : divergence "né" "nê" = 2 ∧ (excerpt "né".toList 2).text = "né".toList := by decide

end Highlighter.Text
