import Mathlib.Data.List.Find
import Highlighter.Proofs.Lexeme.Simulation

/-!
# Checking that a grammar follows rules

Whether a grammar follows the rules of a language is found out from its tables, state by state and key
by key (`Follows.check`). Characters that are no keys all do the same in a state and in its role, as
long as the rules are about keys only, so one of them stands for all. Main statement:
`follows_of_check`.
-/

namespace Highlighter

namespace Extent

/-- All characters that the end of the construct hangs on are keys. -/
def isAscii : Extent → Bool
  | pair first last => first.toNat < 128 && last.toNat < 128
  | stop chars _ _ => chars.all (·.toNat < 128)

/-- A character beyond ASCII ends nothing. -/
lemma next_of_wide {e : Extent} (he : e.isAscii) {c : Char} (hc : 128 ≤ c.toNat) (half : Bool) :
    e.next half c = .on false := by
  have hne : ∀ d : Char, d.toNat < 128 → c ≠ d := fun d hd heq => by subst heq; omega
  cases e with
  | pair first last =>
    simp only [isAscii, Bool.and_eq_true, decide_eq_true_eq] at he
    cases half with
    | false => simp [next, hne first he.1]
    | true => simp [next, hne first he.1, hne last he.2]
  | stop chars included escapes =>
    simp only [isAscii, List.all_eq_true, decide_eq_true_eq] at he
    have hchars : c ∉ chars := fun hmem => hne c (he c hmem) rfl
    cases half with
    | false => simp [next, hchars, hne '\\' (by decide)]
    | true => rfl

/-- Only one of the characters that are no part of it ends a construct in front of it. -/
lemma of_next_before {e : Extent} {half : Bool} {c : Char} (h : e.next half c = .before) :
    ∃ chars escapes, e = stop chars false escapes ∧ c ∈ chars := by
  cases e with
  | pair first last =>
    cases half with
    | false => cases h
    | true =>
      rw [next] at h
      split at h <;> cases h
  | stop chars included escapes =>
    cases half with
    | true => cases h
    | false =>
      rw [next] at h
      split_ifs at h with hescape hc hincluded
      rw [Bool.not_eq_true] at hincluded
      exact ⟨chars, escapes, by rw [hincluded], hc⟩

end Extent

namespace Rule

/-- All characters that the rule is about are keys. -/
def isAscii (r : Rule) : Bool :=
  r.first.toNat < 128 && r.second.all (·.toNat < 128) && r.extent.isAscii

variable {r : Rule}

/-- The first character of such a rule is a key. -/
lemma first_of_isAscii (h : r.isAscii) : r.first.toNat < 128 := by
  simp only [isAscii, Bool.and_eq_true, decide_eq_true_eq] at h
  exact h.1.1

/-- The second character of such a rule is a key, if it has one. -/
lemma second_of_isAscii (h : r.isAscii) {c : Char} (hc : r.second = some c) : c.toNat < 128 := by
  simp only [isAscii, Bool.and_eq_true] at h
  simpa [hc] using h.1.2

/-- The characters that end the construct of such a rule are keys. -/
lemma extent_of_isAscii (h : r.isAscii) : r.extent.isAscii := by
  rw [isAscii, Bool.and_eq_true] at h
  exact h.2

end Rule

namespace Role

variable {rules : List Rule} {c : Char}

/-- A character beyond ASCII begins nothing. -/
lemma begun_of_wide (hrules : ∀ r ∈ rules, r.isAscii) (hc : 128 ≤ c.toNat) :
    begun rules c = plain := by
  have hfind : rules.find? (·.first == c) = none := List.find?_eq_none.mpr fun r hr hfirst => by
    obtain rfl := beq_iff_eq.mp hfirst
    have := Rule.first_of_isAscii (hrules r hr)
    omega
  rw [begun, hfind]

/-- Behind the first character of an opener, one beyond ASCII is like the end of the text. -/
lemma opening?_of_wide (hrules : ∀ r ∈ rules, r.isAscii) (hc : 128 ≤ c.toNat) (h : Char) :
    Rule.opening? rules h (some c) = Rule.opening? rules h none := by
  refine List.find?_congr fun r hr => ?_
  have hsecond : (r.second == some c) = false := beq_eq_false_iff_ne.mpr fun hsecond => by
    have := Rule.second_of_isAscii (hrules r hr) hsecond
    omega
  simp [Rule.opens, hsecond]

/-- All characters that are no keys move a role alike. -/
lemma move_of_wide (hrules : ∀ r ∈ rules, r.isAscii) {role : Role} (hknown : role.Known rules)
    {d : Char} (hc : 128 ≤ c.toNat) (hd : 128 ≤ d.toNat) : role.move rules c = role.move rules d := by
  cases role with
  | plain => rw [move, move, begun_of_wide hrules hc, begun_of_wide hrules hd]
  | held h =>
    obtain ⟨r, hr, rfl, -⟩ := hknown
    have hne : ∀ e : Char, 128 ≤ e.toNat → e ≠ r.first := fun e he heq => by
      have := Rule.first_of_isAscii (hrules r hr)
      rw [← heq] at this
      omega
    rw [move, move, opening?_of_wide hrules hc, opening?_of_wide hrules hd, if_neg (hne c hc),
      if_neg (hne d hd), begun_of_wide hrules hc, begun_of_wide hrules hd]
  | inside r half =>
    have hr := Rule.extent_of_isAscii (hrules r hknown)
    rw [move, move, Extent.next_of_wide hr hc, Extent.next_of_wide hr hd]

instance (rules : List Rule) : (role : Role) → Decidable (role.Known rules)
  | plain => isTrue trivial
  | held h => inferInstanceAs (Decidable (∃ r ∈ rules, r.first = h ∧ r.second.isSome))
  | inside r _ => inferInstanceAs (Decidable (r ∈ rules))

instance (g : Grammar) (s : State) : (role : Role) → Decidable (role.Finishes g s)
  | plain => inferInstanceAs (Decidable (_ ∧ _))
  | held _ => inferInstanceAs (Decidable (_ ∧ _ ∧ _))
  | inside _ _ => inferInstanceAs (Decidable (_ ∧ _ ∧ (_ ∨ _)))

end Role

instance (g : Grammar) (roles : Roles) (role : Role) (s t : State) (m : Move) :
    Decidable (m.Made g roles role s t) :=
  inferInstanceAs (Decidable (if m.target = role then t = s
    else roles t = some m.target ∧ g.processor s t = m.processor ∧ g.edge s t = m.markup))

namespace Rule

/-- Whether a scanner can follow the rules. -/
def check (k : Overlay) (rules : List Rule) : Bool :=
  rules.all fun r =>
    r.isAscii && (r.second.isNone || !k.isIdentChar r.first) &&
      (rules.all fun r' => r.first != r'.first || r.second.isSome == r'.second.isSome) &&
      match r.extent with
      | .pair _ _ => true
      | .stop chars included _ => included || chars.all (Role.begun rules · == .plain)

/-- Rules that pass the check can be followed by a scanner, and are about keys only. -/
lemma sound_of_check {k : Overlay} {rules : List Rule} (h : check k rules) :
    Sound k rules ∧ ∀ r ∈ rules, r.isAscii := by
  have hrule := fun r hr => List.all_eq_true.mp h r hr
  simp only [Bool.and_eq_true] at hrule
  refine ⟨⟨fun r hr hsecond => ?_, fun r hr r' hr' hfirst => ?_, fun r hr half c hnext => ?_⟩,
    fun r hr => (hrule r hr).1.1.1⟩
  · have hheld := (hrule r hr).1.1.2
    rw [Option.isNone_eq_false_iff.mpr hsecond] at hheld
    simpa using hheld
  · have halike := List.all_eq_true.mp (hrule r hr).1.2 r' hr'
    simpa [hfirst] using halike
  · obtain ⟨chars, escapes, hextent, hc⟩ := Extent.of_next_before hnext
    have hstop := (hrule r hr).2
    rw [hextent] at hstop
    exact beq_iff_eq.mp (List.all_eq_true.mp hstop c hc)

end Rule

/-- Whether the grammar follows the rules, found out state by state and key by key. -/
def Follows.check (g : Grammar) (rules : List Rule) (roles : Roles) : Bool :=
  Rule.check g.keywords rules && roles g.initial == some .plain &&
    State.all.all fun s => (roles s).all fun role =>
      decide (role.Known rules) && decide (role.Finishes g s) &&
        (wideChar :: Key.all.map Key.toChar).all fun c =>
          decide ((role.move rules c).Made g roles role s (g.next s c))

/-- A grammar that passes the check follows the rules. -/
theorem follows_of_check {g : Grammar} {rules : List Rule} {roles : Roles}
    (h : Follows.check g rules roles) : Follows g rules roles := by
  simp only [Follows.check, Bool.and_eq_true, beq_iff_eq, List.all_eq_true, State.mem_all,
    forall_const] at h
  obtain ⟨⟨hrules, hinitial⟩, hstates⟩ := h
  obtain ⟨hsound, hascii⟩ := Rule.sound_of_check hrules
  have hstate : ∀ s role, roles s = some role → (role.Known rules ∧ role.Finishes g s) ∧
      ∀ c ∈ wideChar :: Key.all.map Key.toChar,
        (role.move rules c).Made g roles role s (g.next s c) := by
    intro s role hrole
    have hs := hstates s
    rw [hrole, Option.all_some] at hs
    simpa only [Bool.and_eq_true, decide_eq_true_eq, List.all_eq_true] using hs
  refine ⟨hsound, hinitial, fun s role hrole => (hstate s role hrole).1.1, ?_,
    fun s role hrole => (hstate s role hrole).1.2⟩
  intro s role hrole c
  obtain ⟨⟨hknown, -⟩, hmade⟩ := hstate s role hrole
  refine forall_char (fun c d hc hd h => ?_) hmade c
  rwa [Role.move_of_wide hascii hknown hc hd, g.next_of_wide hc hd]

end Highlighter
