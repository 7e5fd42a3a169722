import Highlighter.Processor
import Highlighter.Proofs.Lexeme.Rendering

/-!
# Roles of scanner states

A scanner that reads one character at a time has to know where it stands: in plain text, behind a
character that may open a construct with the next one, or inside a construct (`Role`). What it has to
do on each character follows from the rules of the language (`Role.move`). What is still to be written
of a text is told by the role and the segment (`Role.due`). Main statements: `due_stay`, a move to the
same role writes nothing; `pays_move`, a move to another role writes what was due before it, but for
what is due behind it.
-/

namespace Highlighter

open Lexeme

/-- What a state of the scanner knows of the text before it. -/
inductive Role where
  /-- The text is plain. -/
  | plain
  /-- The last character may open a construct with the next one. The segment repeats it as often as
  it stood before. -/
  | held (c : Char)
  /-- The text is inside a construct. -/
  | inside (r : Rule) (half : Bool)
  deriving DecidableEq

/-- What the scanner does on a character: the role it comes to, what it does with the segment, and the
markup behind it. A move to the role itself only makes the segment longer. -/
structure Move where
  target : Role
  processor : Processor
  markup : Option String

namespace Role

/-- The role behind a character of plain text. -/
def begun (rules : List Rule) (c : Char) : Role :=
  match rules.find? (·.first == c) with
  | none => plain
  | some r => if r.second.isSome then held r.first else inside r false

/-- The markup in front of a role, with the opener that it spells. -/
def opening : Role → Option String
  | inside r _ => some (Span.openWith r.className (String.ofList r.opener))
  | _ => none

/-- Gives up holding `h` for what begins behind it. -/
def giveUp (h : Char) (target : Role) : Move :=
  if target = plain then ⟨plain, .putback (String.singleton h), none⟩
  else ⟨target, .putbackTrim (String.singleton h), target.opening⟩

/-- What is held back is given up for the role asked for. -/
lemma target_giveUp (h : Char) (target : Role) : (giveUp h target).target = target := by
  unfold giveUp
  split
  · rename_i htarget
    exact htarget.symm
  · rfl

/-- What the scanner does on a character. -/
def move (rules : List Rule) : Role → Char → Move
  | plain, c => ⟨begun rules c, .trimTrigger, (begun rules c).opening⟩
  | held h, c =>
    match Rule.opening? rules h (some c) with
    | some r => ⟨inside r false, .dropTrigger, (inside r false).opening⟩
    | none => if c = h then ⟨held h, .raw, none⟩ else giveUp h (begun rules c)
  | inside r half, c =>
    match r.extent.next half c with
    | .on half => ⟨inside r half, .raw, none⟩
    | .through => ⟨plain, .raw, some Span.close⟩
    | .before => ⟨plain, .carryTrigger, some Span.close⟩

/-- The role is about rules of the language. -/
def Known (rules : List Rule) : Role → Prop
  | plain => True
  | held h => ∃ r ∈ rules, r.first = h ∧ r.second.isSome
  | inside r _ => r ∈ rules

/-- The segment is one that a state of the role can have. -/
def Fits (segment : List Char) : Role → Prop
  | held h => ∀ c ∈ segment, c = h
  | _ => True

/-- What is still to be written when `text` is to come behind the segment. -/
def due (k : Overlay) (rules : List Rule) : Role → (segment text : List Char) → List Char
  | plain, segment, text => rendered k rules segment.reverse text
  | held h, segment, text => rendered k rules segment.reverse (h :: text)
  | inside r half, segment, text => segment ++ ended k rules r half text

end Role

/-- What a scanner of these rules relies on: a character that it holds back is part of no identifier
and opens nothing by itself, and a character that a construct ends in front of opens nothing. -/
structure Rule.Sound (k : Overlay) (rules : List Rule) : Prop where
  apart : ∀ r ∈ rules, r.second.isSome → k.isIdentChar r.first = false
  alike : ∀ r ∈ rules, ∀ r' ∈ rules, r.first = r'.first → r.second.isSome = r'.second.isSome
  quiet : ∀ r ∈ rules, ∀ half c, r.extent.next half c = .before → Role.begun rules c = .plain

namespace Role

variable {k : Overlay} {rules : List Rule} {role : Role} {r : Rule} {h c : Char}
  {segment rest : List Char}

/-- A character that begins nothing opens nothing, whatever comes next. -/
lemma opening?_of_begun_plain (hc : begun rules c = plain) (next : Option Char) :
    Rule.opening? rules c next = none := by
  unfold begun at hc
  split at hc
  · rename_i hnone
    rw [List.find?_eq_none] at hnone
    refine List.find?_eq_none.mpr fun r hr hopens => hnone r hr ?_
    rw [Rule.opens, Bool.and_eq_true] at hopens
    exact hopens.1
  · split at hc <;> exact nomatch hc

/-- A character that begins a construct at once opens it, whatever comes next. -/
lemma of_begun_inside {half : Bool} (hc : begun rules c = inside r half) :
    half = false ∧ r ∈ rules ∧ r.second = none ∧ ∀ next, Rule.opening? rules c next = some r := by
  unfold begun at hc
  split at hc
  · cases hc
  · rename_i r' hfind
    split at hc
    · cases hc
    · rename_i hsecond
      obtain ⟨rfl, rfl⟩ := inside.inj hc
      rw [Option.not_isSome_iff_eq_none] at hsecond
      refine ⟨rfl, List.mem_of_find?_eq_some hfind, hsecond, fun next => ?_⟩
      -- the rules before it begin with other characters, so they do not open here
      obtain ⟨hfirst, before, after, hrules, hbefore⟩ := List.find?_eq_some_iff_append.mp hfind
      refine List.find?_eq_some_iff_append.mpr ⟨?_, before, after, hrules, fun r hr => ?_⟩
      · simp [Rule.opens, hsecond, hfirst]
      · have hother := hbefore r hr
        rw [Bool.not_eq_true'] at hother
        rw [Rule.opens, hother]
        rfl

/-- A character that is held back is the first of some opener of two. -/
lemma of_begun_held (hc : begun rules c = held h) :
    h = c ∧ ∃ r ∈ rules, r.first = h ∧ r.second.isSome := by
  unfold begun at hc
  split at hc
  · cases hc
  · rename_i r hfind
    split at hc
    · rename_i hsecond
      obtain rfl := held.inj hc
      have hfirst := List.find?_some hfind
      exact ⟨beq_iff_eq.mp hfirst, r, List.mem_of_find?_eq_some hfind, rfl, hsecond⟩
    · cases hc

/-- Behind a character that is held, a construct is opened by the next character. -/
lemma of_opening?_held (hs : Rule.Sound k rules) (hheld : (held h).Known rules)
    {next : Option Char} (hr : Rule.opening? rules h next = some r) :
    r ∈ rules ∧ r.first = h ∧ ∃ c, r.second = some c ∧ next = some c := by
  obtain ⟨r', hr', hfirst', hsecond'⟩ := hheld
  have hmem := List.mem_of_find?_eq_some hr
  have hopens := List.find?_some hr
  simp only [Rule.opens, Bool.and_eq_true, Bool.or_eq_true, beq_iff_eq] at hopens
  obtain ⟨hfirst, hsecond⟩ := hopens
  rw [← hs.alike r hmem r' hr' (hfirst.trans hfirst'.symm)] at hsecond'
  obtain ⟨c, hc⟩ := Option.isSome_iff_exists.mp hsecond'
  refine ⟨hmem, hfirst, c, hc, ?_⟩
  obtain hnone | hnext := hsecond
  · rw [hc] at hnone
    cases hnone
  · rw [← hnext, hc]

/-- A character that is held back is part of no identifier. -/
lemma isIdentChar_of_known (hs : Rule.Sound k rules) (hheld : (held h).Known rules) :
    k.isIdentChar h = false := by
  obtain ⟨r, hr, rfl, hsecond⟩ := hheld
  exact hs.apart r hr hsecond

/-- A run of the held character is marked as it stands. -/
lemma mark_of_fits (hs : Rule.Sound k rules) (hheld : (held h).Known rules)
    (hfits : (held h).Fits segment) : k.mark segment = segment :=
  Overlay.mark_eq_self fun c hc => by
    rw [hfits c hc]
    exact isIdentChar_of_known hs hheld

/-- The held character may stand in front of the segment or behind it. -/
lemma append_eq_cons_of_fits (hfits : (held h).Fits segment) : segment ++ [h] = h :: segment := by
  rw [List.eq_replicate_of_mem hfits, ← List.replicate_succ', List.replicate_succ]

/-- Plain text in front of a character that ends it is written, and the markup of what begins
there. -/
lemma rendered_cons_begun (hs : Rule.Sound k rules) (hc : begun rules c ≠ plain)
    (run rest : List Char) :
    rendered k rules run (c :: rest) =
      k.mark run.reverse ++ (((begun rules c).opening.getD "").toList ++
        (begun rules c).due k rules [] rest) := by
  cases hbegun : begun rules c with
  | plain => exact absurd hbegun hc
  | held h =>
    obtain ⟨rfl, hknown⟩ := of_begun_held hbegun
    rw [rendered_cons_apart (isIdentChar_of_known hs hknown)]
    rfl
  | inside r half =>
    obtain ⟨rfl, -, hsecond, hopening⟩ := of_begun_inside hbegun
    rw [rendered_cons_opened (hopening _), Rule.behind, hsecond]
    rfl

/-! ### Moves -/

/-- A move of a role writes what was due before it, but for what is due behind it. -/
def Pays (k : Overlay) (rules : List Rule) (role : Role) (segment : List Char) (c : Char)
    (rest : List Char) (m : Move) : Prop :=
  role.due k rules segment (c :: rest) =
    (m.processor.close k (segment ++ [c])).written ++ ((m.markup.getD "").toList ++
      m.target.due k rules (m.processor.close k (segment ++ [c])).left rest) ∧
  m.target.Fits (m.processor.close k (segment ++ [c])).left

/-- The empty segment fits every role. -/
lemma fits_nil (role : Role) : role.Fits [] := by
  cases role with
  | held h => exact nofun
  | _ => trivial

/-- In plain text, the move on a character that begins something pays. -/
lemma pays_plain (hs : Rule.Sound k rules) (hc : begun rules c ≠ plain) (segment rest : List Char) :
    Pays k rules plain segment c rest (move rules plain c) := by
  refine ⟨?_, fits_nil _⟩
  rw [due, rendered_cons_begun hs hc, List.reverse_reverse]
  simp [move, Processor.close]

/-- Behind a held character, the move that completes an opener pays. -/
lemma pays_opened (hs : Rule.Sound k rules) (hheld : (held h).Known rules)
    (hfits : (held h).Fits segment) (hr : Rule.opening? rules h (some c) = some r)
    (rest : List Char) :
    Pays k rules (held h) segment c rest
      ⟨inside r false, .dropTrigger, (inside r false).opening⟩ := by
  obtain ⟨-, -, d, hsecond, -⟩ := of_opening?_held hs hheld hr
  refine ⟨?_, trivial⟩
  rw [due, rendered_cons_opened hr, List.reverse_reverse, mark_of_fits hs hheld hfits, Rule.behind,
    hsecond]
  simp [Processor.close, due, opening]

/-- Behind a held character, giving up pays when no opener is complete. -/
lemma pays_giveUp (hs : Rule.Sound k rules) (hheld : (held h).Known rules)
    (hfits : (held h).Fits segment) (hr : Rule.opening? rules h (some c) = none)
    (rest : List Char) :
    Pays k rules (held h) segment c rest (giveUp h (begun rules c)) := by
  have hdue : (held h).due k rules segment (c :: rest) =
      rendered k rules (h :: segment).reverse (c :: rest) := by
    rw [due, rendered_cons_plain hr, ← append_eq_cons_of_fits hfits, List.reverse_append]
    rfl
  have hmark : k.mark (h :: segment) = h :: segment :=
    mark_of_fits hs hheld (List.forall_mem_cons.mpr ⟨rfl, hfits⟩)
  -- the held characters go on as plain text, or are written in front of what `c` begins
  by_cases hc : begun rules c = plain
  · rw [giveUp, if_pos hc]
    refine ⟨?_, trivial⟩
    rw [hdue, rendered_cons_plain (opening?_of_begun_plain hc _)]
    simp [Processor.close, due]
  · rw [giveUp, if_neg hc]
    refine ⟨?_, fits_nil _⟩
    rw [hdue, rendered_cons_begun hs hc]
    simp [Processor.close, hmark]

/-- Inside a construct, the move on any character pays. -/
lemma pays_inside (hs : Rule.Sound k rules) (hr : r ∈ rules) {half : Bool}
    (segment rest : List Char) :
    Pays k rules (inside r half) segment c rest (move rules (inside r half) c) := by
  cases hnext : r.extent.next half c with
  | on half' => simp [Pays, due, move, Fits, ended_cons, hnext, Processor.close]
  | through => simp [Pays, due, move, Fits, ended_cons, hnext, Processor.close]
  | before =>
    -- the character is handed back and begins the plain text behind the construct
    have hplain : rendered k rules [] (c :: rest) = rendered k rules [c] rest :=
      rendered_cons_plain (opening?_of_begun_plain (hs.quiet r hr half c hnext) _)
    simp [Pays, due, move, Fits, ended_cons, hnext, Processor.close, hplain]

/-- A move to another role pays. -/
lemma pays_move (hs : Rule.Sound k rules) (hknown : role.Known rules) (hfits : role.Fits segment)
    (hleave : (move rules role c).target ≠ role) (rest : List Char) :
    Pays k rules role segment c rest (move rules role c) := by
  cases role with
  | plain => exact pays_plain hs hleave segment rest
  | held h =>
    cases hr : Rule.opening? rules h (some c) with
    | some r =>
      simp only [move, hr]
      exact pays_opened hs hknown hfits hr rest
    | none =>
      simp only [move, hr] at hleave ⊢
      split at hleave
      · exact absurd rfl hleave
      · rename_i hc
        rw [if_neg hc]
        exact pays_giveUp hs hknown hfits hr rest
  | inside r half => exact pays_inside hs hknown segment rest

/-- A move to the same role makes the segment longer, and nothing else. -/
lemma due_stay (hfits : role.Fits segment) (hstay : (move rules role c).target = role)
    (rest : List Char) :
    role.due k rules segment (c :: rest) = role.due k rules (segment ++ [c]) rest ∧
      role.Fits (segment ++ [c]) := by
  cases role with
  | plain =>
    refine ⟨?_, trivial⟩
    rw [due, due, rendered_cons_plain (opening?_of_begun_plain hstay _), List.reverse_append]
    rfl
  | held h =>
    cases hr : Rule.opening? rules h (some c) with
    | some r =>
      simp only [move, hr] at hstay
      exact nomatch hstay
    | none =>
      simp only [move, hr] at hstay
      split at hstay
      -- the same character again: one more is held, and the one before is plain text
      · rename_i hc
        subst hc
        refine ⟨?_, fun d hd => (List.mem_append.mp hd).elim (hfits d) List.mem_singleton.mp⟩
        rw [due, due, rendered_cons_plain hr, List.reverse_append]
        rfl
      · rename_i hc
        rw [target_giveUp] at hstay
        exact absurd (of_begun_held hstay).1.symm hc
  | inside r half =>
    refine ⟨?_, trivial⟩
    cases hnext : r.extent.next half c with
    | on half' =>
      simp only [move, hnext] at hstay
      obtain rfl := (inside.inj hstay).2
      simp [due, ended_cons, hnext]
    | through =>
      simp only [move, hnext] at hstay
      exact nomatch hstay
    | before =>
      simp only [move, hnext] at hstay
      exact nomatch hstay

/-! ### The end of the text -/

/-- At the end of plain text its words are marked. -/
lemma due_plain_nil (segment : List Char) : plain.due k rules segment [] = k.mark segment := by
  rw [due, rendered_nil, List.reverse_reverse]

/-- At the end of the text a held character is plain text. -/
lemma due_held_nil (hs : Rule.Sound k rules) (hheld : (held h).Known rules)
    (hfits : (held h).Fits segment) : (held h).due k rules segment [] = k.mark (h :: segment) := by
  have hr : Rule.opening? rules h none = none := by
    cases hr : Rule.opening? rules h none with
    | none => rfl
    | some r =>
      obtain ⟨-, -, c, -, hnext⟩ := of_opening?_held hs hheld hr
      exact nomatch hnext
  rw [due, rendered_cons_plain hr, rendered_nil, List.reverse_cons, List.reverse_reverse,
    append_eq_cons_of_fits hfits]

/-- At the end of the text an open construct is closed. -/
lemma due_inside_nil (r : Rule) (half : Bool) (segment : List Char) :
    (inside r half).due k rules segment [] = segment ++ Span.close.toList := by
  rw [due, ended_nil]

end Role
end Highlighter
