import Highlighter.Proofs.Grammar.Derivation
import Highlighter.Proofs.Keyword.WholeWords
import Highlighter.Proofs.Scan.Step

/-!
# Seamless grammars

The scanner cuts the text into segments and hands some of them to the overlay. A grammar is seamless
(`Ledger.Seamless`) if it never cuts a word that way: where a segment is marked, it ends in front of a
character that is part of no identifier, and where the initial state begins, no known word can begin
inside an identifier. All of this is read off the tables, so that it can be decided
(`seamless_of_check`), and once for all overlays that are cut as cleanly (`Seamless.withOverlay`).
-/

namespace Highlighter

/-- The character is a key and part of no identifier. -/
def Overlay.separates (k : Overlay) (c : Char) : Bool := c.toNat < 128 && !k.isIdentChar c

/-- Where `k` is cut cleanly, `k'` is: it has no other identifier characters and no other classes, and
its words begin with ASCII characters. -/
def Overlay.Covers (k k' : Overlay) : Prop :=
  (∀ c ∈ k'.extraIdentChars.toList, c ∈ k.extraIdentChars.toList) ∧
    (∀ s' ∈ k'.sets, ∃ s ∈ k.sets, s.className = s'.className) ∧ k'.beginsAscii

instance (k k' : Overlay) : Decidable (k.Covers k') :=
  decidable_of_iff
    (k'.extraIdentChars.toList.all (k.extraIdentChars.toList.contains ·) &&
      (k'.sets.all fun s' => k.sets.any (·.className == s'.className)) && k'.beginsAscii)
    (by simp [Overlay.Covers, and_assoc])

namespace Processor

/-- The processor cuts no word when `s` is left for `t` on `trigger`, or on any character if there is
none. What it marks begins where a word may begin and ends in front of a separator; so does the segment
that it leaves to the initial state, which may also begin with a character that begins no known word. -/
def cutsCleanly (k : Overlay) (initial s t : State) (trigger : Option Char) : Processor → Bool
  | keywords | trimTrigger => s == initial && trigger.any k.separates
  | putbackTrim held => held.toList.head?.any k.separates && trigger.any k.separates
  | putback held => t != initial || held.toList.head?.any k.separates
  | carryTrigger =>
    t != initial || trigger.any fun c => k.separates c || (128 ≤ c.toNat && k.beginsAscii)
  | _ => t != initial || trigger.any k.separates

/-- The processor cuts no word when the text ends in `s`. -/
def flushesCleanly (k : Overlay) (initial s : State) : Processor → Bool
  | keywords | trimTrigger => s == initial
  | putback held | putbackTrim held => held.toList.head?.any k.separates
  | _ => true

end Processor

section Processor

variable {k k' : Overlay} {initial s t : State} {c : Char} {p : Processor}
  {before text segment left after : List Char}

namespace Overlay

/-- A separator is part of no identifier. -/
lemma isIdentChar_of_separates (h : k.separates c) : k.isIdentChar c = false := by
  simp only [separates, Bool.and_eq_true, Bool.not_eq_true'] at h
  exact h.2

/-- A character beyond ASCII is no separator. -/
lemma separates_of_wide (hc : 128 ≤ c.toNat) : k.separates c = false := by
  simp [separates, Nat.not_lt.mpr hc]

/-- A separator of the covering overlay separates in the covered one. -/
lemma Covers.separates (h : k.Covers k') (hc : k.separates c) : k'.separates c := by
  simp only [Overlay.separates, isIdentChar, Bool.and_eq_true, Bool.not_eq_true',
    Bool.or_eq_false_iff, List.contains_eq_mem, decide_eq_false_iff_not] at hc ⊢
  exact ⟨hc.1, hc.2.1, fun hextra => hc.2.2 (h.1 c hextra)⟩

/-- The classes of the covered overlay are classes of the covering one. -/
lemma Covers.hasClass {className : String} (h : k.Covers k') (hclass : k'.HasClass className) :
    k.HasClass className := by
  obtain ⟨s', hs', rfl⟩ := hclass
  exact h.2.1 s' hs'

/-- A separator that may be missing separates in the covered overlay, too. -/
lemma Covers.any_separates (h : k.Covers k') {o : Option Char} (ho : o.any k.separates) :
    o.any k'.separates := by
  cases o with
  | none => exact ho
  | some c => exact h.separates ho

/-- Held text that begins with a separator begins nothing but new words. -/
lemma fresh_held {held : String} (h : held.toList.head?.any k.separates) (before after : List Char) :
    k.Fresh before (held.toList ++ after) := by
  cases hheld : held.toList with
  | nil => exact absurd h (by simp [hheld])
  | cons d rest =>
    rw [hheld] at h
    exact fresh_of_head? (by simpa using isIdentChar_of_separates h) before

/-- A separator may go to the text before it or to the text behind it. -/
lemma fresh_of_separates (hc : k.separates c) (hleft : left = [] ∨ left = [c])
    (htext : before ++ left = text ++ [c]) (after : List Char) : k.Fresh before (left ++ after) := by
  have hident := isIdentChar_of_separates hc
  rcases hleft with rfl | rfl
  · rw [List.append_nil] at htext
    subst htext
    exact fresh_of_getLast? (by simpa using hident) _
  · exact fresh_of_head? (by simpa using hident) _

end Overlay

namespace Processor

/-- All characters beyond ASCII are cut alike. -/
lemma cutsCleanly_of_wide {d : Char} (hc : 128 ≤ c.toNat) (hd : 128 ≤ d.toNat) :
    p.cutsCleanly k initial s t (some c) = p.cutsCleanly k initial s t (some d) := by
  cases p <;>
    simp only [cutsCleanly, Option.any_some, Overlay.separates_of_wide hc,
      Overlay.separates_of_wide hd, hc, hd]

/-- What is cut cleanly on any character is cut cleanly on each. -/
lemma cutsCleanly_of_none (h : p.cutsCleanly k initial s t none) (c : Char) :
    p.cutsCleanly k initial s t (some c) := by
  cases p with
  | keywords | trimTrigger | putbackTrim =>
    rw [cutsCleanly, Option.any_none, Bool.and_false] at h
    exact absurd h Bool.false_ne_true
  | putback held => exact h
  | _ =>
    simp only [cutsCleanly, Option.any_none, Bool.or_false] at h
    simp only [cutsCleanly, h, Bool.true_or]

/-- A processor that cuts no word of the covering overlay cuts none of the covered one. -/
lemma cutsCleanly_of_covers (h : k.Covers k') (hcut : p.cutsCleanly k initial s t (some c)) :
    p.cutsCleanly k' initial s t (some c) := by
  cases p with
  | keywords | trimTrigger =>
    rw [cutsCleanly, Bool.and_eq_true] at hcut ⊢
    exact hcut.imp_right h.any_separates
  | putbackTrim held =>
    rw [cutsCleanly, Bool.and_eq_true] at hcut ⊢
    exact hcut.imp h.any_separates h.any_separates
  | putback held =>
    rw [cutsCleanly, Bool.or_eq_true] at hcut ⊢
    exact hcut.imp_right h.any_separates
  | carryTrigger =>
    simp only [cutsCleanly, Option.any_some, Bool.or_eq_true, Bool.and_eq_true] at hcut ⊢
    exact hcut.imp_right (Or.imp h.separates (And.imp_right fun _ => h.2.2))
  | raw | escape | dropTrigger | escapeTrimTrigger | escapeCarry | discard =>
    simp only [cutsCleanly, Bool.or_eq_true] at hcut ⊢
    exact hcut.imp_right h.any_separates

/-- A processor that cuts no word of the covering overlay at the end of the text cuts none of the
covered one. -/
lemma flushesCleanly_of_covers (h : k.Covers k') (hcut : p.flushesCleanly k initial s) :
    p.flushesCleanly k' initial s := by
  cases p with
  | putback held | putbackTrim held => exact h.any_separates hcut
  | _ => exact hcut

/-- What a processor leaves to the initial state begins no known word inside an identifier. -/
lemma fresh_left (h : p.cutsCleanly k initial s initial (some c))
    (htext : before ++ (p.close k (segment ++ [c])).left = text ++ [c]) (after : List Char) :
    k.Fresh before ((p.close k (segment ++ [c])).left ++ after) := by
  cases p with
  | putback held =>
    simp only [cutsCleanly, bne_self_eq_false, Bool.false_or] at h
    rw [close, List.append_assoc]
    exact Overlay.fresh_held h _ _
  | carryTrigger =>
    simp only [cutsCleanly, bne_self_eq_false, Bool.false_or, Option.any_some, Bool.or_eq_true,
      Bool.and_eq_true, decide_eq_true_eq] at h
    have hleft : (carryTrigger.close k (segment ++ [c])).left = [c] := by simp [close]
    rcases h with hc | ⟨hwide, hascii⟩
    · exact Overlay.fresh_of_separates hc (.inr hleft) htext _
    -- a character beyond ASCII may be part of an identifier, but no known word begins with it
    · rw [hleft]
      rintro d - e he
      obtain rfl : c = e := by simpa using he
      exact .inr (.inr fun word => Overlay.classify_of_wide hascii hwide word)
  | escapeCarry chars =>
    simp only [cutsCleanly, bne_self_eq_false, Bool.false_or] at h
    refine Overlay.fresh_of_separates h ?_ htext _
    by_cases hmem : c ∈ chars.toList
    · exact .inr (by simp [close, Option.filter, hmem])
    · exact .inl (by simp [close, Option.filter, hmem])
  | keywords | trimTrigger | putbackTrim =>
    rw [cutsCleanly, Bool.and_eq_true] at h
    exact Overlay.fresh_of_separates h.2 (.inl rfl) htext _
  | raw | escape | dropTrigger | escapeTrimTrigger | discard =>
    simp only [cutsCleanly, bne_self_eq_false, Bool.false_or] at h
    exact Overlay.fresh_of_separates h (.inl rfl) htext _

end Processor

end Processor

namespace Ledger

/-- The markup opens no span that has a class of the overlay. -/
def opensNone (l : Ledger) (k : Overlay) (markup : Option String) : Bool :=
  markup.all fun m => (l.page (some m)).tags.all fun
    | .opening className => !k.sets.any (·.className == className)
    | .closing => true

/-- No word is cut when the state `s` is left for `t`. -/
def passesCleanly (g : Grammar) (s t : State) (trigger : Option Char) : Bool :=
  t == s || (g.processor s t).cutsCleanly g.keywords g.initial s t trigger

/-- The grammar cuts no word in the states that have a wildcard, and its markup opens no span that looks
like one of a word. -/
structure Seamless (l : Ledger) (g : Grammar) : Prop where
  leaves : ∀ s, (g.transitions.wildcard s).isSome → ∀ c, passesCleanly g s (g.next s c) (some c)
  finishes : ∀ s, (g.transitions.wildcard s).isSome →
    (g.processor s g.initial).flushesCleanly g.keywords g.initial s
  edges : ∀ s t, l.opensNone g.keywords (g.edge s t)
  closings : ∀ s, l.opensNone g.keywords (closing g s)

/-- The transitions of a state with the wildcard `t` cut no word. The wildcard takes any character, or it
has to be looked at for each character without an entry. -/
def passesAllCleanly (g : Grammar) (s t : State) : Bool :=
  (Key.all.all fun k => (g.transitions.explicit s k).all (passesCleanly g s · (some k.toChar))) &&
    (passesCleanly g s t none ||
      passesCleanly g s t (some wideChar) && Key.all.all fun k =>
        (g.transitions.explicit s k).isSome || passesCleanly g s t (some k.toChar))

/-- Whether the grammar is seamless, found out state by state and key by key. -/
def isSeamless (l : Ledger) (g : Grammar) : Bool :=
  State.all.all fun s =>
    ((g.transitions.wildcard s).all fun t =>
      (g.processor s g.initial).flushesCleanly g.keywords g.initial s && passesAllCleanly g s t) &&
    (State.all.all fun t => l.opensNone g.keywords (g.edge s t)) &&
    l.opensNone g.keywords (closing g s)

variable {l : Ledger} {g : Grammar}

/-- All characters beyond ASCII are passed alike. -/
lemma passesCleanly_of_wide {s t : State} {c d : Char} (hc : 128 ≤ c.toNat) (hd : 128 ≤ d.toNat) :
    passesCleanly g s t (some c) = passesCleanly g s t (some d) := by
  rw [passesCleanly, passesCleanly, Processor.cutsCleanly_of_wide hc hd]

/-- What is passed cleanly on any character is passed so on each. -/
lemma passesCleanly_of_none {s t : State} (h : passesCleanly g s t none) (c : Char) :
    passesCleanly g s t (some c) := by
  rw [passesCleanly, Bool.or_eq_true] at h ⊢
  exact h.imp_right (Processor.cutsCleanly_of_none · c)

/-- The check of the wildcard and the entries covers whatever comes next. -/
lemma passesCleanly_next {s t : State} (ht : g.transitions.wildcard s = some t)
    (h : passesAllCleanly g s t) (c : Char) : passesCleanly g s (g.next s c) (some c) := by
  simp only [passesAllCleanly, Bool.and_eq_true, Bool.or_eq_true, List.all_eq_true, Key.mem_all,
    forall_const] at h
  obtain ⟨hexplicit, hwildcard⟩ := h
  cases hentry : g.transitions.entry? s c with
  | some u =>
    obtain ⟨k, rfl, hu⟩ := Transitions.entry?_eq_some.mp hentry
    rw [Grammar.next_of_entry hentry]
    have hk := hexplicit k
    rwa [hu] at hk
  | none =>
    have hnext : g.next s c = t := by simp [Grammar.next, Transitions.next?, hentry, ht]
    rw [hnext]
    -- the wildcard was checked for any character, or for one beyond ASCII and each key on its own
    rcases hwildcard with hany | ⟨hwide, hkeys⟩
    · exact passesCleanly_of_none hany c
    · by_cases hc : c.toNat < 128
      · have hkey : Key.toChar ⟨c.toNat, hc⟩ = c := Char.ofNat_toNat c
        rcases hkeys ⟨c.toNat, hc⟩ with hsome | hpass
        · obtain ⟨u, hu⟩ := Option.isSome_iff_exists.mp hsome
          rw [Transitions.entry?_eq_some.mpr ⟨_, hkey, hu⟩] at hentry
          exact absurd hentry (Option.some_ne_none u)
        · rwa [hkey] at hpass
      · rwa [passesCleanly_of_wide (Nat.not_lt.mp hc) (by decide : 128 ≤ wideChar.toNat)]

/-- A grammar that passes the check is seamless. -/
lemma seamless_of_check (h : l.isSeamless g) : l.Seamless g := by
  simp only [isSeamless, List.all_eq_true, State.mem_all, forall_const, Bool.and_eq_true] at h
  have hstate : ∀ s t, g.transitions.wildcard s = some t →
      (g.processor s g.initial).flushesCleanly g.keywords g.initial s ∧ passesAllCleanly g s t := by
    intro s t ht
    have hs := (h s).1.1
    rwa [ht, Option.all_some, Bool.and_eq_true] at hs
  refine ⟨fun s hs c => ?_, fun s hs => ?_, fun s => (h s).1.2, fun s => (h s).2⟩
  · obtain ⟨t, ht⟩ := Option.isSome_iff_exists.mp hs
    exact passesCleanly_next ht (hstate s t ht).2 c
  · obtain ⟨t, ht⟩ := Option.isSome_iff_exists.mp hs
    exact (hstate s t ht).1

/-- Missing markup has no pieces. -/
lemma page_none : l.page none = [] := by
  unfold page
  split <;> rfl

/-- The check of markup looks at each of the spans that it opens. -/
lemma opensNone_iff {k : Overlay} {markup : Option String} :
    l.opensNone k markup ↔
      ∀ className, .opening className ∈ (l.page markup).tags → ¬ k.HasClass className := by
  cases markup with
  | none => simp [opensNone, page_none, Page.tags]
  | some m =>
    simp only [opensNone, Option.all_some, List.all_eq_true, Overlay.HasClass]
    constructor
    · intro h className hmem
      simpa using h _ hmem
    · intro h tag hmem
      cases tag with
      | opening className => simpa using h className hmem
      | closing => rfl

/-- Markup that opens no span of the covering overlay opens none of the covered one. -/
lemma opensNone_of_covers {k k' : Overlay} (h : k.Covers k') {markup : Option String}
    (hnone : l.opensNone k markup) : l.opensNone k' markup :=
  opensNone_iff.mpr fun className hmem hclass =>
    opensNone_iff.mp hnone className hmem (h.hasClass hclass)

/-- Being seamless does not hang on the name. -/
lemma Seamless.withName (h : l.Seamless g) (name : String) : l.Seamless { g with name := name } :=
  ⟨h.leaves, h.finishes, h.edges, h.closings⟩

/-- The overlay can be exchanged, as long as the old overlay covers the new one. -/
lemma Seamless.withOverlay (h : l.Seamless g) {k : Overlay} (hk : g.keywords.Covers k) :
    l.Seamless { g with keywords := k } where
  leaves s hs c := by
    have hleaves := h.leaves s hs c
    rw [passesCleanly, Bool.or_eq_true] at hleaves ⊢
    exact hleaves.imp_right (Processor.cutsCleanly_of_covers hk)
  finishes s hs := Processor.flushesCleanly_of_covers hk (h.finishes s hs)
  edges s t := opensNone_of_covers hk (h.edges s t)
  closings s := opensNone_of_covers hk (h.closings s)

end Ledger
end Highlighter
