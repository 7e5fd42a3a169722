import Highlighter.Proofs.Lexeme.Roles
import Highlighter.Proofs.Scan.Step

/-!
# Grammars that follow rules

A grammar follows the rules of a language if its states have roles and do on each character what their
role has to do (`Follows`). One character keeps the balance between what is written and what is due
(`Follows.read`), so a text does (`Follows.finish_readAll`). Main statement:
`Follows.highlight_eq_render`, a grammar that follows rules writes the lexemes of every text.
-/

namespace Highlighter

open Lexeme

/-- The roles of the states that a language uses. -/
abbrev Roles := State → Option Role

/-- The tables make the move of a role when they take `s` to `t`. -/
def Move.Made (g : Grammar) (roles : Roles) (role : Role) (s t : State) (m : Move) : Prop :=
  if m.target = role then t = s
  else roles t = some m.target ∧ g.processor s t = m.processor ∧ g.edge s t = m.markup

/-- What the state does at the end of the text suits its role. -/
def Role.Finishes (g : Grammar) (s : State) : Role → Prop
  | plain => s = g.initial ∧ g.processor s g.initial = .keywords
  | held h => s ≠ g.initial ∧ g.processor s g.initial = .putback (String.singleton h) ∧
    g.closure s = none
  | inside _ _ => s ≠ g.initial ∧ g.closure s = some Span.close ∧
    (g.processor s g.initial = .raw ∨ g.processor s g.initial = .carryTrigger)

/-- The grammar does what the rules of a language demand. -/
structure Follows (g : Grammar) (rules : List Rule) (roles : Roles) : Prop where
  sound : Rule.Sound g.keywords rules
  initial : roles g.initial = some .plain
  known : ∀ s role, roles s = some role → role.Known rules
  moves : ∀ s role, roles s = some role → ∀ c,
    (role.move rules c).Made g roles role s (g.next s c)
  finishes : ∀ s role, roles s = some role → role.Finishes g s

namespace Follows

variable {g : Grammar} {rules : List Rule} {roles : Roles} {role : Role} {s : Scan}

/-- One character is read as the role demands, and what was due before is written or still due. -/
lemma read (h : Follows g rules roles) (hrole : roles s.state = some role)
    (hfits : role.Fits s.segment) (c : Char) (rest : List Char) :
    ∃ role', roles (s.read g c).state = some role' ∧ role'.Fits (s.read g c).segment ∧
      (s.read g c).written.toList ++ role'.due g.keywords rules (s.read g c).segment rest =
        s.written.toList ++ role.due g.keywords rules s.segment (c :: rest) := by
  have hmade := h.moves s.state role hrole c
  unfold Move.Made at hmade
  -- the role stays and the segment grows, or the segment ends and the move pays for it
  split at hmade
  · rename_i hstay
    obtain ⟨hdue, hfits'⟩ := Role.due_stay (k := g.keywords) hfits hstay rest
    rw [Scan.read_of_stay hmade, Scan.segment_push]
    exact ⟨role, hrole, hfits', by rw [hdue]⟩
  · rename_i hleave
    obtain ⟨htarget, hprocessor, hmarkup⟩ := hmade
    obtain ⟨hdue, hfits'⟩ := Role.pays_move h.sound (h.known _ _ hrole) hfits hleave rest
    have hne : g.next s.state c ≠ s.state := fun heq => by
      rw [heq, hrole] at htarget
      exact hleave (Option.some.inj htarget).symm
    rw [Scan.read_of_leave rfl hne, hprocessor, hmarkup]
    refine ⟨_, htarget, ?_, ?_⟩
    · simpa [Scan.segment] using hfits'
    · rw [hdue]
      simp [Scan.segment]

/-- At the end of the text, what is due is written. -/
lemma finish (h : Follows g rules roles) (hrole : roles s.state = some role)
    (hfits : role.Fits s.segment) :
    (s.finish g).toList = s.written.toList ++ role.due g.keywords rules s.segment [] := by
  have hfinishes := h.finishes s.state role hrole
  have hknown := h.known s.state role hrole
  cases role with
  | plain =>
    obtain ⟨hinitial, hprocessor⟩ := hfinishes
    rw [hinitial] at hprocessor
    rw [Role.due_plain_nil]
    simp [Scan.finish, hprocessor, hinitial, Processor.flush]
  | held h' =>
    obtain ⟨hinitial, hprocessor, hclosure⟩ := hfinishes
    rw [Role.due_held_nil h.sound hknown hfits]
    simp [Scan.finish, hprocessor, hinitial, hclosure, Processor.flush]
  | inside r half =>
    obtain ⟨hinitial, hclosure, hprocessor⟩ := hfinishes
    rw [Role.due_inside_nil]
    obtain hprocessor | hprocessor := hprocessor
    · simp [Scan.finish, hprocessor, hinitial, hclosure, Processor.flush]
    · simp [Scan.finish, hprocessor, hinitial, hclosure, Processor.flush]

/-- The scanner writes what was due in its role. -/
lemma finish_readAll (h : Follows g rules roles) (hrole : roles s.state = some role)
    (hfits : role.Fits s.segment) (text : List Char) :
    ((s.readAll g text).finish g).toList =
      s.written.toList ++ role.due g.keywords rules s.segment text := by
  induction text generalizing s role with
  | nil => exact h.finish hrole hfits
  | cons c rest ih =>
    obtain ⟨role', hrole', hfits', hdue⟩ := h.read hrole hfits c rest
    rw [← hdue]
    exact ih hrole' hfits'

/-- A grammar that follows the rules of a language writes the lexemes of every text. -/
theorem highlight_eq_render (h : Follows g rules roles) (text : String) :
    g.highlight text = String.ofList (render g.keywords (ofText rules text.toList)) := by
  have hrun := h.finish_readAll (s := Scan.start g) h.initial trivial text.toList
  rw [Grammar.highlight, ← String.ofList_toList (s := Scan.finish _ _)]
  exact congrArg String.ofList hrun

end Follows

end Highlighter
