import Highlighter.Proofs.Lexeme.Rendering
import Highlighter.Proofs.Markup.Unwrapping

/-!
# Lexemes as a page

The pieces that lexemes are written in: a plain stretch as the page of its marked words, a construct
inside a span. Without the spans of the words, the page no longer depends on which words there are
(`unwrap_page`); and a rule plays no part in a text in which its opener is not found
(`ofText_cons_of_not_infix`).
-/

namespace Highlighter

namespace Lexeme

variable {k : Overlay} {classes : List String} {allows : List String → String → Bool}
  {lexemes : List Lexeme} {rules : List Rule} {r : Rule} {cs : List Char}

/-- The page of a lexeme. -/
def piece (k : Overlay) : Lexeme → Page
  | plain text => k.page text
  | construct className text => Page.span className (Page.text text)

/-- The page of some lexemes. -/
def page (k : Overlay) (lexemes : List Lexeme) : Page := lexemes.flatMap (piece k)

/-- The page of a lexeme is spelled as the lexeme is written. -/
lemma spell_piece (lexeme : Lexeme) : (lexeme.piece k).spell Page.plain = lexeme.write k := by
  cases lexeme with
  | plain text => exact Overlay.spell_page text
  | construct className text =>
    simp [piece, write, Page.span, Page.spell, Tag.spell, Span.wrap]

/-- The page of a lexeme has its text. -/
lemma content_piece (lexeme : Lexeme) : (lexeme.piece k).content = lexeme.text := by
  cases lexeme with
  | plain text => exact Overlay.content_page text
  | construct className text => simp [piece, Lexeme.text, Page.span, Page.content]

/-- The page of lexemes is written as they are rendered. -/
lemma spell_page (lexemes : List Lexeme) :
    (page k lexemes).spell Page.plain = render k lexemes := by
  induction lexemes with
  | nil => rfl
  | cons lexeme lexemes ih =>
    rw [page, List.flatMap_cons, Page.spell_append, spell_piece, ← page, ih]
    rfl

/-- The page of some lexemes has their texts. -/
lemma content_page (lexemes : List Lexeme) : (page k lexemes).content = lexemes.flatMap text := by
  induction lexemes with
  | nil => rfl
  | cons lexeme lexemes ih =>
    rw [page, List.flatMap_cons, Page.content_append, content_piece, ← page, ih]
    rfl

/-- The class of the span around a lexeme, if there is one. -/
def className? : Lexeme → Option String
  | plain _ => none
  | construct className _ => some className

/-- The page of a lexeme closes what it opens. -/
lemma nest_piece (hk : ∀ s ∈ k.sets, allows [] s.className) {lexeme : Lexeme}
    (h : ∀ c ∈ lexeme.className?, allows [] c) : (lexeme.piece k).nest allows [] = some [] := by
  cases lexeme with
  | plain text => exact Overlay.nest_page hk text
  | construct className text =>
    rw [piece, Page.span, List.cons_append, Page.nest, if_pos (h className rfl), Page.nest_append,
      Page.nest_text]
    rfl

/-- The page of some lexemes closes what it opens. -/
lemma nest_page (hk : ∀ s ∈ k.sets, allows [] s.className)
    (h : ∀ lexeme ∈ lexemes, ∀ c ∈ lexeme.className?, allows [] c) :
    (page k lexemes).nest allows [] = some [] := by
  induction lexemes with
  | nil => rfl
  | cons lexeme lexemes ih =>
    rw [List.forall_mem_cons] at h
    rw [page, List.flatMap_cons, Page.nest_append, nest_piece hk h.1]
    exact ih h.2

/-- A plain stretch is unwrapped to its text, and a construct stays in its span. -/
lemma unwrap_piece (hk : ∀ s ∈ k.sets, s.className ∈ classes) {lexeme : Lexeme}
    (h : ∀ c ∈ lexeme.className?, c ∉ classes) :
    (lexeme.piece k).unwrap classes = lexeme.piece .empty := by
  cases lexeme with
  | plain text => exact Overlay.unwrap_page hk text
  | construct className text => exact (Page.unwrap_span text).trans (if_neg (h className rfl))

/-- Without the spans of the words, the page is that of an overlay without words. -/
theorem unwrap_page (hk : ∀ s ∈ k.sets, s.className ∈ classes)
    (h : ∀ lexeme ∈ lexemes, ∀ c ∈ lexeme.className?, c ∉ classes) :
    (page k lexemes).unwrap classes = page .empty lexemes := by
  induction lexemes with
  | nil => rfl
  | cons lexeme lexemes ih =>
    rw [List.forall_mem_cons] at h
    have hnest : (lexeme.piece k).nest (fun _ _ => true) [] = some [] :=
      nest_piece (fun _ _ => rfl) fun _ _ => rfl
    have hrest : Page.unwrap classes (lexemes.flatMap (piece k)) = page .empty lexemes := ih h.2
    rw [page, List.flatMap_cons, Page.unwrap_append hnest, unwrap_piece hk h.1, hrest]
    rfl

/-- There is no span around a run of plain characters. -/
lemma className?_of_mem_ofRun {run : List Char} {lexeme : Lexeme} (h : lexeme ∈ ofRun run) :
    lexeme.className? = none := by
  unfold ofRun at h
  split at h
  · cases h
  · rw [List.mem_singleton.mp h]
    rfl

/-- The constructs of a text have the classes of the rules. -/
lemma exists_rule_of_mem_lexFrom {run : List Char} {lexeme : Lexeme}
    (h : lexeme ∈ lexFrom rules run cs) :
    ∀ c ∈ lexeme.className?, ∃ r ∈ rules, r.className = c := by
  induction run, cs using lexFrom.induct rules with
  | case1 run =>
    rw [lexFrom] at h
    rw [className?_of_mem_ofRun h]
    rintro c ⟨⟩
  | case2 run c rest hr ih =>
    rw [lexFrom, hr] at h
    exact ih h
  | case3 run c rest r hr ih =>
    rw [lexFrom, hr] at h
    rcases List.mem_append.mp h with h | h
    · rw [className?_of_mem_ofRun h]
      rintro c ⟨⟩
    rcases List.mem_cons.mp h with rfl | h
    · intro c hc
      exact ⟨r, List.mem_of_find?_eq_some hr, Option.mem_some.mp hc⟩
    · exact ih h

/-- A rule whose opener is not there is passed over. -/
lemma opening?_cons_of_not_opened {c : Char} {rest : List Char} (h : ¬ r.opener <+: c :: rest) :
    Rule.opening? (r :: rules) c rest.head? = Rule.opening? rules c rest.head? := by
  refine List.find?_cons_of_neg fun hopens => h ?_
  have hr : Rule.opening? [r] c rest.head? = some r := List.find?_cons_of_pos hopens
  rw [← Rule.opener_append_behind hr]
  exact List.prefix_append _ _

/-- The text behind a construct is a part of the text that it opens in. -/
lemma split_suffix (r : Rule) (c : Char) (rest : List Char) : (r.split rest).2 <:+ c :: rest := by
  have hsplit : (r.split rest).2 <:+ r.behind rest := ⟨_, r.extent.split_append _⟩
  have hbehind : r.behind rest <:+ rest := List.drop_suffix _ _
  exact (hsplit.trans hbehind).trans (List.suffix_cons c rest)

/-- A rule whose opener is nowhere in the text makes no lexeme. -/
lemma lexFrom_cons_of_not_infix {run : List Char} (h : ¬ r.opener <:+: cs) :
    lexFrom (r :: rules) run cs = lexFrom rules run cs := by
  induction run, cs using lexFrom.induct rules with
  | case1 run => rw [lexFrom, lexFrom]
  | case2 run c rest hr ih =>
    have hnone := (opening?_cons_of_not_opened fun hp => h hp.isInfix).trans hr
    rw [lexFrom, lexFrom, hnone, hr]
    exact ih fun hi => h (hi.trans (List.suffix_cons c rest).isInfix)
  | case3 run c rest r' hr ih =>
    have hsome := (opening?_cons_of_not_opened fun hp => h hp.isInfix).trans hr
    rw [lexFrom, lexFrom, hsome, hr]
    dsimp only
    rw [ih fun hi => h (hi.trans (split_suffix r' c rest).isInfix)]

/-- A rule plays no part in a text in which its opener is not found. -/
theorem ofText_cons_of_not_infix (h : ¬ r.opener <:+: cs) :
    ofText (r :: rules) cs = ofText rules cs :=
  lexFrom_cons_of_not_infix h

end Lexeme
end Highlighter
