import Highlighter.Proofs.Language.Content

/-!
# The spans of highlighted texts

In programming languages the tags of a highlighted text alternate, so that no span opens inside
another one. In the markup language attribute values nest in tags, and a highlighted text can be put
into a page as it is.
-/

namespace Highlighter

/-- Each opening tag is closed by the next tag. -/
inductive Alternating : List Tag → Prop
  | nil : Alternating []
  | span (className : String) {tags : List Tag} :
    Alternating tags → Alternating (.opening className :: .closing :: tags)

/-- The tags in front of an opening tag alternate themselves, so that no span is open there. -/
lemma Alternating.of_append_opening {before after : List Tag} {className : String}
    (h : Alternating (before ++ .opening className :: after)) : Alternating before := by
  generalize heq : before ++ .opening className :: after = tags at h
  induction h generalizing before with
  | nil => exact absurd heq (by simp)
  | span inner h ih =>
    cases before with
    | nil => exact .nil
    | cons t before =>
      rw [List.cons_append] at heq
      obtain ⟨rfl, hrest⟩ := List.cons.inj heq
      cases before with
      | nil => exact absurd hrest (by simp)
      | cons t before =>
        rw [List.cons_append] at hrest
        obtain ⟨rfl, hrest'⟩ := List.cons.inj hrest
        exact .span inner (ih hrest')

namespace Page

variable {allows : List String → String → Bool} {p : Page}

/-- Where spans open only if none is open, the tags of a page that closes its spans alternate. -/
lemma alternating_of_nest (hallows : ∀ opened c, allows opened c → opened = [])
    (h : nest allows [] p = some []) : Alternating (tags p) := by
  -- inside a span, the next tag has to close it
  suffices hp : (nest allows [] p = some [] → Alternating (tags p)) ∧
      ∀ c, nest allows [c] p = some [] → ∃ ts, tags p = .closing :: ts ∧ Alternating ts from hp.1 h
  clear h
  induction p with
  | nil => exact ⟨fun _ => .nil, fun c h => absurd h (by simp [nest])⟩
  | cons x p ih =>
    cases x with
    | char c => exact ih
    | tag t =>
      cases t with
      | opening className =>
        refine ⟨fun h => ?_, fun c h => ?_⟩
        · rw [nest] at h
          split at h
          · obtain ⟨ts, hts, halt⟩ := ih.2 className h
            rw [tags, hts]
            exact .span className halt
          · exact absurd h (by simp)
        · rw [nest] at h
          split at h
          · rename_i hopen
            exact absurd (hallows _ _ hopen) (by simp)
          · exact absurd h (by simp)
      | closing => exact ⟨fun h => absurd h (by simp [nest]), fun c h => ⟨tags p, rfl, ih.1 h⟩⟩

end Page

namespace Language

open Strip Registry

/-- The tags of a highlighted text that spelled none alternate, and so they do in front of every
span. -/
theorem alternating_tags_highlight {l : Language} (hl : l ≠ xml) {text : String}
    (htext : SpellsNoTag text.toList) :
    Alternating (read (builtin.highlight text l.name).toList).tags ∧
      ∀ before className after, read (builtin.highlight text l.name).toList
        = before ++ .tag (.opening className) :: after → Alternating (Page.tags before) := by
  have halt : Alternating (read (builtin.highlight text l.name).toList).tags := by
    refine Page.alternating_of_nest (fun opened c h => ?_) (read_code hl htext).2
    simp only [Ledger.code, Bool.and_eq_true, List.isEmpty_iff] at h
    exact h.1
  refine ⟨halt, fun before className after hread => ?_⟩
  rw [hread, Page.tags_append] at halt
  exact halt.of_append_opening

/-- A keyword in front of a symbol and a character literal that breaks off. -/
theorem alternating_tags_highlight_unfinished :
    scheme ≠ xml ∧ SpellsNoTag "(define 'if\"</ \\\" if\" #\\".toList ∧
      Alternating
        (read (builtin.highlight "(define 'if\"</ \\\" if\" #\\" scheme.name).toList).tags ∧
      ∀ before className after,
        read (builtin.highlight "(define 'if\"</ \\\" if\" #\\" scheme.name).toList
          = before ++ .tag (.opening className) :: after → Alternating (Page.tags before) :=
  ⟨by decide, by decide +kernel, alternating_tags_highlight (by decide) (by decide +kernel)⟩

/-- Highlighted markup can be put into a page as it is. Outside its tags stands the escaped text,
which has no angle brackets; the spans are closed and open only where they are allowed; and each
ampersand starts an entity. -/
theorem highlight_xml_embeds (text : String) :
    (read (builtin.highlight text xml.name).toList).content = Entity.escape text.toList ∧
      '<' ∉ (read (builtin.highlight text xml.name).toList).content ∧
      '>' ∉ (read (builtin.highlight text xml.name).toList).content ∧
      (read (builtin.highlight text xml.name).toList).nest Ledger.markup.allows [] = some [] ∧
      ∀ rest, '&' :: rest <:+ (builtin.highlight text xml.name).toList →
        ∃ c ∈ Entity.special, Entity.ofChar c <+: '&' :: rest := by
  obtain ⟨p, hspell, hread, hcontent, hnest⟩ := read_markup text
  have hescaped : p.escaped.content = Entity.escape text.toList := by
    rw [Page.content_escaped, hcontent]
  rw [hread, ← hspell, hescaped]
  refine ⟨rfl, ?_, ?_, ?_, fun rest h => ?_⟩
  · exact Entity.not_mem_escape (by decide) (by decide) _
  · exact Entity.not_mem_escape (by decide) (by decide) _
  · rw [Page.nest_escaped, hnest]
  · exact Page.entity_of_ampersand (Page.wellFormed_of_nest isClassName_of_markup_allows hnest) h

end Language
end Highlighter
