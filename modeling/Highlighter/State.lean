/-!
# Scanner states

The states that every grammar shares. A grammar wires up the ones it needs; the others stay out of
reach in its table. The order of the constructors is the order of the states wherever they are
listed.
-/

namespace Highlighter

/-- What the scanner is inside of. -/
inductive State where
  | normal
  | doubleQuoteLiteral
  | doubleQuoteEscape
  | singleQuoteLiteral
  | singleQuoteEscape
  | backtickLiteral
  | backtickEscape
  | slashSeen
  | dashSeen
  | parenSeen
  | blockCommentBody
  | blockCommentEnd
  | lineComment
  | lineCommentEscape
  | braceComment
  | xmlTagStart
  | xmlTag
  | xmlProcessingInstruction
  | htmlEntity
  | schemeHash
  | schemeCharLiteral
  | schemeCharBody
  | schemeSymbol
  deriving DecidableEq, Inhabited

namespace State

/-- Every state, in order. -/
def all : List State :=
  [normal, doubleQuoteLiteral, doubleQuoteEscape, singleQuoteLiteral, singleQuoteEscape,
   backtickLiteral, backtickEscape, slashSeen, dashSeen, parenSeen, blockCommentBody,
   blockCommentEnd, lineComment, lineCommentEscape, braceComment, xmlTagStart, xmlTag,
   xmlProcessingInstruction, htmlEntity, schemeHash, schemeCharLiteral, schemeCharBody,
   schemeSymbol]

/-- The list has every state. -/
@[simp] theorem mem_all (s : State) : s ∈ all := by cases s <;> decide

/-- The list has no state twice. -/
theorem nodup_all : all.Nodup := by decide

/-- The place of a state in the order. -/
def index (s : State) : Nat := s.ctorIdx

/-- The states are listed by their place. -/
theorem getElem?_all_index (s : State) : all[s.index]? = some s := by cases s <;> rfl

/-- The name of a state in grammar documents and messages. -/
def name : State → String
  | normal => "Normal"
  | doubleQuoteLiteral => "DoubleQuoteLiteral"
  | doubleQuoteEscape => "DoubleQuoteEscape"
  | singleQuoteLiteral => "SingleQuoteLiteral"
  | singleQuoteEscape => "SingleQuoteEscape"
  | backtickLiteral => "BacktickLiteral"
  | backtickEscape => "BacktickEscape"
  | slashSeen => "SlashSeen"
  | dashSeen => "DashSeen"
  | parenSeen => "ParenSeen"
  | blockCommentBody => "BlockCommentBody"
  | blockCommentEnd => "BlockCommentEnd"
  | lineComment => "LineComment"
  | lineCommentEscape => "LineCommentEscape"
  | braceComment => "BraceComment"
  | xmlTagStart => "XmlTagStart"
  | xmlTag => "XmlTag"
  | xmlProcessingInstruction => "XmlProcessingInstruction"
  | htmlEntity => "HtmlEntity"
  | schemeHash => "SchemeHash"
  | schemeCharLiteral => "SchemeCharLiteral"
  | schemeCharBody => "SchemeCharBody"
  | schemeSymbol => "SchemeSymbol"

/-- The state of a name. -/
def ofName? (s : String) : Option State := all.find? (·.name == s)

/-- A state is found by its name. -/
@[simp] theorem ofName?_name (s : State) : ofName? s.name = some s := by cases s <;> decide

/-- A lookahead state holds characters back until it is known whether they open a construct. -/
def isLookahead : State → Bool
  | slashSeen | dashSeen | parenSeen | schemeHash => true
  | _ => false

/-- A property of all states is decided by trying each of them. -/
instance decidableForall (p : State → Prop) [DecidablePred p] : Decidable (∀ s, p s) :=
  decidable_of_iff (∀ s ∈ all, p s) ⟨fun h s => h s (mem_all s), fun h s _ => h s⟩

/-- Two functions of a state are compared state by state. -/
instance decidableEqFun {α : Type} [DecidableEq α] : DecidableEq (State → α) := fun f g =>
  decidable_of_iff (∀ s, f s = g s) funext_iff.symm

end State
end Highlighter
