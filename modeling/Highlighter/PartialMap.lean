/-!
# Partial maps

A partial map is a function to optional values. Main statements: what is found after `insert` and
after `eraseAll`.
-/

namespace Highlighter

/-- A map that has values for some keys. -/
abbrev PartialMap (α β : Type) := α → Option β

namespace PartialMap

variable {α β : Type} [DecidableEq α]

/-- The map without values. -/
def empty : PartialMap α β := fun _ => none

/-- The map with the value of one key set. -/
def insert (m : PartialMap α β) (a : α) (b : β) : PartialMap α β :=
  fun x => if x = a then some b else m x

/-- The map without values for some keys. -/
def eraseAll (m : PartialMap α β) (keys : List α) : PartialMap α β :=
  fun x => if x ∈ keys then none else m x

omit [DecidableEq α] in
/-- The empty map has no value. -/
@[simp] theorem empty_apply (x : α) : (empty : PartialMap α β) x = none := rfl

/-- The key that was set has its value, all others have what they had. -/
theorem insert_apply (m : PartialMap α β) (a x : α) (b : β) :
    m.insert a b x = if x = a then some b else m x := rfl

/-- The keys that were erased have no value, all others have what they had. -/
theorem eraseAll_apply (m : PartialMap α β) (keys : List α) (x : α) :
    m.eraseAll keys x = if x ∈ keys then none else m x := rfl

end PartialMap
end Highlighter
