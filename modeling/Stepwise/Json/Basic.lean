import Stepwise.Text.Numeral

/-!
# JSON values

A value keeps what its text says: numbers are literals of any length and not machine numbers, and
the members of an object stand in the order of the text, repeated names included.
-/

namespace Stepwise

/-- A JSON value. -/
inductive Json where
  | null
  | bool (value : Bool)
  | number (literal : Text)
  | string (value : Text)
  | array (items : List Json)
  | object (members : List (Text × Json))
  deriving Repr, Inhabited

namespace Json

/-- A natural number. -/
def ofNat (n : Nat) : Json := .number (Text.ofNat n)

/-- A list, item by item. -/
def ofList {α : Type} (item : α → Json) (xs : List α) : Json := .array (xs.map item)

/-- A value that may be absent. -/
def ofOption {α : Type} (item : α → Json) : Option α → Json
  | none => .null
  | some x => item x

end Json

end Stepwise
