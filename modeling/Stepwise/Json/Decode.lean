import Stepwise.Json.Basic

/-!
# Values out of JSON

Decoders take a value of the domain out of a JSON value, or nothing if it has another form.  A
structure may be given as an object, where unknown members are ignored and no known member may be
repeated, or as the array of its fields in order.
-/

namespace Stepwise.Json

/-- A string. -/
def text? : Json → Option Text
  | .string s => some s
  | _ => none

/-- The name of a variant without fields: a string, or an object in which null stands under it. -/
def variant? : Json → Option Text
  | .string s => some s
  | .object [(name, .null)] => some name
  | _ => none

/-- A truth value. -/
def flag? : Json → Option Bool
  | .bool b => some b
  | _ => none

/-- A natural number below `bound`, written with digits only. -/
def nat? (bound : Nat) : Json → Option Nat
  | .number literal =>
    if literal.all Char.isDigit then (Text.readNat bound literal).toOption else none
  | _ => none

/-- An array whose items all have the form that `item` reads. -/
def list? {α : Type} (item : Json → Option α) : Json → Option (List α)
  | .array xs => xs.mapM item
  | _ => none

/-- A value that may be null. -/
def nullable? {α : Type} (item : Json → Option α) : Json → Option (Option α)
  | .null => some none
  | x => (item x).map some

/-- The values of the members called `name`. -/
def valuesOf (name : Text) (ms : List (Text × Json)) : List Json :=
  (ms.filter (·.1 == name)).map Prod.snd

/-- The fields of a structure, in the order of `names`; an absent member gives `none`.  In the
array form up to `spare` of the last fields may be missing. -/
def fields? (names : List Text) (spare : Nat) : Json → Option (List (Option Json))
  | .object ms => names.mapM fun name =>
    match valuesOf name ms with
    | [] => some none
    | [x] => some (some x)
    | _ => none
  | .array xs =>
    if xs.length ≤ names.length ∧ names.length ≤ xs.length + spare then
      some (xs.map some ++ List.replicate (names.length - xs.length) none)
    else none
  | _ => none

/-- Whether an object has no members but those called `names`. -/
def knows (names : List Text) : Json → Bool
  | .object ms => ms.all fun (name, _) => names.contains name
  | _ => true

/-- A field that must be there. -/
def need {α : Type} (item : Json → Option α) : Option Json → Option α
  | none => none
  | some x => item x

/-- A field that may be missing or null. -/
def allow {α : Type} (item : Json → Option α) : Option Json → Option (Option α)
  | none => some none
  | some x => nullable? item x

end Stepwise.Json
