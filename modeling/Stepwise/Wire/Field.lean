import Stepwise.Text.Basic
import Stepwise.Text.Blank
import Stepwise.Text.Numeral

/-!
# Record fields and addresses

The fields of a record stand on one line between bars.  `encode` keeps a value on that line:
newlines and backslashes are escaped, in the last field bars too, and carriage returns are left
out.  `decode` takes the escapes back and keeps a backslash that begins none.

Main definitions: `Field.encode` and `Field.decode` (`escape_field`, `unescape_field`), and
`Address.text` and `Address.read?` (`format_address`, `parse_address`).
-/

/-! ## 1. Fields -/

namespace Stepwise.Field

/-- Where in its record a field stands: only the last one may hold no bar. -/
inductive Place where
  | inner
  | last
  deriving DecidableEq, Repr

/-- What is written for a character. -/
def encodeChar (place : Place) (c : Char) : Text :=
  if c = '\n' then "\\n"
  else if c = '\\' then "\\\\"
  else if c = '\r' then ""
  else if c = '|' ∧ place = .last then "\\u007c"
  else [c]

/-- A value as it is written into a field. -/
def encode (place : Place) (t : Text) : Text := t.flatMap (encodeChar place)

/-- The value that a field holds. -/
def decode : Text → Text
  | '\\' :: 'u' :: '0' :: '0' :: '7' :: 'c' :: t => '|' :: decode t
  | '\\' :: 'n' :: t => '\n' :: decode t
  | '\\' :: '\\' :: t => '\\' :: decode t
  | c :: t => c :: decode t
  | [] => []

end Stepwise.Field

/-!
## 2. Addresses

Addresses are non-null 64-bit numbers.  They are read in hexadecimal behind `0x`, else in decimal,
and have one canonical spelling, by which addresses of different spelling are compared.
-/

namespace Stepwise.Address

/-- Addresses are below this bound. -/
def bound : Nat := UInt64.size

/-- The hexadecimal digits of a text that announces them. -/
def hexDigits? (t : Text) : Option Text :=
  match t with
  | '0' :: 'x' :: digits => some digits
  | '0' :: 'X' :: digits => some digits
  | _ => none

/-- The address that a text spells; null and texts that spell none give nothing. -/
def read? (t : Text) : Option Nat :=
  let t := t.trim
  let value? := match hexDigits? t with
    | some digits => Text.readNumeral 16 bound digits
    | none => Text.readNumeral 10 bound t
  value?.toOption.filter (· ≠ 0)

/-- The canonical spelling of an address. -/
def text (address : Nat) : Text := '0' :: 'x' :: Text.digits 16 address

/-- The canonical spelling of the address that a text spells. -/
def canonical? (t : Text) : Option Text := (read? t).map text

end Stepwise.Address
