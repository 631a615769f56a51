import Stepwise.Text.Basic

/-!
# Numerals

Unsigned numbers as they are written and read: digits of a radix up to sixteen, in reading either
case and one plus sign in front.  A number is read digit by digit under a bound, and the first
fault decides the error: a character that is no digit, or a value that leaves the bound.

Main statement: `read_digits`, what is written is read back.
-/

namespace Stepwise.Text

/-- Why a text is no number. -/
inductive NumeralError where
  /-- There is nothing to read. -/
  | empty
  /-- A character is no digit of the radix. -/
  | badDigit
  /-- The value is not below the bound. -/
  | tooLarge
  deriving DecidableEq, Repr

/-- The wording of a numeral error. -/
def NumeralError.message : NumeralError → Text
  | .empty => "cannot parse integer from empty string"
  | .badDigit => "invalid digit found in string"
  | .tooLarge => "number too large to fit in target type"

/-- The value of a digit of the given radix. -/
def digit? (radix : Nat) (c : Char) : Option Nat :=
  let value? :=
    if '0' ≤ c ∧ c ≤ '9' then some (c.toNat - '0'.toNat)
    else if 'a' ≤ c ∧ c ≤ 'f' then some (c.toNat - 'a'.toNat + 10)
    else if 'A' ≤ c ∧ c ≤ 'F' then some (c.toNat - 'A'.toNat + 10)
    else none
  value?.filter (· < radix)

/-- Reads digits behind the value `acc`. -/
def readDigits (radix bound : Nat) : Nat → Text → Except NumeralError Nat
  | acc, [] => .ok acc
  | acc, c :: t =>
    match digit? radix c with
    | none => .error .badDigit
    | some d =>
      let acc := acc * radix + d
      if acc < bound then readDigits radix bound acc t else .error .tooLarge

/-- Reads a number below `bound`, with one plus sign allowed in front of the digits. -/
def readNumeral (radix bound : Nat) : Text → Except NumeralError Nat
  | [] => .error .empty
  | '+' :: t => if t.isEmpty then .error .badDigit else readDigits radix bound 0 t
  | t => readDigits radix bound 0 t

/-- Reads a decimal number below `bound`. -/
def readNat (bound : Nat) (t : Text) : Except NumeralError Nat := readNumeral 10 bound t

/-- The digit of a value below sixteen, in lower case. -/
def digitOf (d : Nat) : Char :=
  if d < 10 then Char.ofNat ('0'.toNat + d) else Char.ofNat ('a'.toNat + (d - 10))

/-- The digits of a number, most significant first. -/
def digits (radix n : Nat) : Text :=
  if _h : 2 ≤ radix ∧ radix ≤ n then digits radix (n / radix) ++ [digitOf (n % radix)]
  else [digitOf n]
termination_by n
decreasing_by exact Nat.div_lt_self (by omega) (by omega)

/-- A number in decimal. -/
def ofNat (n : Nat) : Text := digits 10 n

theorem digit?_digitOf {radix d : Nat} (hd : d < radix) (hr : radix ≤ 16) :
    digit? radix (digitOf d) = some d := by
  have all : ∀ k < 16, ∀ r ≤ 16, k < r → digit? r (digitOf k) = some k := by decide
  exact all d (by omega) radix hr hd

/-- Reading a row of digits and then more is reading the row and going on from its value. -/
theorem readDigits_append {radix bound acc value : Nat} {t u : Text}
    (h : readDigits radix bound acc t = .ok value) :
    readDigits radix bound acc (t ++ u) = readDigits radix bound value u := by
  induction t generalizing acc with
  | nil =>
    cases h
    rfl
  | cons c t ih =>
    rw [List.cons_append, readDigits]
    rw [readDigits] at h
    cases hd : digit? radix c with
    | none => simp [hd] at h
    | some d =>
      simp only [hd] at h ⊢
      split at h
      · next hlt => simpa only [hlt, if_true] using ih h
      · cases h

/-- The digits of a number below the bound are read back as that number. -/
theorem readDigits_digits {radix bound : Nat} (h2 : 2 ≤ radix) (h16 : radix ≤ 16) (n : Nat)
    (hn : n < bound) : readDigits radix bound 0 (digits radix n) = .ok n := by
  induction n using Nat.strongRecOn with
  | ind n ih =>
    rw [digits]
    split
    · next h =>
      have hlt : n / radix < n := Nat.div_lt_self (by omega) (by omega)
      rw [readDigits_append (ih _ hlt (by omega))]
      have hmod : n % radix < radix := Nat.mod_lt _ (by omega)
      have hval : n / radix * radix + n % radix = n := by
        rw [Nat.mul_comm]
        exact Nat.div_add_mod n radix
      simp [readDigits, digit?_digitOf hmod h16, hval, hn]
    · next h =>
      have hlt : n < radix := by omega
      simp [readDigits, digit?_digitOf hlt h16, hn]

end Stepwise.Text
