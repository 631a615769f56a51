import Stepwise.Text.Numeral

/-!
# Quantities as text

Numbers with a fraction, exactly.  A quantity may be rounded to so many binary digits, as a word
of a machine holds it, and is written with so many decimal digits; a tie goes to the even neighbour.

Main definitions:

* `Quantity.read?`: the number at the front of a text;
* `Quantity.rounded`: a number with so many binary digits;
* `Quantity.fixed`, `Quantity.scientific`, `Quantity.general`: a number as a text.

Rounding is within half a unit (`roundDiv_spec`).
-/

namespace Stepwise

/-- A number that is not negative: a quotient, of which the divisor is not zero. -/
structure Ratio where
  num : Nat
  den : Nat
  deriving DecidableEq, Repr

/-- What a text writes as a number. -/
inductive Quantity where
  | finite (negative : Bool) (size : Ratio)
  | infinite (negative : Bool)
  | notNumber (negative : Bool)
  deriving DecidableEq, Repr

/-! ## 1. Rounding -/

/-- A quotient rounded to the nearest number; a tie goes to the even one. -/
def roundDiv (num den : Nat) : Nat :=
  let q := num / den
  let twice := 2 * (num % den)
  if twice < den || (twice == den && q % 2 == 0) then q else q + 1

/-- Rounding is within half a unit. -/
theorem roundDiv_spec (num : Nat) {den : Nat} (h : 0 < den) :
    2 * num ≤ 2 * (roundDiv num den * den) + den ∧
      2 * (roundDiv num den * den) ≤ 2 * num + den := by
  have hq := Nat.div_add_mod num den
  have hr := Nat.mod_lt num h
  rw [Nat.mul_comm] at hq
  unfold roundDiv
  generalize num / den = q at *
  generalize num % den = r at *
  simp only [Bool.or_eq_true, Bool.and_eq_true, decide_eq_true_eq, beq_iff_eq]
  split
  · omega
  · rw [Nat.add_mul]
    omega

namespace Ratio

/-- A number times a power of ten. -/
def scale (x : Ratio) : Int → Ratio
  | .ofNat n => { x with num := x.num * Nat.pow 10 n }
  | .negSucc n => { x with den := x.den * Nat.pow 10 (n + 1) }

/-- A number times a power of two. -/
def shift (x : Ratio) : Int → Ratio
  | .ofNat n => { x with num := x.num * Nat.pow 2 n }
  | .negSucc n => { x with den := x.den * Nat.pow 2 (n + 1) }

/-- The nearest whole number. -/
def nearest (x : Ratio) : Nat := roundDiv x.num x.den

/-- The largest power of a base that is not above a number that is not zero. -/
def exponent (base : Nat) (x : Ratio) : Int :=
  let guess : Int := Int.ofNat (Nat.log2 x.num) - Int.ofNat (Nat.log2 x.den)
  let start : Int := if base = 2 then guess else guess * 3 / 10
  let power (e : Int) : Ratio := match e with
    | .ofNat n => { num := Nat.pow base n, den := 1 }
    | .negSucc n => { num := 1, den := Nat.pow base (n + 1) }
  let reaches (e : Int) : Bool := (power e).num * x.den ≤ x.num * (power e).den
  let steps := (start.natAbs / 50) + 4
  (List.range (2 * steps + 1)).foldl (fun best k =>
    let e := start - Int.ofNat steps + Int.ofNat k
    if reaches e then e else best) (start - Int.ofNat steps)

/-- The nearest number with so many binary digits.  The last of them stands at `least` or above. -/
def rounded (x : Ratio) (digits : Nat) (least : Int) : Ratio :=
  if x.num = 0 then x
  else
    let e := max (x.exponent 2 - Int.ofNat digits + 1) least
    ({ num := (x.shift (-e)).nearest, den := 1 } : Ratio).shift e

end Ratio

/-! ## 2. Reading -/

namespace Quantity

/-- The largest power of ten that is calculated; beyond it a number counts as infinite or zero. -/
def exponentBound : Nat := 20000

/-- A number as a word of 64 bits holds it. -/
def rounded : Quantity → Quantity
  | finite negative size =>
    let size := size.rounded 53 (-1074)
    if Nat.pow 2 1024 * size.den ≤ size.num then infinite negative else finite negative size
  | x => x

/-- An exponent behind its letter, if there is one, and the text behind it. -/
def exponentOf (t : Text) : Int × Text :=
  match t with
  | [] => (0, t)
  | c :: behind =>
    let (negative, digits) : Bool × Text := match behind with
      | '-' :: d => (true, d)
      | '+' :: d => (false, d)
      | d => (false, d)
    let row := digits.takeWhile Char.isDigit
    if c.toLower ≠ 'e' ∨ row.isEmpty then (0, t)
    else
      let n := row.foldl (fun n d =>
        if exponentBound < n then n else 10 * n + (d.toNat - '0'.toNat)) 0
      (if negative then -Int.ofNat n else Int.ofNat n, digits.drop row.length)

/-- Digits with a point among them: their value without the point, how many stand behind it, and the
text behind them, if there is a digit. -/
def digitsOf (t : Text) : Option (Nat × Nat × Text) :=
  let whole := t.takeWhile Char.isDigit
  let rest := t.drop whole.length
  let (fraction, behind) : Text × Text := match rest with
    | '.' :: more =>
      let fraction := more.takeWhile Char.isDigit
      (fraction, more.drop fraction.length)
    | _ => ([], rest)
  if (whole ++ fraction).isEmpty then none
  else
    let value := (whole ++ fraction).foldl (fun n c => n * 10 + (c.toNat - '0'.toNat)) 0
    some (value, fraction.length, behind)

/-- A number times a power of ten, unless that is out of all bounds. -/
def scaled (negative : Bool) (value : Nat) (e : Int) : Quantity :=
  if value = 0 then finite negative { num := 0, den := 1 }
  else if Int.ofNat exponentBound < e then infinite negative
  else if e < -Int.ofNat (2 * exponentBound) then finite negative { num := 0, den := 1 }
  else finite negative (Ratio.scale { num := value, den := 1 } e)

/-- The text behind a word in any case, if it is at the front of a text. -/
def afterWord? (word t : Text) : Option Text :=
  if (t.take word.length).map Char.toLower = word then some (t.drop word.length) else none

/-- The number at the front of a text without a sign, and the text behind it. -/
def readSize? (negative : Bool) (t : Text) : Option (Quantity × Text) :=
  let decimal? : Option (Quantity × Text) := do
    let (value, places, behind) ← digitsOf t
    let (e, behind) := exponentOf behind
    return (scaled negative value (e - Int.ofNat places), behind)
  decimal?.or <|
    ((afterWord? "infinity" t).or (afterWord? "inf" t)).map (infinite negative, ·) |>.or <|
      (afterWord? "nan" t).map (notNumber negative, ·)

/-- The number at the front of a text, and the text behind it. -/
def read? (t : Text) : Option (Quantity × Text) :=
  match t with
  | '-' :: t => readSize? true t
  | '+' :: t => readSize? false t
  | t => readSize? false t

/-! ## 3. Writing -/

/-- Digits with a point before the last ones; the point stays if there are none behind it on
demand. -/
def pointed (places : Nat) (keepsPoint : Bool) (n : Nat) : Text :=
  let t := Text.ofNat n
  let t := List.replicate (places + 1 - t.length) '0' ++ t
  let whole := t.take (t.length - places)
  let fraction := t.drop (t.length - places)
  whole ++ if fraction.isEmpty then (if keepsPoint then ['.'] else []) else '.' :: fraction

/-- A number with so many digits behind the point. -/
def fixed (places : Nat) (keepsPoint : Bool) (x : Ratio) : Text :=
  pointed places keepsPoint (x.scale places).nearest

/-- The first digits of a number, one more than `places`, and the power of ten of the first one. -/
def leading (places : Nat) (x : Ratio) : Nat × Int :=
  if x.num = 0 then (0, 0)
  else
    let e := x.exponent 10
    let n := (x.scale (Int.ofNat places - e)).nearest
    if Nat.pow 10 (places + 1) ≤ n then (n / 10, e + 1) else (n, e)

/-- A power of ten behind a letter, with two digits at least. -/
def exponentText (e : Int) : Text :=
  let digits := Text.ofNat e.natAbs
  'e' :: (if e < 0 then '-' else '+') :: List.replicate (2 - digits.length) '0' ++ digits

/-- A number as one digit, so many digits behind the point, and a power of ten. -/
def scientific (places : Nat) (keepsPoint : Bool) (x : Ratio) : Text :=
  let (n, e) := leading places x
  pointed places keepsPoint n ++ exponentText e

/-- A text without the zeros at the end of its fraction. -/
def dropZeros (t : Text) : Text :=
  if t.contains '.' then
    match t.reverse.dropWhile (· == '0') with
    | '.' :: rest => rest.reverse
    | rest => rest.reverse
  else t

/-- A number with so many digits: with a power of ten if it is very small or has more digits in
front of the point. -/
def general (digits : Nat) (keepsPoint : Bool) (x : Ratio) : Text :=
  let digits := max digits 1
  let (n, e) := leading (digits - 1) x
  let strip (t : Text) : Text := if keepsPoint then t else dropZeros t
  if e < -4 ∨ Int.ofNat digits ≤ e then
    strip (pointed (digits - 1) keepsPoint n) ++ exponentText e
  else strip (fixed (Int.ofNat digits - 1 - e).toNat keepsPoint x)

/-- How a number is written. -/
structure Style where
  /-- The letter of the form, in lower case. -/
  letter : Char := 'g'
  precision : Option Nat := none
  /-- Whether a point stays that nothing follows, and zeros at the end do. -/
  keepsPoint : Bool := false

/-- The size of a number as a text; whether it is made of digits. -/
def Style.size (s : Style) : Quantity → Text × Bool
  | infinite _ => ("inf", false)
  | notNumber _ => ("nan", false)
  | finite _ x =>
    let places := s.precision.getD 6
    (if s.letter = 'f' then fixed places s.keepsPoint x
      else if s.letter = 'e' then scientific places s.keepsPoint x
      else general places s.keepsPoint x, true)

/-- Whether a number has a minus sign. -/
def isNegative : Quantity → Bool
  | finite negative _ | infinite negative | notNumber negative => negative

end Quantity

end Stepwise
