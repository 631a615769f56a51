import Stepwise.Text.Numeral
import Stepwise.Toml.Basic

/-!
# Numbers and dates of TOML

A value that is neither string, array nor table is one word: a truth value, a whole number in one
of four radices, a number with fraction or exponent, or a date, a time or both.  A blank may stand
between date and time.
-/

namespace Stepwise.Toml

/-! ## 1. Numbers -/

/-- Digits of a radix, of which two may have an underscore between them, without underscores. -/
def underscored? (radix : Nat) (t : Text) : Option Text :=
  let rows := Text.fields '_' t
  if rows.all fun row => !row.isEmpty && row.all fun c => (Text.digit? radix c).isSome then
    some rows.flatten
  else none

/-- The value of digits. -/
def valueOf? (radix : Nat) (digits : Text) : Option Int :=
  (Text.readDigits radix (Nat.pow 16 digits.length) 0 digits).toOption.map Int.ofNat

/-- A sign and what follows it. -/
def cutSign : Text → Bool × Text
  | '-' :: t => (true, t)
  | '+' :: t => (false, t)
  | t => (false, t)

/-- Digits that do not start with a needless zero. -/
def wholePart? (t : Text) : Option Text :=
  match underscored? 10 t with
  | some ('0' :: _ :: _) => none
  | r => r

/-- The number of values that a word of 128 bits takes. -/
def wordSize : Nat := UInt64.size * UInt64.size

/-- Whether a number fits into 128 bits, with or without a sign. -/
def fits (n : Int) : Bool := -(wordSize / 2 : Nat) ≤ n && n < wordSize

/-- A whole number of any size. -/
def wholeNumber? (t : Text) : Option Int :=
  match t with
  | '0' :: 'x' :: t => (underscored? 16 t).bind (valueOf? 16)
  | '0' :: 'o' :: t => (underscored? 8 t).bind (valueOf? 8)
  | '0' :: 'b' :: t => (underscored? 2 t).bind (valueOf? 2)
  | _ =>
    let (negative, t) := cutSign t
    ((wholePart? t).bind (valueOf? 10)).map fun n => if negative then -n else n

/-- A number with a fraction, an exponent or both. -/
structure Decimal where
  /-- The digits before and behind the point. -/
  digits : Nat
  /-- The power of ten that they are multiplied with. -/
  exponent : Int
  deriving DecidableEq, Repr

/-- The value of an exponent. -/
def exponent? (t : Text) : Option Int :=
  let (negative, t) := cutSign t
  ((underscored? 10 t).bind (valueOf? 10)).map fun n => if negative then -n else n

/-- The number without sign that a text writes with a fraction, an exponent or both. -/
def decimal? (t : Text) : Option Decimal :=
  let lower := t.map fun c => if c = 'E' then 'e' else c
  let (mantissa, power) := (Text.cut? "e" lower).getD (lower, "0")
  match Text.cut? "." mantissa with
  | none => do
    guard (Text.cut? "e" lower).isSome
    let digits ← (wholePart? mantissa).bind (valueOf? 10)
    return { digits := digits.toNat, exponent := ← exponent? power }
  | some (whole, fraction) => do
    let whole ← wholePart? whole
    let fraction ← underscored? 10 fraction
    let digits ← valueOf? 10 (whole ++ fraction)
    return { digits := digits.toNat, exponent := (← exponent? power) - fraction.length }

/-- The least number that is rounded to infinity: half a step above the greatest number of the
double format. -/
def overflowBound : Nat := Nat.pow 2 1024 - Nat.pow 2 970

/-- Whether a number is below the bound.  Only numbers near the bound are multiplied out. -/
def Decimal.isFinite (d : Decimal) : Bool :=
  let order := (Nat.toDigits 10 d.digits).length + d.exponent
  if d.digits = 0 ∨ order < 309 then true
  else if 309 < order then false
  else d.digits * Nat.pow 10 d.exponent.toNat < overflowBound * Nat.pow 10 (-d.exponent).toNat

/-- Whether the text is a number with a fraction, an exponent or both that is not too great, or one
of the special values. -/
def isFloat (t : Text) : Bool :=
  let t := (cutSign t).2
  t = "inf".toList || t = "nan".toList || (decimal? t).any Decimal.isFinite

/-! ## 2. Dates and times -/

/-- A number of exactly `n` digits between two bounds, and the text behind it. -/
def fixed? (n low high : Nat) (t : Text) : Option (Nat × Text) :=
  let digits := t.take n
  if digits.length = n ∧ digits.all Char.isDigit then
    match Text.readDigits 10 (Nat.pow 10 n) 0 digits with
    | .ok value => if low ≤ value ∧ value ≤ high then some (value, t.drop n) else none
    | .error _ => none
  else none

/-- The number of days of a month. -/
def daysOf (year month : Nat) : Nat :=
  if month = 2 then
    if year % 4 = 0 ∧ (year % 100 ≠ 0 ∨ year % 400 = 0) then 29 else 28
  else if month = 4 ∨ month = 6 ∨ month = 9 ∨ month = 11 then 30
  else 31

/-- The text behind a date. -/
def afterDate? (t : Text) : Option Text := do
  let (year, t) ← fixed? 4 0 9999 t
  let t ← Text.after? "-" t
  let (month, t) ← fixed? 2 1 12 t
  let t ← Text.after? "-" t
  let (_, t) ← fixed? 2 1 (daysOf year month) t
  return t

/-- The text behind the fraction of a second, if there is one. -/
def afterFraction? : Text → Option Text
  | '.' :: t =>
    match t.span Char.isDigit with
    | ([], _) => none
    | (_, rest) => some rest
  | t => some t

/-- The text behind a time; the seconds may be missing. -/
def afterTime? (t : Text) : Option Text := do
  let (_, t) ← fixed? 2 0 23 t
  let t ← Text.after? ":" t
  let (_, t) ← fixed? 2 0 59 t
  match t with
  | ':' :: t =>
    let (_, t) ← fixed? 2 0 60 t
    afterFraction? t
  | t => some t

/-- The text behind an offset from universal time, if there is one. -/
def afterOffset? (t : Text) : Option Text :=
  match t with
  | c :: t =>
    if c = 'Z' ∨ c = 'z' then some t
    else if c = '+' ∨ c = '-' then do
      let (_, t) ← fixed? 2 0 23 t
      let t ← Text.after? ":" t
      let (_, t) ← fixed? 2 0 59 t
      return t
    else some (c :: t)
  | [] => some []

/-- Whether a character may stand between date and time. -/
def joinsTime (c : Char) : Bool := c == 'T' || c == 't' || c == ' '

/-- Whether the text is a date, a time or both. -/
def isMoment (t : Text) : Bool :=
  match afterDate? t with
  | some [] => true
  | some (c :: t) => joinsTime c && (afterTime? t).bind afterOffset? == some []
  | none => afterTime? t == some []

/-! ## 3. Words -/

/-- Whether a character belongs to a word. -/
def isWordChar (c : Char) : Bool :=
  c.isAlphanum || c == '+' || c == '-' || c == '.' || c == '_' || c == ':'

/-- The value of a word. -/
def ofWord? (word : Text) : Option Toml :=
  if word = "true".toList then some (.boolean true)
  else if word = "false".toList then some (.boolean false)
  else
    match wholeNumber? word with
    | some n => if fits n then some (.integer n) else none
    | none =>
      if isFloat word then some (.float word)
      else if isMoment word then some (.moment word)
      else none

/-- Reads a word; a date takes the time behind a blank with it. -/
def word? (t : Text) : Option (Toml × Text) :=
  let (word, rest) := t.span isWordChar
  let (word, rest) :=
    match rest with
    | ' ' :: more =>
      let (time, rest') := more.span isWordChar
      if afterDate? word == some [] && (afterTime? time).isSome then (word ++ ' ' :: time, rest')
      else (word, rest)
    | _ => (word, rest)
  (ofWord? word).map fun value => (value, rest)

end Stepwise.Toml
