import Stepwise.Text.Numeral

/-!
# TOML strings

Four forms: in double quotes with escapes or in single quotes as it is, each on one line or, with
the quote written three times, on several.  All are read by one machine that takes a character at a
time.  What is written is always the form with double quotes on one line, and reading takes it back
(`string?_quote`).
-/

namespace Stepwise.Toml

/-- Whether a character may stand for itself in a string or comment. -/
def isPlain (c : Char) : Bool := c == '\t' || (0x20 ≤ c.toNat && c.toNat != 0x7F)

/-- A form of string. -/
structure QuoteForm where
  /-- The quote. -/
  mark : Char
  /-- Whether the string may have several lines. -/
  multiline : Bool
  deriving DecidableEq, Repr

/-- Where the reader of a string stands. -/
inductive QuoteState where
  | plain
  /-- Behind a backslash. -/
  | escaped
  /-- Inside a number of a character, with more digits missing. -/
  | code (missing value : Nat)
  /-- Behind a backslash that is to end its line. -/
  | folding
  /-- Behind such a line, before the next character that is neither blank nor newline. -/
  | trimming
  deriving DecidableEq, Repr

/-- The character meant by a letter behind a backslash. -/
def letterEscape? : Char → Option Char
  | 'b' => some '\x08'
  | 't' => some '\t'
  | 'n' => some '\n'
  | 'f' => some '\x0c'
  | 'r' => some '\r'
  | 'e' => some '\x1b'
  | '"' => some '"'
  | '\\' => some '\\'
  | _ => none

/-- How many digits of a number follow a letter behind a backslash. -/
def codeLength? : Char → Option Nat
  | 'x' => some 2
  | 'u' => some 4
  | 'U' => some 8
  | _ => none

/-- The character of a number. -/
def charOf? (n : Nat) : Option Char := if n.isValidChar then some (Char.ofNat n) else none

/-- The quotes that belong to a string of several lines at its end, and the text behind it: of a
row of quotes the last three end the string, but at most two stand before them. -/
def tripleEnd? (mark : Char) (t : Text) : Option (Text × Text) :=
  let row := (t.takeWhile (· == mark)).length
  if row < 3 then none
  else
    let kept := min (row - 3) 2
    some (List.replicate kept mark, t.drop (kept + 3))

/-- Whether a text begins with a newline. -/
def startsNewline : Text → Bool
  | '\n' :: _ => true
  | '\r' :: '\n' :: _ => true
  | _ => false

/-- Whether a text begins with a blank or a newline. -/
def startsGap (t : Text) : Bool :=
  t.head? == some ' ' || t.head? == some '\t' || startsNewline t

/-- Puts a character in front of a string that was read. -/
def prepend (c : Char) (r : Option (Text × Text)) : Option (Text × Text) :=
  r.map fun (s, rest) => (c :: s, rest)

/-- Reads a string on from a state, and gives the text behind its end. -/
def stringRest (form : QuoteForm) : QuoteState → Text → Option (Text × Text)
  | _, [] => none
  | state, c :: t =>
    match (if state = .trimming ∧ !startsGap (c :: t) then .plain else state) with
    | .trimming => stringRest form .trimming t
    | .folding =>
      if c = '\n' then stringRest form .trimming t
      else if startsGap (c :: t) then stringRest form .folding t
      else none
    | .escaped =>
      match letterEscape? c, codeLength? c with
      | some e, _ => prepend e (stringRest form .plain t)
      | none, some n => stringRest form (.code n 0) t
      | none, none =>
        if !form.multiline then none
        else if c = '\n' then stringRest form .trimming t
        else if startsGap (c :: t) then stringRest form .folding t
        else none
    | .code missing value =>
      match Text.digit? 16 c with
      | none => none
      | some d =>
        let value := value * 16 + d
        if 2 ≤ missing then stringRest form (.code (missing - 1) value) t
        else
          match charOf? value with
          | none => none
          | some c => prepend c (stringRest form .plain t)
    | .plain =>
      if c = '\\' ∧ form.mark = '"' then stringRest form .escaped t
      else if form.multiline then
        match tripleEnd? form.mark (c :: t) with
        | some found => some found
        | none =>
          if isPlain c || startsNewline (c :: t) then prepend c (stringRest form .plain t) else none
      else if c = form.mark then some ([], t)
      else if isPlain c then prepend c (stringRest form .plain t)
      else none

/-- The text behind a newline that follows the opening quotes. -/
def dropNewline : Text → Text
  | '\n' :: t => t
  | '\r' :: '\n' :: t => t
  | t => t

/-- Reads a string of any form. -/
def string? : Text → Option (Text × Text)
  | '"' :: '"' :: '"' :: t => stringRest ⟨'"', true⟩ .plain (dropNewline t)
  | '"' :: t => stringRest ⟨'"', false⟩ .plain t
  | '\'' :: '\'' :: '\'' :: t => stringRest ⟨'\'', true⟩ .plain (dropNewline t)
  | '\'' :: t => stringRest ⟨'\'', false⟩ .plain t
  | _ => none

/-! ## Writing -/

/-- The four digits of a number below 65536. -/
def hex4 (n : Nat) : Text :=
  [Text.digitOf (n / 4096 % 16), Text.digitOf (n / 256 % 16), Text.digitOf (n / 16 % 16),
   Text.digitOf (n % 16)]

/-- What is written for a character. -/
def escapeChar (c : Char) : Text :=
  match c with
  | '"' => "\\\""
  | '\\' => "\\\\"
  | c => if isPlain c then [c] else '\\' :: 'u' :: hex4 c.toNat

/-- A string in double quotes. -/
def quote (t : Text) : Text := '"' :: t.flatMap escapeChar ++ ['"']

theorem toNat_lt_of_not_isPlain {c : Char} (h : isPlain c = false) : c.toNat < 128 := by
  simp [isPlain] at h
  omega

/-- The number of a character gives the character back. -/
theorem charOf?_toNat (c : Char) : charOf? c.toNat = some c := by
  have h : c.toNat.isValidChar := c.valid
  simp [charOf?, h]

/-- Four digits are read as the number they were written for. -/
theorem stringRest_hex4 {form : QuoteForm} {n : Nat} (hn : n < 65536) (t : Text) :
    stringRest form (.code 4 0) (hex4 n ++ t) =
      match charOf? n with
      | none => none
      | some c => prepend c (stringRest form .plain t) := by
  have h (d : Nat) : Text.digit? 16 (Text.digitOf (d % 16)) = some (d % 16) :=
    Text.digit?_digitOf (Nat.mod_lt _ (by decide)) (by decide)
  have hv : (((n / 4096 % 16) * 16 + n / 256 % 16) * 16 + n / 16 % 16) * 16 + n % 16 = n := by
    omega
  simp [hex4, stringRest, h, hv]

/-- A written character is read back. -/
theorem stringRest_escapeChar (c : Char) (t : Text) :
    stringRest ⟨'"', false⟩ .plain (escapeChar c ++ t) =
      prepend c (stringRest ⟨'"', false⟩ .plain t) := by
  unfold escapeChar
  split
  · simp [stringRest, letterEscape?]
  · simp [stringRest, letterEscape?]
  · next hq hb =>
    split
    · next hp =>
      have hq : c ≠ '"' := hq
      have hb : c ≠ '\\' := hb
      simp [stringRest, hb, hq, hp]
    · next hp =>
      have hlt := toNat_lt_of_not_isPlain (by simpa using hp)
      have hcode := @stringRest_hex4 ⟨'"', false⟩ c.toNat (by omega) t
      rw [charOf?_toNat] at hcode
      simpa [stringRest, letterEscape?, codeLength?] using hcode

/-- Written characters are read back. -/
theorem stringRest_flatMap_escapeChar (s t : Text) :
    stringRest ⟨'"', false⟩ .plain (s.flatMap escapeChar ++ '"' :: t) = some (s, t) := by
  induction s with
  | nil => simp [stringRest]
  | cons c s ih =>
    simp [stringRest_escapeChar, ih, prepend]

/-- A written string is read back, if no quote follows it at once. -/
theorem string?_quote (s t : Text) (ht : t.head? ≠ some '"') :
    string? (quote s ++ t) = some (s, t) := by
  have h := stringRest_flatMap_escapeChar s t
  have hq : quote s ++ t = '"' :: (s.flatMap escapeChar ++ '"' :: t) := by simp [quote]
  have hne : ∀ u, s.flatMap escapeChar ++ '"' :: t ≠ '"' :: '"' :: u := by
    intro u hu
    cases s with
    | nil =>
      have : t = '"' :: u := by simpa using hu
      exact ht (by simp [this])
    | cons c s =>
      simp only [List.flatMap_cons, escapeChar] at hu
      split at hu
      · simp at hu
      · simp at hu
      · next hc _ =>
        split at hu
        · simp at hu
          exact hc hu.1
        · simp at hu
  rw [hq, string?.eq_def]
  split
  · next u heq =>
    exact absurd (List.cons.inj heq).2 (hne u)
  · next u _ heq =>
    rw [(List.cons.inj heq).2] at h
    exact h
  · next heq => simp at heq
  · next heq => simp at heq
  · next h2 _ _ => exact absurd rfl (h2 _)

end Stepwise.Toml
