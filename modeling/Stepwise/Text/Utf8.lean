import Stepwise.Text.Basic

/-!
# UTF-8

Texts as bytes.  Every text can be encoded.  Decoding never fails: bytes that begin no character,
and characters that break off, are each read as one replacement character.  The decoder is a
machine that reads one byte at a time; inside a character it knows how many bytes are missing and
which bytes may come next.
-/

namespace Stepwise

/-- A sequence of bytes. -/
abbrev Bytes := List UInt8

namespace Utf8

/-- The bytes of a text. -/
def encode (t : Text) : Bytes := t.flatMap String.utf8EncodeChar

/-- What stands for bytes that are no character. -/
def replacement : Char := '\uFFFD'

/-- Where the decoder stands. -/
inductive State where
  /-- Between two characters. -/
  | ready
  /-- Inside a character: `missing` more bytes follow the next one, which lies between `low` and
  `high`; `code` is the number read so far. -/
  | inside (missing : Nat) (low high : UInt8) (code : Nat)
  deriving DecidableEq, Repr

/-- The first byte of a character. -/
def start (b : UInt8) : Text × State :=
  if b < 0x80 then ([Char.ofNat b.toNat], .ready)
  else if b < 0xC2 then ([replacement], .ready)
  else if b < 0xE0 then ([], .inside 0 0x80 0xBF (b.toNat - 0xC0))
  else if b = 0xE0 then ([], .inside 1 0xA0 0xBF 0)
  else if b = 0xED then ([], .inside 1 0x80 0x9F 0xD)
  else if b < 0xF0 then ([], .inside 1 0x80 0xBF (b.toNat - 0xE0))
  else if b = 0xF0 then ([], .inside 2 0x90 0xBF 0)
  else if b < 0xF4 then ([], .inside 2 0x80 0xBF (b.toNat - 0xF0))
  else if b = 0xF4 then ([], .inside 2 0x80 0x8F 4)
  else ([replacement], .ready)

/-- One byte. -/
def State.read (s : State) (b : UInt8) : Text × State :=
  match s with
  | .ready => start b
  | .inside missing low high code =>
    if low ≤ b ∧ b ≤ high then
      let code := code * 64 + b.toNat % 64
      match missing with
      | 0 => ([Char.ofNat code], .ready)
      | missing + 1 => ([], .inside missing 0x80 0xBF code)
    else
      match start b with
      | (t, s) => (replacement :: t, s)

/-- Decodes on from a state. -/
def State.decode : State → Bytes → Text
  | .ready, [] => []
  | .inside .., [] => [replacement]
  | s, b :: bs =>
    match s.read b with
    | (t, s) => t ++ s.decode bs

/-- The text of a sequence of bytes. -/
def decode (bytes : Bytes) : Text := State.ready.decode bytes

/-- The text that a sequence of bytes encodes, if it does. -/
def decode? (bytes : Bytes) : Option Text :=
  let t := decode bytes
  if encode t = bytes then some t else none

/-- Bytes that encode a text give no other text. -/
theorem encode_of_decode? {bytes : Bytes} {t : Text} (h : decode? bytes = some t) :
    encode t = bytes := by
  simp only [decode?, Option.ite_none_right_eq_some, Option.some.injEq] at h
  exact h.2 ▸ h.1

end Utf8

end Stepwise
