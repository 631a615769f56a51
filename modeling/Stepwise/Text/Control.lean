import Stepwise.Text.Utf8

/-!
# Control sequences

A terminal takes some runs of characters for commands and does not show them.  Such a run begins
with an escape character; what follows decides how far it goes.  This module says what is left of a
text when commands and other control characters are taken out of it.

Main definitions:

* `Control.next`: what becomes of one character;
* `Text.shown`: the characters that a text shows.

A text of characters that are shown anyway shows itself (`shown_eq_self`).
-/

namespace Stepwise

namespace Control

/-- How far a command has been read. -/
inductive Stage where
  /-- Only the escape character. -/
  | escape
  /-- Marks behind the escape character. -/
  | marked
  /-- The parameters of a command of the common form. -/
  | parameters
  /-- The parameters of a command to the device. -/
  | device
  | deviceParameters
  | deviceMarked
  /-- The text of a command, which ends with a string terminator. -/
  | string
  /-- The text of a command to the operating system, which ends with a bell. -/
  | system
  deriving DecidableEq, Repr

/-- Where a reader stands. -/
inductive State where
  /-- In plain text. -/
  | plain
  /-- In a command. -/
  | inside (stage : Stage)
  /-- Behind a blank in the middle of a command, where text is shown up to the next control
  character. -/
  | paused (stage : Stage)
  deriving DecidableEq, Repr

/-- Whether a number lies between two others. -/
def within (first last n : Nat) : Bool := first ≤ n && n ≤ last

/-- Whether a character is a control character. -/
def isControl (c : Char) : Bool := c.toNat < 0x20 || c.toNat == 0x7f

/-- The control characters that are shown: tab, newline, form feed and carriage return. -/
def isSpacing (c : Char) : Bool :=
  c.toNat == 9 || c.toNat == 10 || c.toNat == 12 || c.toNat == 13

/-- The character that begins commands. -/
def escape : Char := '\x1b'

/-- Cancel and substitute end every command. -/
def isCancel (c : Char) : Bool := c.toNat == 0x18 || c.toNat == 0x1a

/-- Whether a character has the string terminator among its bytes. -/
def terminates (c : Char) : Bool := (Utf8.encode [c]).contains 0x9c

/-- Whether blanks are shown in the middle of a command at this stage. -/
def Stage.pauses : Stage → Bool
  | .escape | .marked | .parameters => true
  | _ => false

/-- The state behind a character of a command that is neither an escape nor a cancel character. -/
def Stage.next (stage : Stage) (c : Char) : State :=
  let n := c.toNat
  if 0x80 ≤ n then if stage = .string ∧ terminates c then .plain else .inside stage
  else if stage = .system then if n = 7 then .plain else .inside .system
  else if isControl c then .inside stage
  else
    match stage with
    | .escape =>
      if n < 0x30 then .inside .marked
      else if c = '[' then .inside .parameters
      else if c = ']' then .inside .system
      else if c = 'P' then .inside .device
      else if c = 'X' ∨ c = '^' ∨ c = '_' then .inside .string
      else .plain
    | .marked => if n < 0x30 then .inside .marked else .plain
    | .parameters => if n < 0x40 then .inside .parameters else .plain
    | .device =>
      .inside (if n < 0x30 then .deviceMarked else if n < 0x40 then .deviceParameters else .string)
    | .deviceParameters =>
      .inside (if n < 0x30 then .deviceMarked else if n < 0x3c then .deviceParameters else .string)
    | .deviceMarked => .inside (if n < 0x30 then .deviceMarked else .string)
    | .string => .inside .string
    | .system => .inside .system

/-- Reads a character: the state behind it, and whether it is shown. -/
def next (s : State) (c : Char) : State × Bool :=
  if c = escape then (.inside .escape, false)
  else if isCancel c then (.plain, false)
  else
    match s with
    | .plain => (.plain, !isControl c || isSpacing c)
    | .inside stage => if stage.pauses && isSpacing c then (.paused stage, true)
      else (stage.next c, false)
    | .paused stage =>
      if 0x80 ≤ c.toNat then (.plain, true)
      else if !isControl c || isSpacing c then (.paused stage, true)
      else (.inside stage, false)

/-- The characters that are shown from a state on. -/
def shownFrom : State → Text → Text
  | _, [] => []
  | s, c :: t =>
    match next s c with
    | (s, true) => c :: shownFrom s t
    | (s, false) => shownFrom s t

theorem next_plain {c : Char} (h : isControl c = false) : next .plain c = (.plain, true) := by
  have hn : 0x20 ≤ c.toNat := by
    simp [isControl] at h
    omega
  have he : c ≠ escape := fun e => by simp [e, escape] at hn
  have hc : isCancel c = false := by simp [isCancel]; omega
  simp [next, he, hc, h]

end Control

namespace Text

/-- The characters that a terminal shows of a text. -/
def shown (t : Text) : Text := Control.shownFrom .plain t

/-- A text without control characters shows itself. -/
theorem shown_eq_self {t : Text} (h : ∀ c ∈ t, Control.isControl c = false) : t.shown = t := by
  unfold shown
  induction t with
  | nil => rfl
  | cons c t ih =>
    rw [Control.shownFrom, Control.next_plain (h c (by simp))]
    exact congrArg _ (ih fun d hd => h d (by simp [hd]))

end Text

end Stepwise
