import Stepwise.Console.Basic

/-!
# Conversations

What is typed at a console may be given in advance: the lines for the prompts, one each, and for
every gate at which the running program stands the lines that are typed there.  A missing line is
the end of the input.  The transcript is all that is printed.
-/

namespace Stepwise.Console

/-- A line that is typed, or the end of the input. -/
abbrev Typed := Option Text

/-- Follows the program if it runs. -/
def advance (c : Console) : Console × Text :=
  if c.mode = .running then c.proceed else (c, [])

/-- Types several lines. -/
def typedAll (c : Console) : List Typed → Console × Text
  | [] => (c, [])
  | line :: lines =>
    match c.typed line with
    | (c, text) =>
      match c.typedAll lines with
      | (c, more) => (c, text ++ more)

/-- Lets the program go on from its gate. -/
def release (c : Console) : Console := { c with session := c.session.release }

/-- What is printed from now on.  At a prompt without a line the input ends, and at a gate without
lines nothing more happens. -/
def transcript (c : Console) (prompts : List Typed) (gates : List (List Typed)) : Text :=
  match c.mode with
  | .ended => []
  | .prompting =>
    match prompts with
    | [] => (c.typed none).2
    | line :: prompts =>
      match c.typed line with
      | (c, text) =>
        match c.advance with
        | (c, more) => text ++ more ++ c.transcript prompts gates
  | .running =>
    match gates with
    | [] => []
    | lines :: gates =>
      match c.typedAll lines with
      | (c, text) =>
        match c.release.advance with
        | (c, more) => text ++ more ++ c.transcript prompts gates
termination_by prompts.length + gates.length

/-- All that a console prints. -/
def converse (c : Console) (prompts : List Typed) (gates : List (List Typed)) : Text :=
  match c.advance with
  | (c, text) => text ++ c.transcript prompts gates

theorem typedAll_of_ended {c : Console} (h : c.mode = .ended) (lines : List Typed) :
    c.typedAll lines = (c, []) := by
  induction lines with
  | nil => rfl
  | cons line lines ih => simp [typedAll, typed, h, ih]

theorem converse_of_ended {c : Console} (h : c.mode = .ended) (prompts : List Typed)
    (gates : List (List Typed)) : c.converse prompts gates = [] := by
  rw [converse, advance, if_neg (by simp [h])]
  simp [transcript.eq_def, h]

end Stepwise.Console
