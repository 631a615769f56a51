import Stepwise.Toolchain.Tool.Basic
import Stepwise.Toolchain.Shell.State

/-!
# Programs for programs

`env` runs a program with other variables, and `xargs` runs one for the words of an input.

Main definitions:

* `Surroundings.read`, `Surroundings.hide`: what `env` is asked for, and what it hides;
* `Feeding.read`, `Feeding.calls`: how `xargs` shares words, and the calls that it makes.
-/

namespace Stepwise.Shell

/-! ## 1. Variables -/

/-- What a program is to see of what is around it. -/
structure Surroundings where
  /-- Whether no variables are left of those that there are. -/
  isBare : Bool := false
  /-- Variables that are taken away. -/
  without : List Text := []
  /-- Variables that are added, with their values. -/
  given : List (Text × Text) := []
  /-- The program with its arguments; if there is none, the variables are shown. -/
  words : List Text := []
  deriving DecidableEq, Repr

namespace Surroundings

/-- Reads what is asked for. -/
def read : List Text → Surroundings
  | [] => {}
  | w :: ws =>
    let rest := read ws
    if w = "-i".toList ∨ w = ['-'] then { rest with isBare := true }
    else if w = "-u".toList then
      { rest with without := rest.words.take 1 ++ rest.without, words := rest.words.drop 1 }
    else
      match Text.cut? "=" w with
      | some given => { rest with given := given :: rest.given }
      | none => { words := w :: ws }

/-- The state without the variables that the program is not to see. -/
def hide (x : Surroundings) (s : State) : State :=
  { s with vars := s.vars.map fun (name, v) =>
      (name, if x.isBare || x.without.contains name then { v with exported := false } else v) }

/-- The variables that the program sees, line by line. -/
def listing (x : Surroundings) (vars : List (Text × Text)) : Text :=
  let kept := if x.isBare then [] else vars.filter fun v =>
    !x.without.contains v.1 && !x.given.any (·.1 == v.1)
  Tool.unlines ((kept ++ x.given).map fun (name, value) => name ++ '=' :: value)

end Surroundings

/-! ## 2. Words -/

/-- How words are given to calls. -/
structure Feeding where
  /-- The character between words, if quotes and blanks have no meaning. -/
  delimiter : Option Char := none
  /-- How many words a call gets, if there is a bound. -/
  count : Option Nat := none
  /-- The mark in a call for which a word stands. -/
  mark : Option Text := none
  /-- Whether nothing is called if there are no words. -/
  skipsEmpty : Bool := false
  /-- The program that is called, with its arguments. -/
  words : List Text
  deriving DecidableEq, Repr

namespace Feeding

/-- Reads options. -/
def read (words : List Text) : Except Tool.OptionError Feeding := do
  let a ← ({ letters := "0d:n:I:r", mixed := false } : Tool.Grammar).read words
  let count ← (a.value? 'n').mapM fun t =>
    match Tool.digits? t with
    | some (n + 1) => .ok (n + 1)
    | _ => .error (.wrongValue ("invalid number \"" ++ t ++ "\" for -n option"))
  return {
    delimiter := if a.has '0' then some '\x00' else (a.value? 'd').bind List.head?
    count, mark := a.value? 'I', skipsEmpty := a.has 'r'
    words := if a.operands.isEmpty then ["echo".toList] else a.operands }

/-- The words of an input, between which there are blanks.  Quotes and backslashes take the meaning
of characters away; a word that has begun may be empty. -/
def wordsFrom : (quote : Option Char) → (current : Option Text) → Text → List Text
  | _, current, [] => (current.map List.reverse).toList
  | none, current, '\\' :: c :: t => wordsFrom none (some (c :: current.getD [])) t
  | some q, current, c :: t =>
    if c = q then wordsFrom none current t else wordsFrom (some q) (some (c :: current.getD [])) t
  | none, current, c :: t =>
    if c = '\'' ∨ c = '"' then wordsFrom (some c) (some (current.getD [])) t
    else if Text.isBlank c then (current.map List.reverse).toList ++ wordsFrom none none t
    else wordsFrom none (some (c :: current.getD [])) t

/-- The words of an input. -/
def wordsOf (f : Feeding) (t : Text) : List Text :=
  match f.delimiter with
  | none =>
    if f.mark.isSome then
      ((Tool.textLines t).map (·.dropWhile Text.isBlank)).filter (!·.isEmpty)
    else wordsFrom none none t
  | some c =>
    let rows := Text.fields c t
    if rows.getLast? = some [] then rows.dropLast else rows

/-- A text in which another one stands for a mark. -/
def fill (mark new : Text) : (fuel : Nat) → Text → Text
  | 0, t => t
  | fuel + 1, t =>
    match Text.cut? mark t with
    | some (head, rest) => head ++ new ++ fill mark new fuel rest
    | none => t

/-- Rows of so many words. -/
def rows (n : Nat) : (fuel : Nat) → List Text → List (List Text)
  | 0, _ | _, [] => []
  | fuel + 1, words => words.take n :: rows n fuel (words.drop n)

/-- The calls for an input. -/
def calls (f : Feeding) (t : Text) : List (List Text) :=
  let given := f.wordsOf t
  match f.mark with
  | some mark => given.map fun new => f.words.map fun w => fill mark new w.length w
  | none =>
    if given.isEmpty then if f.skipsEmpty then [] else [f.words]
    else (rows (f.count.getD given.length) given.length given).map (f.words ++ ·)

/-- No word of an input gets lost between calls. -/
theorem flatten_rows {n : Nat} (hn : 0 < n) (fuel : Nat) (words : List Text)
    (h : words.length ≤ fuel) : (rows n fuel words).flatten = words := by
  induction fuel generalizing words with
  | zero =>
    obtain rfl : words = [] := by simpa using h
    rfl
  | succ fuel ih =>
    cases words with
    | nil => rfl
    | cons w words =>
      rw [rows, List.flatten_cons, ih, List.take_append_drop]
      · simp only [List.length_drop, List.length_cons] at h ⊢
        omega
      · simp

end Feeding

end Stepwise.Shell
