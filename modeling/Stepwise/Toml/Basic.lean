import Stepwise.Text.Basic

/-!
# TOML documents

A document is a table, built up statement by statement: a header opens a table or one more item of
an array of tables, and an assignment puts a value under a dotted key of the table that is open.
A table remembers how it came about, because that decides which statements may still add to it.

Main definitions:

* `Toml.openTable?`, `Toml.openItem?`: what a header does;
* `Toml.assign?`: what an assignment does to the table it is made in;
* `Toml.inSection?`: a change of the table that a header opened.
-/

namespace Stepwise

namespace Toml

/-- How a table came about. -/
inductive Origin where
  /-- It is written between braces, and complete. -/
  | inline
  /-- A header opened it. -/
  | header
  /-- A header opened a table below it. -/
  | implied
  /-- An assignment was made to a dotted key through it. -/
  | dotted
  deriving DecidableEq, Repr

end Toml

/-- A value of a document. -/
inductive Toml where
  | string (value : Text)
  | integer (value : Int)
  /-- A number with a fraction or exponent, or one that is no number, as it is written. -/
  | float (literal : Text)
  | boolean (value : Bool)
  /-- A date, a time or both, as it is written. -/
  | moment (literal : Text)
  | array (items : List Toml)
  | table (origin : Toml.Origin) (entries : List (Text × Toml))
  /-- An array whose items were opened by headers. -/
  | tables (items : List (List (Text × Toml)))
  deriving Repr, Inhabited

namespace Toml

/-- The contents of a table, in the order in which the keys were first mentioned. -/
abbrev Entries := List (Text × Toml)

/-- The entries with a value under a key, in place of the one that is there. -/
def put (key : Text) (value : Toml) (entries : Entries) : Entries :=
  if (entries.lookup key).isSome then
    entries.map fun e => if e.1 = key then (key, value) else e
  else entries ++ [(key, value)]

/-- Changes the last of several tables. -/
def onLast? (items : List Entries) (f : Entries → Option Entries) : Option (List Entries) :=
  match items.getLast? with
  | none => none
  | some last => (f last).map fun last => items.dropLast ++ [last]

/-- Changes what stands under the last key of a path; tables on the way that are not there yet
are implied. -/
def edit? (f : Option Toml → Option Toml) : List Text → Entries → Option Entries
  | [], _ => none
  | [key], entries => (f (entries.lookup key)).map fun value => put key value entries
  | key :: path, entries =>
    match entries.lookup key with
    | none => (edit? f path []).map fun inner => put key (.table .implied inner) entries
    | some (.table .inline _) => none
    | some (.table origin inner) =>
      (edit? f path inner).map fun inner => put key (.table origin inner) entries
    | some (.tables items) =>
      (onLast? items (edit? f path)).map fun items => put key (.tables items) entries
    | some _ => none

/-- A header with single brackets opens a table, once. -/
def openTable? (path : List Text) (entries : Entries) : Option Entries :=
  edit? (fun
    | none => some (.table .header [])
    | some (.table .implied inner) => some (.table .header inner)
    | some _ => none) path entries

/-- A header with double brackets opens one more item. -/
def openItem? (path : List Text) (entries : Entries) : Option Entries :=
  edit? (fun
    | none => some (.tables [[]])
    | some (.tables items) => some (.tables (items ++ [[]]))
    | some _ => none) path entries

/-- Puts a value under a dotted key.  No key takes a second value, and only tables that were made
by dotted keys are added to; the way to them may lead through implied tables and through the last
item of an array of tables. -/
def assign? (value : Toml) : List Text → Entries → Option Entries
  | [], _ => none
  | [key], entries =>
    if (entries.lookup key).isSome then none else some (entries ++ [(key, value)])
  | key :: path, entries =>
    match entries.lookup key with
    | none => (assign? value path []).map fun inner => put key (.table .dotted inner) entries
    | some (.table .dotted inner) =>
      (assign? value path inner).map fun inner => put key (.table .dotted inner) entries
    | some (.table .implied inner) =>
      if path.length = 1 then none
      else (assign? value path inner).map fun inner => put key (.table .implied inner) entries
    | some (.tables items) =>
      if path.length = 1 then none
      else (onLast? items (assign? value path)).map fun items => put key (.tables items) entries
    | some _ => none

/-- Changes the table that the header of a path opened last; the empty path is the document. -/
def inSection? (path : List Text) (f : Entries → Option Entries) (entries : Entries) :
    Option Entries :=
  if path.isEmpty then f entries
  else
    edit? (fun
      | some (.table .header inner) => (f inner).map (.table .header)
      | some (.tables items) => (onLast? items f).map .tables
      | _ => none) path entries

/-- A value stands under its key. -/
theorem lookup_put (key : Text) (value : Toml) (entries : Entries) :
    (put key value entries).lookup key = some value := by
  unfold put
  split
  · next h =>
    induction entries with
    | nil => simp at h
    | cons e entries ih =>
      obtain ⟨k, v⟩ := e
      by_cases hk : k = key
      · simp [hk]
      · have hk' : ¬ key = k := fun h => hk h.symm
        simp only [List.map_cons, hk, if_false, List.lookup_cons, beq_eq_false_iff_ne.2 hk'] at h ⊢
        exact ih h
  · next h =>
    induction entries with
    | nil => simp
    | cons e entries ih =>
      obtain ⟨k, v⟩ := e
      by_cases hk : key = k
      · simp [hk] at h
      · simp only [List.lookup_cons, beq_eq_false_iff_ne.2 hk, List.cons_append] at h ⊢
        exact ih h

end Toml

end Stepwise
