import Stepwise.Text.Utf8

/-!
# Spellings of places

A place is spelled by names with slashes between them.  Several spellings may mean the same place:
a dot and an empty name stay where they are.

Main definitions:

* `Spelling.names`: the names of a spelling, in order;
* `Spelling.above`: the spellings of the places on the way to a place, the deepest first;
* `Spelling.join`: a spelling that goes one name further.
-/

namespace Stepwise.Spelling

/-- The number of bytes of a name. -/
def size (t : Text) : Nat := (Utf8.encode t).length

/-- The greatest number of bytes of a name. -/
def maxName : Nat := 255

/-- The number of bytes that a whole spelling does not reach. -/
def bound : Nat := 4096

/-- Whether a spelling begins at the root. -/
def isRooted (t : Text) : Bool := t.head? == some '/'

/-- The names of a spelling. -/
def names (t : Text) : List Text := Text.fields '/' t

/-- Whether a name stays where it is. -/
def stays (name : Text) : Bool := name.isEmpty || name == ['.']

/-- Whether a name goes up. -/
def goesUp (name : Text) : Bool := name == ['.', '.']

/-- A spelling that goes one name further down. -/
def join (directory name : Text) : Text :=
  if directory.getLast? = some '/' then directory ++ name else directory ++ '/' :: name

/-- The names that lead somewhere, and a dot that stands in front of them. -/
def parts (t : Text) : List Text :=
  match names t with
  | [] => []
  | first :: rest =>
    (if first = ['.'] then [first] else [first].filter (!stays ·)) ++ rest.filter (!stays ·)

/-- The spelling of parts. -/
def ofParts (rooted : Bool) (parts : List Text) : Text :=
  (if rooted then ['/'] else []) ++ Text.join "/" parts

/-- The spellings of the places on the way to a place, the deepest first. -/
def above (t : Text) : List Text :=
  let parts := parts t
  (List.range (parts.length - 1)).reverse.map fun n =>
    ofParts (isRooted t) (parts.take (n + 1))

/-- The last name of a spelling; slashes at its end do not count. -/
def lastName (t : Text) : Text := ((names t).filter (!·.isEmpty)).getLastD (t.take 1)

/-- A spelling without the slashes at its end. -/
def dropSlashes (t : Text) : Text :=
  match (t.reverse.dropWhile (· == '/')).reverse with
  | [] => t.take 1
  | rest => rest

/-- The spelling of the place that holds another one. -/
def directory (t : Text) : Text :=
  let t := dropSlashes t
  if t.contains '/' then
    match dropSlashes (t.reverse.dropWhile (· != '/')).reverse with
    | [] => ['/']
    | rest => rest
  else ['.']

end Stepwise.Spelling
