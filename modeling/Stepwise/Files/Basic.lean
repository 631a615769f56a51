import Stepwise.Files.Spelling
import Stepwise.Text.Numeral

/-!
# Files

The files of a machine as a value.  A path is the list of the names on the way down from the root.
A spelling is followed name by name: a link leads on to another place, and only a bounded number of
links is followed.

Main definitions:

* `FileTree.at?`: what stands at a path;
* `FileTree.walk`, `FileTree.resolve`: the path of a spelling;
* `FileTree.put`: a tree with something else at a path.

A way that could be walked can still be walked when a file changes (`walk_put`).
-/

namespace Stepwise

/-- The names on the way to a place. -/
abbrev Path := List Text

/-- A device. -/
inductive Device where
  /-- It takes everything and gives nothing. -/
  | null
  /-- It takes everything and gives zeros. -/
  | zero
  /-- It takes nothing and gives zeros. -/
  | full
  /-- It would be the terminal of the program, which has none. -/
  | terminal
  deriving DecidableEq, Repr

/-- What stands at a place.  The mode of a file or directory says in its bits who may do what. -/
inductive FileEntry where
  | file (contents : Bytes) (mode : Nat)
  | directory (mode : Nat)
  /-- A link to another place. -/
  | link (target : Text)
  | device (d : Device)
  /-- An open channel of the program, what can be read from it, and what was written to it. -/
  | channel (input written : Bytes)
  deriving DecidableEq, Repr

/-- Why something cannot be done to files. -/
inductive FileError where
  | missing
  | present
  | notDirectory
  | isDirectory
  | notEmpty
  | nameTooLong
  | tooManyLinks
  | denied
  | invalid
  | noSpace
  | noDevice
  | noChannel
  | tooLarge
  deriving DecidableEq, Repr

/-- The wording of a file error. -/
def FileError.message : FileError → Text
  | missing => "No such file or directory"
  | present => "File exists"
  | notDirectory => "Not a directory"
  | isDirectory => "Is a directory"
  | notEmpty => "Directory not empty"
  | nameTooLong => "File name too long"
  | tooManyLinks => "Too many levels of symbolic links"
  | denied => "Permission denied"
  | invalid => "Invalid argument"
  | noSpace => "No space left on device"
  | noDevice => "No such device or address"
  | noChannel => "Bad file descriptor"
  | tooLarge => "File too large"

/-- The number of a file error. -/
def FileError.number : FileError → Nat
  | missing => 2
  | present => 17
  | notDirectory => 20
  | isDirectory => 21
  | notEmpty => 39
  | nameTooLong => 36
  | tooManyLinks => 40
  | denied => 13
  | invalid => 22
  | noSpace => 28
  | noDevice => 6
  | noChannel => 9
  | tooLarge => 27

/-- A file error with its number. -/
def FileError.report (e : FileError) : Text :=
  e.message ++ " (os error " ++ Text.ofNat e.number ++ ")"

namespace FileEntry

/-- Whether something is there but cannot be passed through: it is neither a directory nor a
link. -/
def isLeaf : FileEntry → Bool
  | directory _ | link _ => false
  | _ => true

/-- Whether something is a directory. -/
def isDirectory : FileEntry → Bool
  | directory _ => true
  | _ => false

/-- The bits of a mode that let a file be run. -/
def runBits : Nat := 0o111

/-- Whether something is a file that may be run. -/
def runs : FileEntry → Bool
  | file _ mode => mode &&& runBits != 0
  | _ => false

end FileEntry

/-- The files of a machine. -/
structure FileTree where
  /-- The directory in which spellings begin that do not begin at the root. -/
  current : Path := []
  /-- What stands at the paths below the root, every path once. -/
  entries : List (Path × FileEntry) := []
  /-- The bits that the modes of new files and directories do not have. -/
  mask : Nat := 0o022
  deriving DecidableEq, Repr

namespace FileTree

/-! ## 1. Paths -/

/-- The mode of a directory that nobody has changed. -/
def directoryMode : Nat := 0o755

/-- What stands at a path. -/
def at? (t : FileTree) (path : Path) : Option FileEntry :=
  if path.isEmpty then some (.directory directoryMode) else t.entries.lookup path

/-- Where the link at a path leads, if there is one. -/
def target? (t : FileTree) (path : Path) : Option Text :=
  match t.at? path with
  | some (.link target) => some target
  | _ => none

/-- The directory in which a spelling begins. -/
def start (current : Path) (spelling : Text) : Path :=
  if Spelling.isRooted spelling then [] else current

/-- The number of links that are followed on one way. -/
def maxLinks : Nat := 40

/-- Walks along names.  Every place that is left is a directory.  A link at the end is followed only
if `last` says so. -/
def walk (t : FileTree) (last : Bool) : (links : Nat) → Path → List Text → Except FileError Path
  | _, path, [] => .ok path
  | links, path, name :: names =>
    match t.at? path with
    | none => .error .missing
    | some (.directory _) =>
      if Spelling.stays name then walk t last links path names
      else if Spelling.goesUp name then walk t last links path.dropLast names
      else if Spelling.maxName < Spelling.size name then .error .nameTooLong
      else
        match t.target? (path ++ [name]) with
        | some target =>
          if names.isEmpty && !last then .ok (path ++ [name])
          else
            match links with
            | 0 => .error .tooManyLinks
            | links + 1 => walk t last links (start path target) (Spelling.names target ++ names)
        | none => walk t last links (path ++ [name]) names
    | some _ => .error .notDirectory
  termination_by links _ names => (links, names.length)

/-- The path of a spelling. -/
def resolve (t : FileTree) (spelling : Text) (last : Bool := true) : Except FileError Path :=
  if spelling.isEmpty then .error .missing
  else if spelling.contains '\x00' then .error .invalid
  else if Spelling.bound ≤ Spelling.size spelling then .error .nameTooLong
  else t.walk last maxLinks (start t.current spelling) (Spelling.names spelling)

/-! ## 2. Looking -/

/-- What stands at a place, with its path. -/
def find (t : FileTree) (spelling : Text) (last : Bool := true) :
    Except FileError (Path × FileEntry) := do
  let path ← t.resolve spelling last
  match t.at? path with
  | some entry => return (path, entry)
  | none => throw .missing

/-- Whether a place exists. -/
def contains (t : FileTree) (spelling : Text) : Bool := (t.find spelling).toOption.isSome

/-- Whether a place is a directory. -/
def isDirectory (t : FileTree) (spelling : Text) : Bool :=
  (t.find spelling).toOption.any (·.2.isDirectory)

/-- The number of zeros that are taken from a device that gives them without end. -/
def zeroCount : Nat := 1048576

/-- The bytes that can be read at a place. -/
def contents : FileEntry → Except FileError Bytes
  | .file bytes _ | .channel bytes _ => .ok bytes
  | .device .null => .ok []
  | .device .zero | .device .full => .ok (List.replicate zeroCount 0)
  | .device .terminal => .error .noDevice
  | .directory _ => .error .isDirectory
  | .link _ => .error .tooManyLinks

/-- The contents of a file. -/
def read (t : FileTree) (spelling : Text) : Except FileError Bytes := do
  contents (← t.find spelling).2

/-- The names in a directory. -/
def namesIn (t : FileTree) (path : Path) : List Text :=
  t.entries.filterMap fun (place, _) =>
    if place.dropLast = path then place.getLast? else none

/-- The spelling of a path. -/
def spell (path : Path) : Text := Spelling.ofParts true path

/-! ## 3. Changing -/

/-- Puts something at a path. -/
def put (t : FileTree) (path : Path) (entry : FileEntry) : FileTree :=
  { t with entries := (path, entry) :: t.entries.filter (·.1 ≠ path) }

theorem at?_put (t : FileTree) {path : Path} (h : path ≠ []) (entry : FileEntry) :
    (t.put path entry).at? path = some entry := by
  simp [at?, put, h]

theorem lookup_filter_ne {path other : Path} (h : other ≠ path) :
    ∀ entries : List (Path × FileEntry),
      (entries.filter (·.1 ≠ path)).lookup other = entries.lookup other
  | [] => rfl
  | (p, x) :: entries => by
    by_cases hp : p = path
    · have hne : (other == p) = false := by simpa [hp] using h
      rw [List.filter_cons_of_neg (by simp [hp]), List.lookup_cons, hne, lookup_filter_ne h entries]
    · rw [List.filter_cons_of_pos (by simp [hp]), List.lookup_cons, List.lookup_cons,
        lookup_filter_ne h entries]

theorem at?_put_of_ne (t : FileTree) {path other : Path} (h : other ≠ path) (entry : FileEntry) :
    (t.put path entry).at? other = t.at? other := by
  have hne : (other == path) = false := by simpa using h
  rw [at?, at?, put, List.lookup_cons, hne, lookup_filter_ne h]

theorem target?_eq_none {t : FileTree} {path : Path}
    (h : ∀ x, t.at? path = some x → x.isLeaf = true) : t.target? path = none := by
  unfold target?
  split
  · next target ht => exact absurd (h _ ht) (by simp [FileEntry.isLeaf])
  · rfl

/-- Links stay where they are when a place that could not be passed through changes into another
such place. -/
theorem target?_put {t : FileTree} {path : Path} (hp : path ≠ [])
    (h : ∀ x, t.at? path = some x → x.isLeaf = true) {entry : FileEntry}
    (he : entry.isLeaf = true) (q : Path) : (t.put path entry).target? q = t.target? q := by
  by_cases hq : q = path
  · subst hq
    rw [target?_eq_none h, target?_eq_none fun x hx => ?_]
    rw [at?_put t hp, Option.some.injEq] at hx
    exact hx ▸ he
  · rw [target?, target?, at?_put_of_ne t hq]

/-- A way stays open when a place that could not be passed through changes into another such
place. -/
theorem walk_put {t : FileTree} {path : Path} (hp : path ≠ [])
    (h : ∀ x, t.at? path = some x → x.isLeaf = true) {entry : FileEntry}
    (he : entry.isLeaf = true) {last : Bool} {links : Nat} {begin goal : Path} {names : List Text}
    (hw : t.walk last links begin names = .ok goal) :
    (t.put path entry).walk last links begin names = .ok goal := by
  have hdir {q : Path} {mode : Nat} (hq : t.at? q = some (.directory mode)) :
      (t.put path entry).at? q = some (.directory mode) := by
    have hne : q ≠ path := by
      rintro rfl
      have := h _ hq
      simp [FileEntry.isLeaf] at this
    rw [at?_put_of_ne t hne, hq]
  have ht := target?_put hp h he
  fun_induction walk t last links begin names with
  | case1 => simpa [walk] using hw
  | case2 => simp at hw
  | case3 _ _ _ _ _ hd hs ih => rw [walk, hdir hd]; simpa [hs] using ih hw
  | case4 _ _ _ _ _ hd hs hu ih => rw [walk, hdir hd]; simpa [hs, hu] using ih hw
  | case5 => simp at hw
  | case6 _ _ _ _ _ hd hs hu hl target hk hn =>
    rw [walk, hdir hd]
    simpa [hs, hu, hl, ht, hk, hn] using hw
  | case7 => simp at hw
  | case8 _ _ _ _ hd hs hu hl target hk hn _ ih =>
    rw [walk, hdir hd]
    simpa [hs, hu, hl, ht, hk, hn] using ih hw
  | case9 _ _ _ _ _ hd hs hu hl hk ih =>
    rw [walk, hdir hd]
    simpa [hs, hu, hl, ht, hk] using ih hw
  | case10 => simp at hw

end FileTree

end Stepwise
