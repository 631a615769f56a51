import Stepwise.Files.Basic

/-!
# Changing files

What programs do to files.  Every change either succeeds with the tree after it or fails with the
reason.

Main definitions:

* `FileTree.write`: a file with other contents;
* `FileTree.makeDirectory`, `FileTree.makeDirectories`: a directory, and all that are missing above
  it;
* `FileTree.remove`, `FileTree.move`: a place with all below it away, or elsewhere.

A file that was written holds what was written (`read_of_write`).
-/

namespace Stepwise.FileTree

/-! ## 1. Files -/

/-- What is left of a mode without the bits of a mask. -/
def unmasked (mode mask : Nat) : Nat := mode - (mode &&& mask)

/-- Why nothing can be made at a path: the machine itself looks after what is below its first
name. -/
def sealed? (path : Path) : Option FileError :=
  if path.head? = some "proc".toList then some .missing
  else if path.head? = some "sys".toList then some .denied
  else none

/-- What stands at a path after contents were written to it: a device forgets them, and a channel
keeps all of them. -/
def refill (path : Path) (contents : Bytes) : FileEntry → Except FileError FileEntry
  | .file _ mode =>
    if (sealed? path).isSome then .error .denied else .ok (.file contents mode)
  | .channel input written => .ok (.channel input (written ++ contents))
  | .device .terminal => .error .noDevice
  | .device .full => if contents.isEmpty then .ok (.device .full) else .error .noSpace
  | .directory _ => .error .isDirectory
  | entry => .ok entry

/-- The tree in which the file at a path has these contents. -/
def writeAt (t : FileTree) (path : Path) (contents : Bytes) : Except FileError FileTree :=
  match t.at? path with
  | some entry => (refill path contents entry).map (t.put path)
  | none =>
    match t.at? path.dropLast, sealed? path with
    | some (.directory _), none => .ok (t.put path (.file contents (unmasked 0o666 t.mask)))
    | some (.directory _), some e => .error e
    | some _, _ => .error .notDirectory
    | none, _ => .error .missing

/-- Writes a file. -/
def write (t : FileTree) (spelling : Text) (contents : Bytes) : Except FileError FileTree := do
  t.writeAt (← t.resolve spelling) contents

/-- Makes a link. -/
def makeLink (t : FileTree) (spelling target : Text) : Except FileError FileTree := do
  let path ← t.resolve spelling false
  match t.at? path, t.at? path.dropLast, sealed? path with
  | some _, _, _ => throw .present
  | none, some (.directory _), none => return t.put path (.link target)
  | none, _, _ => throw .missing

/-! ## 2. Directories -/

/-- The names of a spelling before its last one, and that one; slashes at the end do not count. -/
def splitLast? (spelling : Text) : Option (List Text × Text) :=
  match (Spelling.names (Spelling.dropSlashes spelling)).reverse with
  | last :: above =>
    if Spelling.stays last || Spelling.goesUp last then none else some (above.reverse, last)
  | [] => none

/-- Makes a directory in one that is there. -/
def makeDirectory (t : FileTree) (spelling : Text) : Except FileError FileTree := do
  match if spelling.isEmpty then none else splitLast? spelling with
  | none => discard <| t.find spelling; throw .present
  | some (above, name) =>
    let parent ← t.walk true maxLinks (start t.current spelling) above
    match t.at? parent with
    | none => throw .missing
    | some (.directory _) =>
      if Spelling.maxName < Spelling.size name then throw .nameTooLong
      else if (t.at? (parent ++ [name])).isSome then throw .present
      else
        match sealed? (parent ++ [name]) with
        | some e => throw e
        | none => return t.put (parent ++ [name]) (.directory (unmasked 0o777 t.mask))
    | some _ => throw .notDirectory

/-- Makes the first directory of a row in which every one lies in the next, and before it those that
are missing.  What is made stays even if the whole fails; the error says why it does. -/
def makeRow (t : FileTree) : List Text → FileTree × Option FileError
  | [] => (t, none)
  | place :: above =>
    let accept (t : FileTree) (e : FileError) : FileTree × Option FileError :=
      (t, if t.isDirectory place then none else some e)
    match t.makeDirectory place with
    | .ok t => (t, none)
    | .error .missing =>
      match t.makeRow above with
      | (t, some e) => (t, some e)
      | (t, none) =>
        match t.makeDirectory place with
        | .ok t => (t, none)
        | .error e => accept t e
    | .error e => accept t e

/-- Makes a directory and all that are missing above it. -/
def makeDirectories (t : FileTree) (spelling : Text) : FileTree × Option FileError :=
  if spelling.isEmpty then (t, none) else t.makeRow (spelling :: Spelling.above spelling)

/-! ## 3. Places with all below them -/

/-- Whether a path leads through another one. -/
def below (path other : Path) : Bool := path.take other.length == other

/-- Takes a place away with all below it. -/
def remove (t : FileTree) (path : Path) : FileTree :=
  { t with entries := t.entries.filter fun e => !below e.1 path }

/-- Moves a place with all below it to another path, in the place of what is there. -/
def move (t : FileTree) (path target : Path) : FileTree :=
  if path = target then t
  else
    let moved := t.entries.filter fun e => below e.1 path
    { t with entries := moved.map (fun e => (target ++ e.1.drop path.length, e.2))
        ++ ((t.remove path).remove target).entries }

/-- A tree with more files, given with their spellings, and the directories they need. -/
def addFiles (t : FileTree) (files : List (Text × Bytes)) : FileTree :=
  files.foldl (fun t (name, contents) =>
    let t := match Spelling.above name with
      | [] => t
      | parent :: _ => (t.makeDirectories parent).1
    ((t.write name contents).toOption).getD t) t

/-! ## 4. Written files are there -/

/-- A file that was written holds what was written, if it is no device. -/
theorem read_of_write {t u : FileTree} {spelling : Text} {contents : Bytes} {path : Path}
    (hr : t.resolve spelling = .ok path)
    (hf : ∀ x, t.at? path = some x → ∃ bytes mode, x = .file bytes mode)
    (h : t.write spelling contents = .ok u) : u.read spelling = .ok contents := by
  have hp : path ≠ [] := by
    rintro rfl
    obtain ⟨_, _, hx⟩ := hf (.directory directoryMode) rfl
    cases hx
  have hleaf : ∀ x, t.at? path = some x → x.isLeaf = true := by
    intro x hx
    obtain ⟨_, _, rfl⟩ := hf x hx
    rfl
  have hu : ∃ mode, u = t.put path (.file contents mode) := by
    simp only [write, hr] at h
    change t.writeAt path contents = .ok u at h
    unfold writeAt at h
    split at h
    · next entry he =>
      obtain ⟨_, mode, rfl⟩ := hf entry he
      by_cases hs : (sealed? path).isSome = true
      · simp [refill, hs, Except.map] at h
      · simp only [refill, hs, Except.map, if_neg, Bool.false_eq_true, not_false_eq_true] at h
        exact ⟨mode, (Except.ok.inj h).symm⟩
    · split at h <;> cases h
      exact ⟨_, rfl⟩
  obtain ⟨mode, rfl⟩ := hu
  have hres : (t.put path (.file contents mode)).resolve spelling = .ok path := by
    unfold resolve at hr ⊢
    split at hr
    · cases hr
    · next h1 =>
      split at hr
      · cases hr
      · next h2 =>
        split at hr
        · cases hr
        · next h3 =>
          have he : (FileEntry.file contents mode).isLeaf = true := rfl
          rw [if_neg h1, if_neg h2, if_neg h3]
          exact walk_put hp hleaf he hr
  simp only [read, find, hres, at?_put t hp, bind, Except.bind, pure, Except.pure]
  rfl

end Stepwise.FileTree
