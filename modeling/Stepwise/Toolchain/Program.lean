import Stepwise.Toolchain.Compile

/-!
# Programs as files

A program is a file that may be run.  The file of a tool holds a mark and the name of the tool; any
other file holds a script, and may begin with the program that is to carry it out.

Main definitions:

* `Program.install`: a machine with the files of tools;
* `Program.load`: what running a file means;
* `Program.search`: what a name stands for on a path.

What `load` finds in the file of a tool is the tool (`ofBytes_contents`).
-/

namespace Stepwise.Program

/-- What running a file means. -/
inductive Image where
  | tool (name : Text)
  /-- A script, and the words of the program that carries it out, if it names one. -/
  | script (interpreter : List Text) (t : Text)
  deriving DecidableEq, Repr

/-- The mark at the front of the file of a tool. -/
def mark : Bytes := [127, 69, 76, 70]

/-- The contents of the file of a tool. -/
def contents (name : Text) : Bytes := mark ++ Utf8.encode name

/-- The words of the program that a script names in its first line. -/
def interpreter (t : Text) : List Text :=
  match t with
  | '#' :: '!' :: rest =>
    (Text.fields ' ' (rest.takeWhile (· != '\n'))).filter fun w => !w.isEmpty
  | _ => []

/-- What running bytes means. -/
def Image.ofBytes (bytes : Bytes) : Image :=
  let t := Utf8.decode bytes
  if mark.isPrefixOf bytes then .tool (Utf8.decode (bytes.drop mark.length))
  else .script (interpreter t) t

/-- The file of a tool is that tool: running it reads back the name that was written. -/
theorem ofBytes_contents (name : Text) :
    Image.ofBytes (contents name) = .tool (Utf8.decode (Utf8.encode name)) := by
  have h : mark.isPrefixOf (contents name) = true := by
    rw [List.isPrefixOf_iff_prefix]
    exact List.prefix_append _ _
  simp only [Image.ofBytes, h, if_true]
  rw [contents, List.drop_left]

/-- The directory of the programs. -/
def home : Path := ["usr", "bin"]

/-- A machine with the files of tools that are not there yet. -/
def install (names : List Text) (files : FileTree) : FileTree :=
  if (files.at? (home ++ names.take 1)).isSome then files
  else
    { files with
      entries := files.entries
        ++ names.map fun name => (home ++ [name], .file (contents name) 0o755) }

/-- What running a file means, if it may be run. -/
def load (files : FileTree) (place : Text) : Except FileError Image := do
  match ← files.find place with
  | (_, .file bytes mode) =>
    if (FileEntry.file bytes mode).runs then return .ofBytes bytes else throw .denied
  | _ => throw .denied

/-- Directories in which programs are looked for, with colons between them. -/
def usualPath : Text := "/usr/local/sbin:/usr/local/bin:/usr/sbin:/usr/bin:/sbin:/bin"

/-- The places at which a program may be that is called by a name. -/
def placesOf (path name : Text) : List Text :=
  (Text.fields ':' path).map fun d => Spelling.join (if d.isEmpty then ['.'] else d) name

/-- What the name of a program stands for, and its place: the first one on the path at which there
is a program.  If there is none but something else has the name, that may not be run. -/
def search (files : FileTree) (path name : Text) : Except FileError (Image × Text) :=
  let places := placesOf path name
  match places.findSome? fun place => (load files place).toOption.map (·, place) with
  | some found => .ok found
  | none =>
    .error (if places.any fun place => (files.find place).toOption.isSome then .denied
      else .missing)

end Stepwise.Program
