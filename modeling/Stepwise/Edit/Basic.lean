import Stepwise.Fault

/-!
# Edits

An edit replaces a range of a source by some text; an insertion replaces the empty range.  An edit
set holds edits that do not overlap, by offset.  Insertions at one offset stand in falling
priority, and among equals in the order in which they came.

Main definition: `EditSet.add` (`SourceModifications`, `add_modification`), which refuses an edit
that clashes with one of the set.
-/

namespace Stepwise

/-- The text that an edit puts in. -/
inductive EditContent where
  /-- A text as it is. -/
  | plain (text : Text)
  /-- The announcement of a step. -/
  | step (line : Nat)
  /-- The tracker of a variable. -/
  | tracker (name : Text)
  deriving DecidableEq, Repr

/-- A change of a source. -/
structure Edit where
  /-- Where the replaced range starts. -/
  start : Nat
  /-- Where it ends. -/
  stop : Nat
  /-- Of two insertions at one offset the one of higher priority comes first. -/
  priority : Nat
  /-- What is put in. -/
  content : EditContent
  deriving DecidableEq, Repr

namespace Edit

/-- An insertion. -/
def insertion (offset priority : Nat) (content : EditContent) : Edit :=
  { start := offset, stop := offset, priority, content }

/-- Puts an edit in front of the first one of lower priority. -/
def place (e : Edit) : List Edit → List Edit
  | [] => [e]
  | f :: fs => if f.priority < e.priority then e :: f :: fs else f :: place e fs

end Edit

/-- The edits of one offset. -/
structure EditSite where
  /-- The offset. -/
  offset : Nat
  /-- The edits in the order in which their texts are put in. -/
  edits : List Edit
  deriving DecidableEq, Repr

/-- Edits by ascending offset. -/
structure EditSet where
  /-- The edits of every offset that has one. -/
  sites : List EditSite := []
  deriving DecidableEq, Repr

namespace EditSet

/-- The number of edited offsets. -/
def size (s : EditSet) : Nat := s.sites.length

/-- Whether there is no edit. -/
def isEmpty (s : EditSet) : Bool := s.sites.isEmpty

/-- Adds an edit.  It may not start inside of the range of an edit in front of it, and its own
range may not reach behind the start of the next one; at one offset only insertions go
together. -/
def add (s : EditSet) (e : Edit) : Except Fault EditSet :=
  let before := s.sites.takeWhile (·.offset < e.start)
  let behind := s.sites.dropWhile (·.offset < e.start)
  if before.getLast?.any fun site => site.edits.any (e.start < ·.stop) then
    .error (.conflict e.start)
  else
    match behind with
    | [] => .ok ⟨before ++ [⟨e.start, [e]⟩]⟩
    | site :: sites =>
      if site.offset = e.start then
        if e.stop ≠ e.start ∨ site.edits.any (·.stop ≠ e.start) then .error (.conflict e.start)
        else .ok ⟨before ++ ⟨e.start, e.place site.edits⟩ :: sites⟩
      else if site.offset < e.stop then .error (.conflict e.start)
      else .ok ⟨before ++ ⟨e.start, [e]⟩ :: site :: sites⟩

/-- Adds edits in turn up to the first one that clashes. -/
def addAll (s : EditSet) (edits : List Edit) : Except Fault EditSet := edits.foldlM add s

end EditSet

end Stepwise
