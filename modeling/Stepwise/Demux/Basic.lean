import Stepwise.Record.Basic
import Stepwise.TestOutcome

/-!
# Taking the stream apart

The stream of a program holds its own output and the dumps for the debugger.  It arrives in chunks
of any size.  A demultiplexer keeps the unfinished line between chunks, sends finished lines to the
output or into the open block of a dump, and reports every block that is closed.

Outside of a block text is let through as soon as it cannot be the beginning of a marker any more,
so a prompt without newline is seen at once.  A block may open behind output that the program left
on the line.

Main definitions, each with the function of `OutputDemux` that it stands for:

* `Block.readLine`: what one finished line does (`process_line`, and `split_block_start` for
  `Block.opening?`);
* `splitHeld`: how much of an unfinished line is let through (`held_from`);
* `Demux.feed`, `Demux.flush`: a chunk of the stream, and its end (`feed`, `flush`).
-/

namespace Stepwise

/-- What a piece of the stream yields. -/
structure Output where
  /-- Text for the console. -/
  text : Text := []
  /-- The last variable block that was closed. -/
  records : Option (List Record) := none
  /-- The last stack block that was closed. -/
  stack : Option (List Text) := none
  /-- The tests reported in the console text. -/
  tests : List TestOutcome := []
  deriving DecidableEq, Repr

namespace Output

/-- What two pieces yield one after the other: of each kind of block only the last one. -/
def append (a b : Output) : Output where
  text := a.text ++ b.text
  records := b.records <|> a.records
  stack := b.stack <|> a.stack
  tests := a.tests ++ b.tests

instance : Append Output := ⟨append⟩

/-- Whether nothing can be seen of the piece. -/
def isEmpty (o : Output) : Bool :=
  o.text.isEmpty && o.records.isNone && o.stack.isNone && o.tests.isEmpty

end Output

/-- The block that is open at some point of the stream, with its contents so far. -/
inductive Block where
  | outside
  | vars (records : List Record)
  | stack (frames : List Text)
  deriving DecidableEq, Repr

namespace Block

/-- The block that a line opens, and the output before its sentinel. -/
def opening? (content : Text) : Option (Text × Block) :=
  let content := content.trimEnd
  match Text.before? Sentinel.varsStart.text content with
  | some head => some (head, .vars [])
  | none =>
    match Text.before? Sentinel.stackStart.text content with
    | some head => some (head, .stack [])
    | none => none

/-- A line outside of blocks.  If part of it was let through already, blanks before a sentinel
belong to the output and the closing sentinels are nothing special. -/
def readOutside (released : Bool) (line : Text) : Block × Output :=
  let content := Text.dropReturn line
  match opening? content with
  | some (head, block) => (block, { text := if released || !Text.blank head then head else [] })
  | none =>
    let sentinel := Sentinel.ofText? content.trim
    if !released && (sentinel = some .varsEnd || sentinel = some .stackEnd) then (.outside, {})
    else
      (.outside, { text := line ++ ['\n'], tests := (TestOutcome.ofLine? content).toList })

/-- A line inside the variable block. -/
def readVariable (records : List Record) (line : Text) : Block × Output :=
  let content := Text.dropReturn line
  match Sentinel.ofText? content.trim with
  | some .varsEnd => (.outside, { records := some records })
  | some .stackEnd => (.outside, {})
  | some .varsStart => (.vars [], {})
  | some .stackStart => (.stack [], {})
  | none =>
    if Text.blank content then (.vars records, {})
    else (.vars (records ++ [Record.ofLineLossy content]), {})

/-- A line inside the stack block. -/
def readFrame (frames : List Text) (line : Text) : Block × Output :=
  let content := Text.dropReturn line
  match Sentinel.ofText? content.trim with
  | some .stackEnd => (.outside, { stack := some frames })
  | some .varsEnd => (.outside, {})
  | some .varsStart => (.vars [], {})
  | some .stackStart => (.stack [], {})
  | none =>
    if Text.blank content then (.stack frames, {})
    else (.stack (frames ++ [content.trim]), {})

/-- What a finished line does.  `released` says that the part of it before the text given here was
let through already. -/
def readLine (block : Block) (released : Bool) (line : Text) : Block × Output :=
  match block with
  | .outside => readOutside released line
  | .vars records => readVariable records line
  | .stack frames => readFrame frames line

/-- Whether a block is open. -/
def isOpen : Block → Bool
  | .outside => false
  | _ => true

end Block

/-- Whether the text is the beginning of a marker or begins with one. -/
def mayBeMarker (t : Text) : Bool :=
  markers.any fun mark => (Text.after? t mark).isSome || (Text.after? mark t).isSome

/-- The part of an unfinished line that is let through, and the part that is held back. -/
def splitHeld : Text → Text × Text
  | [] => ([], [])
  | c :: t =>
    if c = '[' && mayBeMarker (c :: t) then ([], c :: t)
    else
      match splitHeld t with
      | (free, held) => (c :: free, held)

/-- A demultiplexer between two chunks. -/
structure Demux where
  /-- The part of the unfinished line that is held back. -/
  pending : Text := []
  /-- Whether part of the unfinished line was let through. -/
  released : Bool := false
  /-- The open block. -/
  block : Block := .outside
  deriving DecidableEq, Repr

namespace Demux

/-- Forgets what is buffered. -/
def reset (d : Demux) : Demux := { d with pending := [], released := false, block := .outside }

/-- Whether a block is open. -/
def inBlock (d : Demux) : Bool := d.block.isOpen

/-- The rest of the current line up to its newline. -/
def finishLine (d : Demux) (line : Text) : Demux × Output :=
  match d.block.readLine d.released (d.pending ++ line) with
  | (block, out) => ({ block }, out)

/-- Several finished lines in turn. -/
def finishLines (d : Demux) : List Text → Demux × Output
  | [] => (d, {})
  | line :: lines =>
    match d.finishLine line with
    | (d, out) =>
      match d.finishLines lines with
      | (d, more) => (d, out ++ more)

/-- Lets through what is held back without need. -/
def release (d : Demux) : Demux × Output :=
  if d.inBlock then (d, {})
  else
    match splitHeld d.pending with
    | ([], _) => (d, {})
    | (free, held) => ({ d with pending := held, released := true }, { text := free })

/-- A chunk of the stream. -/
def feed (d : Demux) (chunk : Text) : Demux × Output :=
  match Text.breakLines chunk with
  | (lines, rest) =>
    match d.finishLines lines with
    | (d, out) =>
      match release { d with pending := d.pending ++ rest } with
      | (d, more) => (d, out ++ more)

/-- The end of the stream: an unfinished line is output, an unfinished block is dropped. -/
def flush (d : Demux) : Demux × Output :=
  match d.block with
  | .outside =>
    ({}, { text := d.pending, tests := (TestOutcome.ofLine? d.pending).toList })
  | _ => ({}, {})

end Demux

end Stepwise
