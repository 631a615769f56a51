import Stepwise.Toolchain.Tool.Bracket
import Stepwise.Toolchain.Tool.Print

/-!
# Characters

`tr` replaces characters of its input or takes them away, and `od` shows the bytes of files in other
forms.

Main definitions:

* `Selection.read`: the characters of a set;
* `Dump.rows`: rows of bytes in a form.
-/

namespace Stepwise.Tool

/-! ## 1. Characters for others -/

namespace Selection

/-- The characters of a set without backslashes; those behind one have no meaning. -/
def glyphs : (fuel : Nat) → Text → List Glyph
  | 0, _ | _, [] => []
  | fuel + 1, '\\' :: c :: t =>
    let digits := Print.octalDigits 3 (c :: t)
    match if c = 'e' then none else Print.letterByte? c, digits with
    | some b, _ => { char := Char.ofNat b.toNat, quoted := true } :: glyphs fuel t
    | none, [] => { char := c, quoted := true } :: glyphs fuel t
    | none, _ =>
      { char := Char.ofNat (Print.octalValue digits % 256), quoted := true }
        :: glyphs fuel ((c :: t).drop digits.length)
  | fuel + 1, c :: t => { char := c } :: glyphs fuel t

/-- The characters of which bytes are made. -/
def alphabet : Text := (List.range 256).map Char.ofNat

/-- The characters of the parts of a set: classes, ranges and single ones. -/
def characters : (fuel : Nat) → List Glyph → Text
  | 0, _ | _, [] => []
  | fuel + 1, g :: t =>
    match Glyph.className? (g :: t), t with
    | some (name, rest), _ => alphabet.filter (inClass name) ++ characters fuel rest
    | none, dash :: last :: rest =>
      if dash.isMark '-' then
        (List.range (last.char.toNat + 1 - g.char.toNat)).map
            (fun n => Char.ofNat (g.char.toNat + n))
          ++ characters fuel rest
      else g.char :: characters fuel t
    | none, t => g.char :: characters fuel t

/-- The characters of a set. -/
def read (t : Text) : Text :=
  let glyphs := glyphs t.length (bytewise t)
  characters glyphs.length glyphs

end Selection

/-- Text in which no two of some characters that are alike stand together. -/
def squeeze (isMeant : Char → Bool) : Text → Text
  | [] => []
  | c :: t =>
    match squeeze isMeant t with
    | d :: rest => if c = d && isMeant c then d :: rest else c :: d :: rest
    | [] => [c]

/-- Nothing is left to squeeze in what was squeezed. -/
theorem squeeze_squeeze (isMeant : Char → Bool) (t : Text) :
    squeeze isMeant (squeeze isMeant t) = squeeze isMeant t := by
  induction t with
  | nil => rfl
  | cons c t ih =>
    rw [squeeze]
    cases h : squeeze isMeant t with
    | nil => rfl
    | cons d rest =>
      rw [h] at ih
      dsimp only
      split
      · exact ih
      · next hc => rw [squeeze, ih]; simp only [hc, Bool.false_eq_true, if_false]

/-- A text with the characters of a row for those of another one; the last one stands for all that
are left over. -/
def translated (sources targets t : Text) : Text :=
  let pairs := (sources.zip (targets ++ List.replicate (sources.length - targets.length)
    (targets.getLastD ' '))).reverse
  t.map fun c => (pairs.lookup c).getD c

/-- `tr`: characters for others, or away. -/
def tr : Action := withOptions { letters := "cCds", mixed := false } fun a call files =>
  let listed := Selection.read (a.operands.headD [])
  let targets := Selection.read (a.operands.getD 1 [])
  let isSource (c : Char) : Bool := listed.contains c != (a.has 'c' || a.has 'C')
  let sources := if a.has 'c' || a.has 'C' then Selection.alphabet.filter isSource else listed
  let t := narrow call.input
  let done (t : Text) : Finish := { said files (widen t) with reads := true }
  match a.operands with
  | [] => misused call files 1 "missing operand"
  | [only] =>
    if a.has 'd' then done (t.filter (!isSource ·))
    else if a.has 's' then done (squeeze isSource t)
    else misused call files 1 ("missing operand after " ++ quoted only
      ++ "\nTwo strings must be given when translating.")
  | _ =>
    let t := if a.has 'd' then t.filter (!isSource ·) else translated sources targets t
    done (if a.has 's' then squeeze targets.contains t else t)

/-! ## 2. Bytes as numbers -/

namespace Dump

/-- A form in which bytes are shown: so many at a time in columns of a width. -/
structure Form where
  size : Nat
  width : Nat
  text : Bytes → Text

/-- A number with zeros in front. -/
def padded (width radix n : Nat) : Text :=
  let t := Text.digits radix n
  List.replicate (width - t.length) '0' ++ t

/-- A byte as a character or an escape. -/
def charText (b : UInt8) : Text :=
  match "abtnvfr".toList.find? fun c => Print.letterByte? c == some b with
  | some c => ['\\', c]
  | none =>
    if b = 0 then ['\\', '0'] else if 32 ≤ b ∧ b < 127 then [Char.ofNat b.toNat]
    else padded 3 8 b.toNat

/-- Bytes as one number, the low byte first. -/
def wordOf (bytes : Bytes) : Nat := bytes.foldr (fun b n => b.toNat + 256 * n) 0

/-- The form that a text asks for. -/
def form? (t : Text) : Option Form :=
  let numbers (size width radix : Nat) (zeros : Bool) : Option Form :=
    some { size, width, text := fun bytes => padded (if zeros then width else 0) radix (wordOf bytes) }
  match String.ofList t with
  | "c" => some { size := 1, width := 3, text := fun bytes => bytes.flatMap charText }
  | "x1" => numbers 1 2 16 true
  | "x2" | "x" => numbers 2 4 16 true
  | "o1" => numbers 1 3 8 true
  | "o2" | "o" => numbers 2 6 8 true
  | "u1" => numbers 1 3 10 false
  | "u2" => numbers 2 5 10 false
  | _ => none

/-- Bytes in groups of a size. -/
def groups (size : Nat) : (fuel : Nat) → Bytes → List Bytes
  | 0, _ | _, [] => []
  | fuel + 1, bytes => bytes.take size :: groups size fuel (bytes.drop size)

/-- Rows of sixteen bytes in a form, with the places at which they stand, and the place behind
them. -/
def rows (form : Form) (address : Nat → Text) (bytes : Bytes) : Text :=
  let row (offset : Nat) (bytes : Bytes) : Text :=
    let columns := (groups form.size bytes.length bytes).map fun bytes =>
      ' ' :: Text.padLeft form.width (form.text bytes)
    address offset ++ columns.flatten ++ ['\n']
  let last := address bytes.length
  ((groups 16 bytes.length bytes).zipIdx.flatMap fun (bytes, n) => row (16 * n) bytes)
    ++ if last.isEmpty then [] else last ++ ['\n']

end Dump

/-- `od`: bytes in other forms. -/
def od : Action := withOptions { letters := "A:N:bcj:t:x" } fun a call files =>
  let address (n : Nat) : Text :=
    match String.ofList ((a.value? 'A').getD ['o']) with
    | "n" => []
    | "d" => Dump.padded 7 10 n
    | "x" => Dump.padded 6 16 n
    | _ => Dump.padded 7 8 n
  let short : Text := if a.has 'c' then "c" else if a.has 'x' then "x2"
    else if a.has 'b' then "o1" else "o2"
  match Dump.form? ((a.value? 't').getD short) with
  | none => refused files 1 (call.name ++ ": invalid type string " ++ quoted ((a.value? 't').getD []))
  | some form =>
    whole (fun bytes =>
      let bytes := bytes.drop ((a.number? 'j').getD 0)
      widen (Dump.rows form address (((a.number? 'N').map bytes.take).getD bytes)))
      a.operands call files

end Stepwise.Tool
