import Stepwise.Json.Decode
import Stepwise.Syntax.Node

/-!
# Trees as JSON

A flat tree is written as an array of rows, each of them an array of its depth, its kind, its role,
its flags, the first byte, the byte behind the last one, and the line.  The lowest bit of the flags
tells a grammar rule from a bare token, the next one marks a fault.
-/

/-!
## 1. Flat trees

A parser may hand a tree over as the list of its nodes in the order of the text, each with its
depth.  The children of a row are the rows behind it that are one level deeper, up to the next row
that is not deeper.
-/

namespace Stepwise.Syntax

/-- A node in a flat tree. -/
structure Row where
  /-- The number of nodes above it. -/
  depth : Nat
  /-- The node itself. -/
  head : Head

/-- The trees of a flat list, each with the depth of its root. -/
def forest : List Row → List (Nat × Node)
  | [] => []
  | row :: rows =>
    let behind := forest rows
    let below := behind.takeWhile (row.depth < ·.1)
    (row.depth, .mk row.head (below.map Prod.snd)) :: behind.dropWhile (row.depth < ·.1)

/-- The tree of a flat list. -/
def Node.ofRows? (rows : List Row) : Option Node := (forest rows).head?.map Prod.snd

/-! ## 2. Reading them -/

/-- Numbers in a row are 64-bit numbers. -/
def rowBound : Nat := UInt64.size

/-- The row that a value describes. -/
def Row.ofJson? : Json → Option Row
  | .array [depth, .string kind, .string role, flags, start, stop, line] => do
    let flags ← flags.nat? rowBound
    return {
      depth := ← depth.nat? rowBound
      head := {
        kind := .ofName kind
        role := .ofName role
        isNamed := flags % 2 = 1
        hasError := flags / 2 % 2 = 1
        span := ⟨← start.nat? rowBound, ← stop.nat? rowBound⟩
        row := ← line.nat? rowBound } }
  | _ => none

/-- The tree that a value describes. -/
def Node.ofJson? (x : Json) : Option Node := (Json.list? Row.ofJson? x).bind Node.ofRows?

/-- The tree of a program that holds nothing. -/
def Node.empty : Node := .mk ⟨.other [], .none, true, false, ⟨0, 0⟩, 0⟩ []

end Stepwise.Syntax
