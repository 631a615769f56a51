import Stepwise.Analysis.Basic

/-!
# Statements

The nodes at statement level below a function body: statements of blocks, branches, loop bodies,
cases and handlers, but nothing inside an expression or a declaration.  A body of a branch or loop
that is no block stands bare, and a block in that place gives its statements only.

Main definitions: `Node.inner`, the statements directly below a node, and `Spot.all`, a statement
and everything at statement level below it (`Analyzer`, `walk_statement` with `walk_block`,
`walk_body` and `walk_loop_body`).
-/

namespace Stepwise.Analysis

open Syntax

/-- How a statement stands in the program. -/
inductive Stand where
  /-- In a row of statements. -/
  | plain
  /-- As the only statement of a body without braces; some loops announce their line behind it. -/
  | bare (loopBack? : Option Nat)
  deriving DecidableEq, Repr

/-- A node at statement level. -/
structure Spot where
  node : Node
  stand : Stand

end Analysis

namespace Syntax

open Analysis

/-- Whether a node of this kind gets a step. -/
def Kind.isStep : Kind → Bool
  | .expressionStatement | .declaration | .returnStatement | .ifStatement | .forStatement
  | .forRangeLoop | .whileStatement | .doStatement | .switchStatement | .breakStatement
  | .continueStatement | .compoundStatement | .tryStatement => true
  | _ => false

/-- The shape of a loop of this kind. -/
def Kind.loopKind? : Kind → Option LoopKind
  | .forStatement => some .counted
  | .forRangeLoop => some .ranged
  | .whileStatement | .doStatement => some .conditional
  | _ => none

namespace Node

/-- The line that a loop announces at the end of its body; counted loops announce theirs in the
header. -/
def loopBack? (n : Node) : Option Nat :=
  match n.kind.loopKind? with
  | some .ranged | some .conditional => some n.line
  | _ => none

/-- The statements of a block. -/
def blockSpots (block : Node) : List Spot := block.named.map fun n => ⟨n, .plain⟩

/-- The statements of the body of a branch or loop. -/
def bodySpots (loopBack? : Option Nat) (body : Node) : List Spot :=
  if body.kind = .compoundStatement then body.blockSpots else [⟨body, .bare loopBack?⟩]

/-- The branch behind `else`. -/
def branch? (alternative : Node) : Option Node :=
  if alternative.kind = .elseClause then alternative.named.getLast? else some alternative

/-- The statements behind the label of a case. -/
def caseSpots (label : Node) : List Spot :=
  (((label.children.dropWhile (·.kind ≠ .colon)).drop 1).filter (·.head.isNamed)).map
    fun n => ⟨n, .plain⟩

/-- The statements directly below a node. -/
def inner (n : Node) : List Spot :=
  match n.kind with
  | .compoundStatement => n.blockSpots
  | .ifStatement =>
    (n.child? .consequence).toList.flatMap (bodySpots none) ++
      ((n.child? .alternative).bind branch?).toList.flatMap (bodySpots none)
  | .forStatement | .forRangeLoop | .whileStatement | .doStatement =>
    (n.child? .body).toList.flatMap (bodySpots n.loopBack?)
  | .switchStatement =>
    (n.child? .body).toList.flatMap fun body =>
      (body.named.filter (·.kind = .caseStatement)).flatMap caseSpots
  | .tryStatement =>
    (n.child? .body).toList.flatMap blockSpots ++
      (n.named.filter (·.kind = .catchClause)).flatMap fun handler =>
        (handler.child? .body).toList.flatMap blockSpots
  | .labeledStatement => n.named.getLast?.toList.map fun n => ⟨n, .plain⟩
  | _ => []

/-! The statements below a node are smaller than the node. -/

theorem sizeOf_lt_of_mem_blockSpots {n : Node} {s : Spot} (h : s ∈ n.blockSpots) :
    sizeOf s.node < sizeOf n := by
  obtain ⟨c, hc, rfl⟩ := List.mem_map.1 h
  exact sizeOf_lt_of_mem_children (mem_children_of_named hc)

theorem sizeOf_le_of_mem_bodySpots {n : Node} {b : Option Nat} {s : Spot}
    (h : s ∈ n.bodySpots b) : sizeOf s.node ≤ sizeOf n := by
  unfold bodySpots at h
  split at h
  · exact Nat.le_of_lt (sizeOf_lt_of_mem_blockSpots h)
  · obtain rfl := List.mem_singleton.1 h
    exact Nat.le_refl _

theorem sizeOf_le_of_branch? {n b : Node} (h : n.branch? = some b) : sizeOf b ≤ sizeOf n := by
  unfold branch? at h
  split at h
  · exact Nat.le_of_lt (sizeOf_lt_of_mem_children
      (mem_children_of_named (List.mem_of_getLast? h)))
  · obtain rfl := Option.some.inj h
    exact Nat.le_refl _

theorem sizeOf_lt_of_mem_caseSpots {n : Node} {s : Spot} (h : s ∈ n.caseSpots) :
    sizeOf s.node < sizeOf n := by
  obtain ⟨c, hc, rfl⟩ := List.mem_map.1 h
  have hmem := (List.mem_filter.1 hc).1
  exact sizeOf_lt_of_mem_children
    ((List.dropWhile_suffix _).mem (List.mem_of_mem_drop hmem))

theorem sizeOf_lt_of_child? {n c : Node} {role : Role} (h : n.child? role = some c) :
    sizeOf c < sizeOf n := sizeOf_lt_of_mem_children (mem_children_of_child? h)

theorem sizeOf_lt_of_mem_inner {n : Node} {s : Spot} (h : s ∈ n.inner) :
    sizeOf s.node < sizeOf n := by
  unfold inner at h
  split at h
  · exact sizeOf_lt_of_mem_blockSpots h
  · rcases List.mem_append.1 h with h | h
    · obtain ⟨c, hc, hs⟩ := List.mem_flatMap.1 h
      exact Nat.lt_of_le_of_lt (sizeOf_le_of_mem_bodySpots hs)
        (sizeOf_lt_of_child? (Option.mem_toList.1 hc))
    · obtain ⟨c, hc, hs⟩ := List.mem_flatMap.1 h
      obtain ⟨a, ha, hb⟩ := Option.bind_eq_some_iff.1 (Option.mem_toList.1 hc)
      exact Nat.lt_of_le_of_lt (sizeOf_le_of_mem_bodySpots hs)
        (Nat.lt_of_le_of_lt (sizeOf_le_of_branch? hb) (sizeOf_lt_of_child? ha))
  iterate 4
    · obtain ⟨c, hc, hs⟩ := List.mem_flatMap.1 h
      exact Nat.lt_of_le_of_lt (sizeOf_le_of_mem_bodySpots hs)
        (sizeOf_lt_of_child? (Option.mem_toList.1 hc))
  · obtain ⟨c, hc, hs⟩ := List.mem_flatMap.1 h
    obtain ⟨l, hl, hs⟩ := List.mem_flatMap.1 hs
    exact Nat.lt_trans (sizeOf_lt_of_mem_caseSpots hs) (Nat.lt_trans
      (sizeOf_lt_of_mem_children (mem_children_of_named (List.mem_filter.1 hl).1))
      (sizeOf_lt_of_child? (Option.mem_toList.1 hc)))
  · rcases List.mem_append.1 h with h | h
    · obtain ⟨c, hc, hs⟩ := List.mem_flatMap.1 h
      exact Nat.lt_trans (sizeOf_lt_of_mem_blockSpots hs)
        (sizeOf_lt_of_child? (Option.mem_toList.1 hc))
    · obtain ⟨l, hl, hs⟩ := List.mem_flatMap.1 h
      obtain ⟨c, hc, hs⟩ := List.mem_flatMap.1 hs
      exact Nat.lt_trans (sizeOf_lt_of_mem_blockSpots hs) (Nat.lt_trans
        (sizeOf_lt_of_child? (Option.mem_toList.1 hc))
        (sizeOf_lt_of_mem_children (mem_children_of_named (List.mem_filter.1 hl).1)))
  · obtain ⟨c, hc, rfl⟩ := List.mem_map.1 h
    exact sizeOf_lt_of_mem_children
      (mem_children_of_named (List.mem_of_getLast? (Option.mem_toList.1 hc)))
  · cases h

end Node

end Syntax

namespace Analysis

open Syntax

/-- A statement and all statements below it, in the order of the text. -/
def Spot.all (s : Spot) : List Spot :=
  s :: s.node.inner.attach.flatMap fun t => Spot.all t.val
termination_by sizeOf s.node
decreasing_by exact Node.sizeOf_lt_of_mem_inner t.property

/-- All statements of a block. -/
def statementsOf (block : Node) : List Spot := block.blockSpots.flatMap Spot.all

end Analysis

end Stepwise
