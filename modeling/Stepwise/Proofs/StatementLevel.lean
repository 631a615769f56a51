import Stepwise.Proofs.Announcements

/-!
# Statement level

Which nodes of a function are statements is told by the way down to them: through the children of a
block, the branches of an `if`, the body of a loop, what stands behind the label of a case, the
blocks of a `try` and of its handlers, and what a label marks.  There is no way through an
expression, a declaration or a lambda.  The walk over a function finds exactly these nodes, and the
statement steps of an analysis are one for each offset at which one of them starts that has a step.

A block that is a body gives its statements a place and is none itself, and since a parser puts
something before every body and behind every opening brace, no other statement starts where such a
block does.

Main definitions and statements:

* `Node.AtLevel`: the way down from the body of a function;
* `Definition.exists_mem_spots_iff`: the walk finds the nodes at statement level;
* `statementSteps_ofTree`: the statement steps of an analysis.
-/

namespace Stepwise

namespace Syntax

/-- What a node on the way down to a statement is. -/
inductive Level where
  /-- A row of statements. -/
  | row
  /-- The body of a branch or loop. -/
  | body
  /-- A label of a switch with the statements behind it. -/
  | label
  /-- A statement. -/
  | statement
  deriving DecidableEq, Repr

namespace Node

open Analysis

/-! ## 1. The way down -/

/-- The way down from the body of a function to its statements. -/
inductive AtLevel (block : Node) : Level → Node → Prop
  /-- The body of a function is a row of statements. -/
  | function : AtLevel block .row block
  /-- A named child of a row is a statement. -/
  | child {row n : Node} : AtLevel block .row row → n ∈ row.named → AtLevel block .statement n
  /-- A block among statements is a row of its own. -/
  | block {n : Node} : AtLevel block .statement n → n.kind = .compoundStatement →
      AtLevel block .row n
  /-- What is done if a condition holds. -/
  | consequence {n b : Node} : AtLevel block .statement n → n.kind = .ifStatement →
      n.child? .consequence = some b → AtLevel block .body b
  /-- What is done if it does not, without an else clause around it. -/
  | alternative {n b : Node} : AtLevel block .statement n → n.kind = .ifStatement →
      n.child? .alternative = some b → b.kind ≠ .elseClause → AtLevel block .body b
  /-- The last named child of an else clause. -/
  | elseClause {n clause b : Node} : AtLevel block .statement n → n.kind = .ifStatement →
      n.child? .alternative = some clause → clause.kind = .elseClause →
      clause.named.getLast? = some b → AtLevel block .body b
  /-- What a loop of any kind repeats. -/
  | loop {n b : Node} : AtLevel block .statement n →
      n.kind ∈ [.forStatement, .forRangeLoop, .whileStatement, .doStatement] →
      n.child? .body = some b → AtLevel block .body b
  /-- A body that is a block is a row of statements. -/
  | braced {b : Node} : AtLevel block .body b → b.kind = .compoundStatement → AtLevel block .row b
  /-- A body that is no block is a statement. -/
  | bare {b : Node} : AtLevel block .body b → b.kind ≠ .compoundStatement →
      AtLevel block .statement b
  /-- The cases of a switch. -/
  | case {n body label : Node} : AtLevel block .statement n → n.kind = .switchStatement →
      n.child? .body = some body → label ∈ body.named → label.kind = .caseStatement →
      AtLevel block .label label
  /-- The named children behind the first colon of a case are statements. -/
  | behindColon {label colon n : Node} {front back : List Node} : AtLevel block .label label →
      label.children = front ++ colon :: back → (∀ c ∈ front, c.kind ≠ .colon) →
      colon.kind = .colon → n ∈ back → n.head.isNamed → AtLevel block .statement n
  /-- What is tried. -/
  | tried {n b : Node} : AtLevel block .statement n → n.kind = .tryStatement →
      n.child? .body = some b → AtLevel block .row b
  /-- What a handler does. -/
  | handler {n handler b : Node} : AtLevel block .statement n → n.kind = .tryStatement →
      handler ∈ n.named → handler.kind = .catchClause → handler.child? .body = some b →
      AtLevel block .row b
  /-- What a label marks. -/
  | labeled {n m : Node} : AtLevel block .statement n → n.kind = .labeledStatement →
      n.named.getLast? = some m → AtLevel block .statement m

/-- The statements of a case are the named children behind its first colon. -/
theorem mem_caseSpots_iff {label : Node} {s : Spot} :
    s ∈ label.caseSpots ↔ ∃ front colon back, label.children = front ++ colon :: back ∧
      (∀ c ∈ front, c.kind ≠ .colon) ∧ colon.kind = .colon ∧ s.node ∈ back ∧ s.node.head.isNamed ∧
      s = ⟨s.node, .plain⟩ := by
  have hsplit : ∀ {front back : List Node} {colon : Node},
      label.children = front ++ colon :: back → (∀ c ∈ front, c.kind ≠ .colon) →
      colon.kind = .colon → (label.children.dropWhile (·.kind ≠ .colon)).drop 1 = back := by
    intro front back colon hchildren hfront hcolon
    rw [hchildren, List.dropWhile_append_of_pos fun c hc => by simpa using hfront c hc,
      List.dropWhile_cons_of_neg (by simp [hcolon]), List.drop_one, List.tail_cons]
  rw [caseSpots, List.mem_map]
  constructor
  · rintro ⟨n, hn, rfl⟩
    obtain ⟨hback, hnamed⟩ := List.mem_filter.1 hn
    cases hrest : label.children.dropWhile (·.kind ≠ .colon) with
    | nil =>
      rw [hrest] at hback
      cases hback
    | cons colon back =>
      rw [hrest, List.drop_one, List.tail_cons] at hback
      refine ⟨label.children.takeWhile (·.kind ≠ .colon), colon, back, ?_, ?_, ?_, hback, hnamed,
        rfl⟩
      · rw [← hrest, List.takeWhile_append_dropWhile]
      · exact fun c hc => by simpa using List.mem_takeWhile_imp hc
      · have hcolon := List.head?_dropWhile_not (fun n : Node => decide (n.kind ≠ .colon))
          label.children
        rw [hrest] at hcolon
        simpa using hcolon
  · rintro ⟨front, colon, back, hchildren, hfront, hcolon, hback, hnamed, hplain⟩
    rw [hsplit hchildren hfront hcolon]
    exact ⟨s.node, List.mem_filter.2 ⟨hback, hnamed⟩, hplain.symm⟩

/-- What stands directly below a statement is a statement. -/
theorem AtLevel.of_mem_inner {block n : Node} (h : block.AtLevel .statement n) {s : Spot}
    (hs : s ∈ n.inner) : block.AtLevel .statement s.node := by
  have hrow : ∀ {r : Node}, block.AtLevel .row r → ∀ t ∈ r.blockSpots,
      block.AtLevel .statement t.node := by
    intro r hr t ht
    obtain ⟨c, hc, rfl⟩ := List.mem_map.1 ht
    exact hr.child hc
  have hbody : ∀ {b : Node} {loopBack? : Option Nat}, block.AtLevel .body b →
      ∀ t ∈ b.bodySpots loopBack?, block.AtLevel .statement t.node := by
    intro b loopBack? hb t ht
    rw [bodySpots] at ht
    split at ht
    · next hkind => exact hrow (hb.braced hkind) t ht
    · next hkind =>
      obtain rfl := List.mem_singleton.1 ht
      exact hb.bare hkind
  cases mem_inner_iff.1 hs with
  | row hkind hs => exact hrow (h.block hkind) s hs
  | consequence hkind hb hs => exact hbody (h.consequence hkind hb) s hs
  | alternative hkind ha hb hs =>
    rw [branch?] at hb
    split at hb
    · next hclause => exact hbody (h.elseClause hkind ha hclause hb) s hs
    · next hclause =>
      obtain rfl := Option.some.inj hb
      exact hbody (h.alternative hkind ha hclause) s hs
  | loop hkind hb hs => exact hbody (h.loop hkind hb) s hs
  | case hkind hb hlabel hcase hs =>
    obtain ⟨front, colon, back, hchildren, hfront, hcolon, hback, hnamed, -⟩ :=
      mem_caseSpots_iff.1 hs
    exact (h.case hkind hb hlabel hcase).behindColon hchildren hfront hcolon hback hnamed
  | tried hkind hb hs => exact hrow (h.tried hkind hb) s hs
  | handler hkind hhandler hcatch hb hs => exact hrow (h.handler hkind hhandler hcatch hb) s hs
  | labeled hkind hm hs =>
    rw [hs]
    exact h.labeled hkind hm

/-- What is to be found of a node on the way down: the statement itself, or the statements that it
gives a place. -/
def Level.Found (spots : List Spot) : Level → Node → Prop
  | .row, n => ∀ s ∈ n.blockSpots, s ∈ spots
  | .body, n => ∃ loopBack?, ∀ s ∈ n.bodySpots loopBack?, s ∈ spots
  | .label, n => ∀ s ∈ n.caseSpots, s ∈ spots
  | .statement, n => ∃ s ∈ spots, s.node = n

/-- Every node on the way down is found, if the statements of the body are found and those directly
below each statement that is found. -/
theorem AtLevel.found {block n : Node} {level : Level} {spots : List Spot}
    (hblock : ∀ s ∈ block.blockSpots, s ∈ spots)
    (hinner : ∀ s ∈ spots, ∀ t ∈ s.node.inner, t ∈ spots) (h : block.AtLevel level n) :
    Level.Found spots level n := by
  have hbelow : ∀ {n : Node}, (∃ s ∈ spots, s.node = n) → ∀ t, n.Inner t → t ∈ spots := by
    rintro n ⟨s, hs, rfl⟩ t ht
    exact hinner s hs t (mem_inner_iff.2 ht)
  induction h with
  | function => exact hblock
  | child _ hn ih => exact ⟨_, ih _ (List.mem_map_of_mem hn), rfl⟩
  | block _ hkind ih => exact fun t ht => hbelow ih t (.row hkind ht)
  | consequence _ hkind hb ih => exact ⟨_, fun t ht => hbelow ih t (.consequence hkind hb ht)⟩
  | alternative _ hkind hb hclause ih =>
    exact ⟨_, fun t ht => hbelow ih t (.alternative hkind hb (if_neg hclause) ht)⟩
  | elseClause _ hkind ha hclause hb ih =>
    exact ⟨_, fun t ht => hbelow ih t (.alternative hkind ha ((if_pos hclause).trans hb) ht)⟩
  | loop _ hkind hb ih => exact ⟨_, fun t ht => hbelow ih t (.loop hkind hb ht)⟩
  | braced _ hkind ih =>
    obtain ⟨loopBack?, ih⟩ := ih
    exact fun t ht => ih t (by simpa [bodySpots, hkind] using ht)
  | bare _ hkind ih =>
    obtain ⟨loopBack?, ih⟩ := ih
    exact ⟨_, ih _ (by rw [bodySpots, if_neg hkind]; exact List.mem_singleton_self _), rfl⟩
  | case _ hkind hb hlabel hcase ih =>
    exact fun t ht => hbelow ih t (.case hkind hb hlabel hcase ht)
  | behindColon _ hchildren hfront hcolon hback hnamed ih =>
    exact ⟨⟨_, .plain⟩, ih _ (mem_caseSpots_iff.2
      ⟨_, _, _, hchildren, hfront, hcolon, hback, hnamed, rfl⟩), rfl⟩
  | tried _ hkind hb ih => exact fun t ht => hbelow ih t (.tried hkind hb ht)
  | handler _ hkind hhandler hcatch hb ih =>
    exact fun t ht => hbelow ih t (.handler hkind hhandler hcatch hb ht)
  | labeled _ hkind hm ih => exact ⟨_, hbelow ih _ (.labeled hkind hm rfl), rfl⟩

/-! ## 2. Where the nodes of a tree lie -/

theorem sizeOf_le_of_mem_descendants {m n : Node} (h : m ∈ n.descendants) : sizeOf m ≤ sizeOf n :=
  descendants_induction (P := fun m => sizeOf m ≤ sizeOf n)
    (fun _ hm _ hc => (Nat.le_of_lt (sizeOf_lt_of_mem_children hc)).trans hm) (Nat.le_refl _) m h

theorem exists_parent_of_mem_descendants {m n : Node} (h : m ∈ n.descendants) :
    m = n ∨ ∃ p ∈ n.descendants, m ∈ p.children := by
  refine (descendants_induction (P := fun m => m ∈ n.descendants ∧
    (m = n ∨ ∃ p ∈ n.descendants, m ∈ p.children)) (fun m hm c hc => ?_)
    ⟨mem_descendants_self n, .inl rfl⟩ m h).2
  exact ⟨mem_descendants_of_mem_children hm.1 hc, .inr ⟨m, hm.1, hc⟩⟩

/-- One of two nodes of a tree is below the other one, or they are apart. -/
theorem Parsed.nested_or_apart {source : Text} {root m n : Node} (h : root.Parsed source)
    (hm : m ∈ root.descendants) (hn : n ∈ root.descendants) :
    m ∈ n.descendants ∨ n ∈ m.descendants ∨ m.Apart n := by
  induction root using induction_on_children with
  | h root ih =>
    rcases mem_descendants.1 hm with rfl | ⟨c, hc, hmc⟩
    · exact .inr (.inl hn)
    rcases mem_descendants.1 hn with rfl | ⟨c', hc', hnc⟩
    · exact .inl hm
    have hsub : ∀ c ∈ root.children, c.Parsed source := fun c hc =>
      h.of_mem (mem_descendants_of_mem_children (mem_descendants_self root) hc)
    rcases h.eq_or_apart hc hc' with rfl | hapart
    · exact ih c hc (hsub c hc) hmc hnc
    · exact .inr (.inr (hapart.of_inside ((hsub c hc).inside_of_mem hmc)
        ((hsub c' hc').inside_of_mem hnc)))

/-- A node that is not empty is a child of one node only. -/
theorem Parsed.parent_unique {source : Text} {root n p q : Node} (h : root.Parsed source)
    (hp : p ∈ root.descendants) (hq : q ∈ root.descendants) (hnp : n ∈ p.children)
    (hnq : n ∈ q.children) (hn : n.start < n.stop) : p = q := by
  -- a parent that is below the other one would be below the node itself
  have hbelow : ∀ {p q : Node}, q ∈ root.descendants → n ∈ p.children → n ∈ q.children →
      p ∈ q.descendants → p = q := by
    intro p q hq hnp hnq hpq
    refine (mem_descendants.1 hpq).resolve_right ?_
    rintro ⟨c, hc, hpc⟩
    rcases (h.of_mem hq).eq_or_apart hnq hc with rfl | hapart
    · have := sizeOf_le_of_mem_descendants hpc
      have := sizeOf_lt_of_mem_children hnp
      omega
    · have hchild := (h.of_mem hq).of_mem
        (mem_descendants_of_mem_children (mem_descendants_self q) hc)
      have := hchild.inside_of_mem (mem_descendants_of_mem_children hpc hnp)
      rw [Apart] at hapart
      omega
  rcases h.nested_or_apart hp hq with hpq | hqp | hapart
  · exact hbelow hq hnp hnq hpq
  · exact (hbelow hp hnq hnp hqp).symm
  · have := h.inside p hp n hnp
    have := h.inside q hq n hnq
    rw [Apart] at hapart
    omega

/-- What is below a sound block and starts where it does is the block or its opening brace. -/
theorem Parsed.eq_or_openBrace {source : Text} {root b n : Node} (h : root.Parsed source)
    (hb : b ∈ root.descendants) (hkind : b.kind = .compoundStatement)
    (hsound : b.head.hasError = false)
    (htokens : ∀ n ∈ root.descendants, n.kind = .openBrace → n.children = [])
    (hn : n ∈ b.descendants) (hstart : n.start = b.start) : n = b ∨ n.kind = .openBrace := by
  obtain ⟨opening, inner, closing, hchildren, ⟨hopening, -, hstop⟩, -⟩ :=
    h.exists_braces hb hkind hsound
  refine (mem_descendants.1 hn).imp_right ?_
  rintro ⟨c, hc, hnc⟩
  have hcmem := mem_descendants_of_mem_children hb hc
  have hinside := (h.of_mem hcmem).inside_of_mem hnc
  have hordered := h.ordered b hb
  rw [hchildren] at hc hordered
  rcases List.mem_cons.1 hc with rfl | hc
  · rcases mem_descendants.1 hnc with rfl | ⟨t, ht, -⟩
    · exact hopening
    · rw [htokens c hcmem hopening] at ht
      cases ht
  · have := (List.pairwise_cons.1 hordered).1 c hc
    omega

/-- A sound block is not empty. -/
theorem Parsed.start_lt_stop {source : Text} {root b : Node} (h : root.Parsed source)
    (hb : b ∈ root.descendants) (hkind : b.kind = .compoundStatement)
    (hsound : b.head.hasError = false) : b.start < b.stop := by
  obtain ⟨opening, inner, closing, hchildren, ⟨-, hstart, hstop⟩, -⟩ :=
    h.exists_braces hb hkind hsound
  have := h.inside b hb opening (by simp [hchildren])
  omega

/-! ## 3. Blocks that are bodies -/

/-- The block is the body of a function, of a branch or loop, of a try statement or of a handler. -/
def IsBlockOf (b owner : Node) : Prop :=
  b.kind = .compoundStatement ∧
    (b ∈ owner.bodies ∨
      owner.kind ∈ [.functionDefinition, .tryStatement, .catchClause] ∧
        owner.child? .body = some b)

/-- What the grammar promises of blocks, and of statements that have a step. -/
structure Blocked (root : Node) : Prop where
  /-- The body of a function, of a try statement or of a handler stands behind something. -/
  led : ∀ n ∈ root.descendants, n.head.hasError = false →
    n.kind ∈ [.functionDefinition, .tryStatement, .catchClause] →
    ∀ body ∈ n.child? .body, n.start < body.start
  /-- An opening brace is a token. -/
  tokens : ∀ n ∈ root.descendants, n.kind = .openBrace → n.children = []
  /-- A statement that has a step is not empty. -/
  filled : ∀ n ∈ root.descendants, n.head.hasError = false → n.kind.isStep → n.start < n.stop

instance (root : Node) : Decidable root.Blocked :=
  decidable_of_iff
    ((∀ n ∈ root.descendants, n.head.hasError = false →
        n.kind ∈ [.functionDefinition, .tryStatement, .catchClause] →
        ∀ body ∈ n.child? .body, n.start < body.start) ∧
      (∀ n ∈ root.descendants, n.kind = .openBrace → n.children = []) ∧
      ∀ n ∈ root.descendants, n.head.hasError = false → n.kind.isStep → n.start < n.stop)
    ⟨fun ⟨hled, htokens, hfilled⟩ => ⟨hled, htokens, hfilled⟩,
      fun h => ⟨h.led, h.tokens, h.filled⟩⟩

/-- A block that is a body is a child of its owner or of an else clause of it, but of no row of
statements. -/
theorem IsBlockOf.exists_parent {b owner : Node} (h : b.IsBlockOf owner) :
    ∃ p, b ∈ p.children ∧ (p = owner ∨ p ∈ owner.children ∧ p.kind = .elseClause) ∧
      p.kind ∉ [.compoundStatement, .caseStatement, .labeledStatement] := by
  rcases h.2 with hbody | ⟨hkind, hbody⟩
  · unfold bodies at hbody
    split at hbody
    · next hkind =>
      rcases List.mem_append.1 hbody with hb | hb
      · exact ⟨owner, mem_children_of_child? (Option.mem_toList.1 hb), .inl rfl, by simp [hkind]⟩
      · obtain ⟨a, ha, hb⟩ := Option.bind_eq_some_iff.1 (Option.mem_toList.1 hb)
        rw [branch?] at hb
        split at hb
        · next hclause =>
          exact ⟨a, mem_children_of_named (List.mem_of_getLast? hb),
            .inr ⟨mem_children_of_child? ha, hclause⟩, by simp [hclause]⟩
        · obtain rfl := Option.some.inj hb
          exact ⟨owner, mem_children_of_child? ha, .inl rfl, by simp [hkind]⟩
    iterate 4
      · next hkind =>
        exact ⟨owner, mem_children_of_child? (Option.mem_toList.1 hbody), .inl rfl, by simp [hkind]⟩
    · cases hbody
  · refine ⟨owner, mem_children_of_child? hbody, .inl rfl, ?_⟩
    simp only [List.mem_cons, List.not_mem_nil, or_false] at hkind ⊢
    rcases hkind with hkind | hkind | hkind <;> simp [hkind]

/-- The way down leads to nodes below. -/
theorem AtLevel.mem_descendants {block n : Node} {level : Level} (h : block.AtLevel level n) :
    n ∈ block.descendants := by
  induction h with
  | function => exact mem_descendants_self block
  | child _ hn ih => exact mem_descendants_of_mem_children ih (mem_children_of_named hn)
  | block _ _ ih => exact ih
  | consequence _ _ hb ih => exact mem_descendants_of_mem_children ih (mem_children_of_child? hb)
  | alternative _ _ hb _ ih => exact mem_descendants_of_mem_children ih (mem_children_of_child? hb)
  | elseClause _ _ ha _ hb ih =>
    exact mem_descendants_of_mem_children
      (mem_descendants_of_mem_children ih (mem_children_of_child? ha))
      (mem_children_of_named (List.mem_of_getLast? hb))
  | loop _ _ hb ih => exact mem_descendants_of_mem_children ih (mem_children_of_child? hb)
  | braced _ _ ih => exact ih
  | bare _ _ ih => exact ih
  | case _ _ hb hlabel _ ih =>
    exact mem_descendants_of_mem_children
      (mem_descendants_of_mem_children ih (mem_children_of_child? hb)) (mem_children_of_named hlabel)
  | behindColon _ hchildren _ _ hback _ ih =>
    refine mem_descendants_of_mem_children ih ?_
    rw [hchildren]
    exact List.mem_append_right _ (List.mem_cons_of_mem _ hback)
  | tried _ _ hb ih => exact mem_descendants_of_mem_children ih (mem_children_of_child? hb)
  | handler _ _ hhandler _ hb ih =>
    exact mem_descendants_of_mem_children
      (mem_descendants_of_mem_children ih (mem_children_of_named hhandler))
      (mem_children_of_child? hb)
  | labeled _ _ hm ih =>
    exact mem_descendants_of_mem_children ih (mem_children_of_named (List.mem_of_getLast? hm))

/-- What is known of the place of a node on the way down from a block. -/
def Level.Placed (block : Node) : Level → Node → Prop
  | .row, n => n.kind = .compoundStatement
  | .body, _ => True
  | .label, n => n.kind = .caseStatement
  | .statement, n => n.kind = .compoundStatement → ∃ p ∈ block.descendants, n ∈ p.children ∧
      p.kind ∈ [.compoundStatement, .caseStatement, .labeledStatement]

/-- Rows are blocks, and a statement that is a block is a child of a row, of a case or of a
statement with a label. -/
theorem AtLevel.placed {source : Text} {block n : Node} {level : Level} (hblock : block.Sound source)
    (hkind : block.kind = .compoundStatement) (h : block.AtLevel level n) :
    Level.Placed block level n := by
  have hbody : ∀ {n b : Node}, n ∈ block.descendants → hasBlock n.kind → n.child? .body = some b →
      b.kind = .compoundStatement := by
    intro n b hn hkind hb
    have hsound := hblock.of_mem hn
    exact hsound.structured.blocks n (mem_descendants_self n) hsound.noError hkind b hb
  induction h with
  | function => exact hkind
  | child hrow hn ih =>
    exact fun _ => ⟨_, hrow.mem_descendants, mem_children_of_named hn, by simp [show _ = _ from ih]⟩
  | block _ hkind _ => exact hkind
  | consequence | alternative | elseClause | loop => trivial
  | braced _ hkind _ => exact hkind
  | bare _ hkind _ => exact fun hblock => absurd hblock hkind
  | case _ _ _ _ hcase _ => exact hcase
  | behindColon hlabel hchildren _ _ hback _ ih =>
    refine fun _ => ⟨_, hlabel.mem_descendants, ?_, by simp [show _ = _ from ih]⟩
    rw [hchildren]
    exact List.mem_append_right _ (List.mem_cons_of_mem _ hback)
  | tried hn hkind hb _ => exact hbody hn.mem_descendants (.inr (.inl hkind)) hb
  | handler hn _ hhandler hcatch hb _ =>
    exact hbody (mem_descendants_of_mem_children hn.mem_descendants (mem_children_of_named hhandler))
      (.inr (.inr hcatch)) hb
  | labeled hn hkind hm _ =>
    exact fun _ => ⟨_, hn.mem_descendants, mem_children_of_named (List.mem_of_getLast? hm),
      by simp [hkind]⟩

/-- Where a block that is a body lies in a tree. -/
structure BodyIn (root owner b : Node) : Prop where
  /-- It is a node of the tree. -/
  mem : b ∈ root.descendants
  /-- It has no error. -/
  sound : b.head.hasError = false
  /-- It begins behind the start of its owner. -/
  led : owner.start < b.start
  /-- Its owner is below every node above it, but for an else clause between the two. -/
  above : ∀ n ∈ root.descendants, b ∈ n.descendants →
    n = b ∨ n.kind = .elseClause ∨ owner ∈ n.descendants
  /-- No row of statements holds it. -/
  parent : ∀ p ∈ root.descendants, b ∈ p.children →
    p.kind ∉ [.compoundStatement, .caseStatement, .labeledStatement]

section Blocks

variable {source : Text} {root : Node} (hparsed : root.Parsed source)
  (hstructured : root.Structured) (hblocked : root.Blocked)
include hparsed hstructured hblocked

/-- What is known of a block that is a body. -/
theorem IsBlockOf.bodyIn {b owner : Node} (howner : owner ∈ root.descendants)
    (hsound : owner.head.hasError = false) (h : b.IsBlockOf owner) :
    BodyIn root owner b := by
  obtain ⟨p, hbp, hp, hpkind⟩ := h.exists_parent
  obtain ⟨hpmem, hpsound⟩ : p ∈ root.descendants ∧ p.head.hasError = false := by
    rcases hp with rfl | ⟨hp, -⟩
    · exact ⟨howner, hsound⟩
    · exact ⟨mem_descendants_of_mem_children howner hp, hparsed.errors owner howner hsound p hp⟩
  have hmem := mem_descendants_of_mem_children hpmem hbp
  have hbsound := hparsed.errors p hpmem hpsound b hbp
  have hfilled := hparsed.start_lt_stop hmem h.1 hbsound
  have hinside := hparsed.inside p hpmem b hbp
  refine ⟨hmem, hbsound, ?led, ?above, ?parent⟩
  case led =>
    rcases h.2 with hbody | ⟨hkind, hbody⟩
    · obtain ⟨t, -, -, hstart, hlt, hstop⟩ := hstructured.led owner howner hsound b hbody
      omega
    · exact hblocked.led owner howner hsound hkind b hbody
  case above =>
    intro n hn hbn
    refine (exists_parent_of_mem_descendants hbn).imp Eq.symm ?_
    rintro ⟨q, hq, hbq⟩
    obtain rfl := hparsed.parent_unique hpmem (mem_descendants_trans hn hq) hbp hbq hfilled
    rcases hp with rfl | ⟨hpowner, hclause⟩
    · exact .inr hq
    -- the parent is an else clause, and it is not empty as the block in it is not
    · rcases exists_parent_of_mem_descendants hq with rfl | ⟨q, hqn, hpq⟩
      · exact .inl hclause
      · obtain rfl := hparsed.parent_unique howner (mem_descendants_trans hn hqn) hpowner hpq
          (by omega)
        exact .inr hqn
  case parent =>
    intro q hq hbq
    exact hparsed.parent_unique hpmem hq hbp hbq hfilled ▸ hpkind

/-- **No statement starts where a block that is a body does.**  What starts there is below the
block, and then it is the opening brace; or it is above the block, and then it starts with the owner
at the latest; or it is the block, which is no child of a row. -/
theorem AtLevel.start_ne_of_isBlockOf {block n b owner : Node} (hblock : block ∈ root.descendants)
    (hnoError : block.head.hasError = false) (hkind : block.kind = .compoundStatement)
    (hn : block.AtLevel .statement n) (hstep : n.kind.isStep) (howner : owner ∈ root.descendants)
    (hsound : owner.head.hasError = false) (hb : b.IsBlockOf owner) : n.start ≠ b.start := by
  intro hstart
  have hbody := hb.bodyIn hparsed hstructured hblocked howner hsound
  have hblockSound : block.Sound source :=
    ⟨hparsed.of_mem hblock, hstructured.of_mem hblock, hnoError⟩
  have hmem : n ∈ root.descendants := mem_descendants_trans hblock hn.mem_descendants
  have hfilled := hblocked.filled n hmem (hblockSound.of_mem hn.mem_descendants).noError hstep
  have hne : n ≠ b := by
    rintro rfl
    obtain ⟨p, hp, hnp, hpkind⟩ := hn.placed hblockSound hkind hb.1
    exact hbody.parent p (mem_descendants_trans hblock hp) hnp hpkind
  rcases hparsed.nested_or_apart hmem hbody.mem with hbelow | habove | hapart
  · rcases hparsed.eq_or_openBrace hbody.mem hb.1 hbody.sound hblocked.tokens hbelow hstart
      with heq | hopening
    · exact hne heq
    · simp [hopening, Kind.isStep] at hstep
  · rcases hbody.above n hmem habove with heq | hclause | howner
    · exact hne heq
    · simp [hclause, Kind.isStep] at hstep
    · have := (hparsed.of_mem hmem).inside_of_mem howner
      have := hbody.led
      omega
  · have := hparsed.start_lt_stop hbody.mem hb.1 hbody.sound
    rw [Apart] at hapart
    omega

end Blocks

end Node

end Syntax

namespace Analysis

open Syntax

/-- **The walk over a function finds the nodes at statement level.** -/
theorem Definition.exists_mem_spots_iff {d : Definition} {n : Node} :
    (∃ s ∈ d.spots, s.node = n) ↔ d.body.AtLevel .statement n := by
  constructor
  · rintro ⟨s, hs, rfl⟩
    obtain ⟨t, ht, hs⟩ := List.mem_flatMap.1 hs
    have hlevel : d.body.AtLevel .statement t.node := by
      obtain ⟨c, hc, rfl⟩ := List.mem_map.1 ht
      exact Node.AtLevel.function.child hc
    clear ht
    induction t using Spot.induction_on_inner with
    | h t ih =>
      rcases Spot.mem_all.1 hs with rfl | ⟨u, hu, hs⟩
      · exact hlevel
      · exact ih u hu hs (hlevel.of_mem_inner hu)
  · refine Node.AtLevel.found (fun s hs => ?_) fun s hs t ht => ?_
    · exact List.mem_flatMap.2 ⟨s, hs, Spot.mem_all_self s⟩
    · obtain ⟨u, hu, hs⟩ := List.mem_flatMap.1 hs
      exact List.mem_flatMap.2 ⟨u, hu, Spot.mem_all_of_mem_inner hs ht⟩

/-! ## 4. The statement steps of an analysis -/

theorem pairwise_distinctSteps (ss : List Step) :
    (distinctSteps ss).Pairwise fun s t =>
      s.kind = .statement → t.kind = .statement → s.offset ≠ t.offset := by
  induction ss with
  | nil => exact List.Pairwise.nil
  | cons s ss ih =>
    refine List.pairwise_cons.2 ⟨fun t ht hs htkind hoffset => ?_, ih.filter _⟩
    simpa [hs, htkind, hoffset] using (List.mem_filter.1 ht).2

/-- The statement steps of an analysis stand in the order of their offsets, and no two of them share
one. -/
theorem pairwise_statementSteps (source : Text) (root : Node) :
    ((ofTree source root).steps.filter (·.kind = .statement)).Pairwise (·.offset < ·.offset) := by
  have htrans : ∀ s t u : Step, decide (s.offset ≤ t.offset) = true →
      decide (t.offset ≤ u.offset) = true → decide (s.offset ≤ u.offset) = true := by
    simpa using fun _ _ _ => Nat.le_trans
  have htotal : ∀ s t : Step,
      (decide (s.offset ≤ t.offset) || decide (t.offset ≤ s.offset)) = true := by
    simpa using fun _ _ => Nat.le_total _ _
  have hsorted : (ofTree source root).steps.Pairwise (·.offset ≤ ·.offset) := by
    rw [ofTree_steps]
    simpa using List.pairwise_mergeSort htrans htotal _
  have hdistinct : (ofTree source root).steps.Pairwise fun s t =>
      s.kind = .statement → t.kind = .statement → s.offset ≠ t.offset := by
    rw [ofTree_steps]
    refine (List.mergeSort_perm _ _).symm.pairwise (pairwise_distinctSteps _) ?_
    exact fun h ht hs heq => h hs ht heq.symm
  refine ((hsorted.and hdistinct).filter _).imp_of_mem fun {s t} hs ht ⟨hle, hne⟩ => ?_
  have hs : s.kind = .statement := of_decide_eq_true (List.mem_filter.1 hs).2
  have ht : t.kind = .statement := of_decide_eq_true (List.mem_filter.1 ht).2
  exact Nat.lt_of_le_of_ne hle (hne hs ht)

/-- **The statement steps of an analysis**, whose functions are those that are looked through: they
have strictly increasing offsets; they are the starts and the lines of the nodes at statement level
whose kind has a step; and none of them is at a block that is the body of a function, of a branch or
loop, of a try statement or of a handler, by what a parser and the grammar promise. -/
theorem statementSteps_ofTree {source : Text} {root : Node} (hrows : root.SameRows) :
    (ofTree source root).functions = (definitions source root).map Definition.function ∧
    ((ofTree source root).steps.filter (·.kind = .statement)).Pairwise (·.offset < ·.offset) ∧
    (∀ t, t ∈ (ofTree source root).steps.filter (·.kind = .statement) ↔
      ∃ d ∈ definitions source root, ∃ n, d.body.AtLevel .statement n ∧ n.kind.isStep ∧
        t = ⟨.statement, n.start, n.line⟩) ∧
    (root.Parsed source → root.Structured → root.Blocked →
      ∀ owner ∈ root.descendants, owner.head.hasError = false → ∀ b : Node, b.IsBlockOf owner →
        ∀ t ∈ (ofTree source root).steps.filter (·.kind = .statement), t.offset ≠ b.start) := by
  have hmem : ∀ t, t ∈ (ofTree source root).steps.filter (·.kind = .statement) ↔
      ∃ d ∈ definitions source root, ∃ n, d.body.AtLevel .statement n ∧ n.kind.isStep ∧
        t = ⟨.statement, n.start, n.line⟩ := by
    intro t
    rw [List.mem_filter, decide_eq_true_eq]
    constructor
    · rintro ⟨ht, htkind⟩
      obtain ⟨d, hd, s, hs, hat⟩ := exists_spot_of_mem_steps ht
      rcases mem_stepsAt.1 hat with ⟨hkind, rfl⟩ | ⟨_, _, _, -, -, -, rfl⟩
      · exact ⟨d, hd, s.node, Definition.exists_mem_spots_iff.1 ⟨s, hs, rfl⟩, hkind, rfl⟩
      · cases htkind
    · rintro ⟨d, hd, n, hn, hkind, rfl⟩
      obtain ⟨s, hs, rfl⟩ := Definition.exists_mem_spots_iff.2 hn
      exact ⟨mem_steps_of_isStep hd hs hrows hkind, rfl⟩
  refine ⟨ofTree_functions source root, pairwise_statementSteps source root, hmem, ?_⟩
  intro hparsed hstructured hblocked owner howner hsound b hb t ht
  obtain ⟨d, hd, n, hn, hkind, rfl⟩ := (hmem t).1 ht
  obtain ⟨f, hf, hdef⟩ := exists_of_mem_definitions hd
  obtain ⟨hfsound, -, hbody, hblock, -⟩ := Definition.sound?_eq_some hdef
  have hchild := Node.mem_children_of_child? hbody
  exact hn.start_ne_of_isBlockOf hparsed hstructured hblocked
    (Node.mem_descendants_of_mem_children hf hchild) (hparsed.errors f hf hfsound _ hchild) hblock
    hkind howner hsound hb

end Analysis

namespace Branches

/-! A branch with a block and a branch without one, in a block that is tried, with a handler. -/

open Syntax
open ThreeLoops (rule token condition block)

/-- The function. -/
def source : Text :=
  "void f()\x7b\ntry\x7b\nif(1)\x7bg();\x7delse h();\n\x7dcatch(...)\x7b\x7d\n\x7d"

/-- A call on the third line. -/
def call (start : Nat) : Node :=
  rule .expressionStatement .none 2 start (start + 4)
    [rule (.other "call_expression") .none 2 start (start + 3)
      [rule .identifier (.other "function") 2 start (start + 1) [],
        rule (.other "argument_list") (.other "arguments") 2 (start + 1) (start + 3)
          [token "(" 2 (start + 1), token ")" 2 (start + 2)]],
      token ";" 2 (start + 3)]

/-- What is done if the condition holds. -/
def consequence : Node :=
  rule .compoundStatement .consequence 2 20 26 [token "\x7b" 2 20, call 21, token "\x7d" 2 25]

/-- The branch. -/
def branch : Node :=
  rule .ifStatement .none 2 15 35
    [token "if" 2 15, condition 2 17, consequence,
      rule .elseClause .alternative 2 26 35 [token "else" 2 26, call 31]]

/-- The tree of the function. -/
def root : Node :=
  rule (.other "translation_unit") .none 0 0 51
    [rule .functionDefinition .none 0 0 51
      [rule (.other "primitive_type") .type 0 0 4 [],
        rule .functionDeclarator .declarator 0 5 8
          [rule .identifier .declarator 0 5 6 [],
            rule (.other "parameter_list") .parameters 0 6 8 [token "(" 0 6, token ")" 0 7]],
        rule .compoundStatement .body 0 8 51
          [token "\x7b" 0 8,
            rule .tryStatement .none 1 10 49
              [token "try" 1 10,
                rule .compoundStatement .body 1 13 37
                  [token "\x7b" 1 13, branch, token "\x7d" 3 36],
                rule .catchClause .none 3 37 49
                  [token "catch" 3 37,
                    rule (.other "parameter_list") .parameters 3 42 47
                      [token "(" 3 42, token "..." 3 43, token ")" 3 46],
                    block 3 47]],
            token "\x7d" 4 50]]]

/-- The branch is in the block that is tried. -/
theorem branch_mem : branch ∈ root.descendants := by
  have htried : ∀ n ∈ root.children, ∀ body ∈ n.children, ∀ t ∈ body.children, ∀ b ∈ t.children,
      branch ∈ b.children → branch ∈ root.descendants := by
    intro n hn body hbody t ht b hb hbranch
    exact Node.mem_descendants_of_mem_children (Node.mem_descendants_of_mem_children
      (Node.mem_descendants_of_mem_children (Node.mem_descendants_of_mem_children
        (Node.mem_descendants_of_mem_children (Node.mem_descendants_self root) hn) hbody) ht) hb)
      hbranch
  exact htried _ (.head _) _ (.tail _ (.tail _ (.head _))) _ (.tail _ (.head _)) _
    (.tail _ (.head _)) (.tail _ (.head _))

end Branches

namespace Analysis

open Syntax

/-- The steps of the function are at what is tried, at the branch and at the two calls, and not at
the block that is the body of the branch. -/
theorem statementSteps_ofTree_branches :
    Branches.root.SameRows ∧
    (∀ t, t ∈ (ofTree Branches.source Branches.root).steps.filter (·.kind = .statement) ↔
      t ∈ ([⟨.statement, 10, 2⟩, ⟨.statement, 15, 3⟩, ⟨.statement, 21, 3⟩,
        ⟨.statement, 31, 3⟩] : List Step)) ∧
    Branches.consequence.IsBlockOf Branches.branch ∧
    ∀ t ∈ (ofTree Branches.source Branches.root).steps.filter (·.kind = .statement),
      t.offset ≠ Branches.consequence.start := by
  have hrows : Branches.root.SameRows := by decide +kernel
  have hparsed : Branches.root.Parsed Branches.source := by decide +kernel
  have hstructured : Branches.root.Structured := by decide +kernel
  have hblocked : Branches.root.Blocked := by decide +kernel
  have hblock : Branches.consequence.IsBlockOf Branches.branch :=
    ⟨rfl, .inl (List.mem_append_left _ (Option.mem_toList.2 rfl))⟩
  have hsteps : (distinctSteps (((definitions Branches.source Branches.root).flatMap
      Definition.spots).flatMap (stepsAt Branches.source))) =
      [⟨.statement, 10, 2⟩, ⟨.statement, 15, 3⟩, ⟨.statement, 21, 3⟩, ⟨.statement, 31, 3⟩] := by
    decide +kernel
  refine ⟨hrows, fun t => ?_, hblock, ?_⟩
  · rw [List.mem_filter, ofTree_steps, List.mem_mergeSort, hsteps]
    simp only [List.mem_cons, List.not_mem_nil, or_false, decide_eq_true_eq]
    constructor
    · exact And.left
    · rintro (rfl | rfl | rfl | rfl) <;> simp
  · exact (statementSteps_ofTree hrows).2.2.2 hparsed hstructured hblocked _ Branches.branch_mem rfl _ hblock

end Analysis

end Stepwise
