import Stepwise.Proofs.Splice
import Stepwise.Syntax.Node

/-!
# Trees of a parse

What a parser promises of the tree that it hands over: the nodes cover ranges of the source, those
of the children lie one behind the other inside that of their parent, no error hides below a node
without one, and a sound block begins and ends with its braces.

Main definitions and statements:

* `Node.descendants_eq`, `Node.descendants_induction`: the nodes of a tree by recursion, and what
  every child inherits holds of all of them;
* `Place.places_induction`: the same with the surroundings of the nodes;
* `Node.Parsed`: the promises;
* `Node.Parsed.exists_braces`: the braces of a sound block.
-/

namespace Stepwise.Syntax

namespace Node

/-! ## 1. The nodes of a tree -/

/-- What holds of a node if it holds of its children holds of every node. -/
theorem induction_on_children {P : Node → Prop} (h : ∀ n, (∀ c ∈ n.children, P c) → P n)
    (n : Node) : P n :=
  h n fun c hc =>
    have : sizeOf c < sizeOf n := sizeOf_lt_of_mem_children hc
    induction_on_children h c
termination_by sizeOf n

mutual

theorem map_node_placesUnder (ancestors : List Node) (next? : Option Node) :
    (n : Node) → (n.placesUnder ancestors next?).map Place.node = n.descendants
  | .mk head children => by
    rw [descendants, places, placesUnder, placesUnder, List.map_cons, List.map_cons,
      map_node_placesAmong _ children, map_node_placesAmong _ children]

theorem map_node_placesAmong (ancestors : List Node) :
    (ns : List Node) → (placesAmong ancestors ns).map Place.node = ns.flatMap descendants
  | [] => rfl
  | n :: ns => by
    rw [placesAmong, List.map_append, map_node_placesUnder _ _ n, map_node_placesAmong _ ns,
      List.flatMap_cons]

end

/-- The nodes of a tree are its root and the nodes of the trees below it. -/
theorem descendants_eq (n : Node) : n.descendants = n :: n.children.flatMap descendants := by
  cases n with
  | mk head children =>
    rw [descendants, places, placesUnder, List.map_cons, map_node_placesAmong]
    rfl

theorem mem_descendants {m n : Node} :
    m ∈ n.descendants ↔ m = n ∨ ∃ c ∈ n.children, m ∈ c.descendants := by
  rw [descendants_eq, List.mem_cons, List.mem_flatMap]

theorem mem_descendants_self (n : Node) : n ∈ n.descendants := mem_descendants.2 (.inl rfl)

/-- What every child inherits holds of all nodes of a tree. -/
theorem descendants_induction {P : Node → Prop} (h : ∀ m, P m → ∀ c ∈ m.children, P c) {n : Node}
    (hn : P n) : ∀ m ∈ n.descendants, P m := by
  induction n using induction_on_children with
  | h n ih =>
    intro m hm
    rcases mem_descendants.1 hm with rfl | ⟨c, hc, hm⟩
    · exact hn
    · exact ih c hc (h n hn c hc) m hm

theorem mem_descendants_trans {k m n : Node} (hm : m ∈ n.descendants) (hk : k ∈ m.descendants) :
    k ∈ n.descendants :=
  descendants_induction (P := fun m => ∀ k ∈ m.descendants, k ∈ n.descendants)
    (fun _ hm c hc k hk => hm k (mem_descendants.2 (.inr ⟨c, hc, hk⟩)))
    (fun _ hk => hk) m hm k hk

theorem mem_descendants_of_mem_children {c m n : Node} (hm : m ∈ n.descendants)
    (hc : c ∈ m.children) : c ∈ n.descendants :=
  mem_descendants_trans hm (mem_descendants.2 (.inr ⟨c, hc, mem_descendants_self c⟩))

end Node

namespace Place

/-- The place of a child, by the children behind it. -/
def down (p : Place) (c : Node) (back : List Node) : Place :=
  { node := c, ancestors := p.node :: p.ancestors, next? := back.head? }

/-- The places of a tree whose root stands at a place. -/
def under (p : Place) : List Place := p.node.placesUnder p.ancestors p.next?

theorem mem_placesAmong {p : Place} {ancestors ns : List Node} :
    p ∈ placesAmong ancestors ns ↔
      ∃ front c back, ns = front ++ c :: back ∧ p ∈ c.placesUnder ancestors back.head? := by
  induction ns with
  | nil => simp [placesAmong]
  | cons n ns ih =>
    rw [placesAmong, List.mem_append, ih]
    constructor
    · rintro (h | ⟨front, c, back, rfl, h⟩)
      · exact ⟨[], n, ns, rfl, h⟩
      · exact ⟨n :: front, c, back, rfl, h⟩
    · rintro ⟨front, c, back, heq, h⟩
      cases front with
      | nil =>
        obtain ⟨rfl, rfl⟩ := List.cons.inj heq
        exact .inl h
      | cons k front => exact .inr ⟨front, c, back, (List.cons.inj heq).2, h⟩

theorem mem_under {p q : Place} :
    p ∈ q.under ↔ p = q ∨
      ∃ front c back, q.node.children = front ++ c :: back ∧ p ∈ (q.down c back).under := by
  obtain ⟨⟨head, children⟩, ancestors, next?⟩ := q
  rw [under, Node.placesUnder, List.mem_cons, mem_placesAmong]
  rfl

theorem mem_under_self (p : Place) : p ∈ p.under := mem_under.2 (.inl rfl)

/-- What the place of every child inherits holds of all places of a tree. -/
theorem under_induction {P : Place → Prop}
    (h : ∀ p, P p → ∀ front c back, p.node.children = front ++ c :: back → P (p.down c back))
    {q : Place} (hq : P q) : ∀ p ∈ q.under, P p := by
  obtain ⟨n, ancestors, next?⟩ := q
  induction n using Node.induction_on_children generalizing ancestors next? with
  | h n ih =>
    intro p hp
    rcases mem_under.1 hp with rfl | ⟨front, c, back, hchildren, hp⟩
    · exact hq
    · exact ih c (by simp [show n.children = _ from hchildren]) _ _
        (h _ hq front c back hchildren) p hp

theorem mem_under_trans {k p q : Place} (hp : p ∈ q.under) (hk : k ∈ p.under) : k ∈ q.under :=
  under_induction (P := fun p => ∀ k ∈ p.under, k ∈ q.under)
    (fun _ hp front c back hchildren k hk =>
      hp k (mem_under.2 (.inr ⟨front, c, back, hchildren, hk⟩)))
    (fun _ hk => hk) p hp k hk

variable {root : Node} {p : Place}

/-- What holds of the place of the root and is inherited by children holds of all places. -/
theorem places_induction {P : Place → Prop}
    (hdown : ∀ p, P p → ∀ front c back, p.node.children = front ++ c :: back → P (p.down c back))
    (hroot : P ⟨root, [], none⟩) : ∀ p ∈ root.places, P p := under_induction hdown hroot

theorem down_mem_places (hp : p ∈ root.places) {front back : List Node} {c : Node}
    (hchildren : p.node.children = front ++ c :: back) : p.down c back ∈ root.places :=
  mem_under_trans (q := ⟨root, [], none⟩) hp
    (mem_under.2 (.inr ⟨front, c, back, hchildren, mem_under_self _⟩))

/-- What stands directly above a place of a tree has a place of its own. -/
theorem exists_parent (hp : p ∈ root.places) {parent : Node} {above : List Node}
    (h : p.ancestors = parent :: above) :
    ∃ q ∈ root.places, q.node = parent ∧ q.ancestors = above := by
  refine (places_induction (P := fun p => p ∈ root.places ∧ ∀ parent above,
    p.ancestors = parent :: above → ∃ q ∈ root.places, q.node = parent ∧ q.ancestors = above)
    (fun p hp front c back hchildren => ⟨down_mem_places hp.1 hchildren, fun parent above h => ?_⟩)
    ⟨mem_under_self _, fun _ _ h => by cases h⟩ p hp).2 parent above h
  obtain ⟨rfl, rfl⟩ := List.cons.inj h
  exact ⟨p, hp.1, rfl, rfl⟩

/-- What stands behind a place of a tree has a place of its own, below the same nodes. -/
theorem exists_next (hp : p ∈ root.places) {next : Node} (h : p.next? = some next) :
    ∃ q ∈ root.places, q.node = next ∧ q.ancestors = p.ancestors := by
  refine (places_induction (P := fun p => p ∈ root.places ∧ ∀ next,
    p.next? = some next → ∃ q ∈ root.places, q.node = next ∧ q.ancestors = p.ancestors)
    (fun p hp front c back hchildren => ⟨down_mem_places hp.1 hchildren, fun next h => ?_⟩)
    ⟨mem_under_self _, fun _ h => by cases h⟩ p hp).2 next h
  obtain ⟨back, rfl⟩ := List.head?_eq_some_iff.1 h
  have hnext : p.node.children = (front ++ [c]) ++ next :: back := by simp [hchildren]
  exact ⟨p.down next back, down_mem_places hp.1 hnext, rfl, rfl⟩

end Place

namespace Node

/-! ## 2. What a parser promises -/

/-- Whether the node is a token, which covers the text that its kind is named after. -/
def IsToken (source : Text) (kind : Kind) (n : Node) : Prop :=
  n.kind = kind ∧ n.text source = kind.name

instance (source : Text) (kind : Kind) (n : Node) : Decidable (n.IsToken source kind) :=
  inferInstanceAs (Decidable (_ ∧ _))

/-- What a parser promises of a tree. -/
structure Parsed (source : Text) (root : Node) : Prop where
  /-- A node covers a range of the source. -/
  ranges : ∀ n ∈ root.descendants, (Text.slice? n.start n.stop source).isSome
  /-- A child lies inside its parent. -/
  inside : ∀ n ∈ root.descendants, ∀ c ∈ n.children, n.start ≤ c.start ∧ c.stop ≤ n.stop
  /-- Children lie one behind the other. -/
  ordered : ∀ n ∈ root.descendants, n.children.Pairwise (·.stop ≤ ·.start)
  /-- A node without error has no faulty child. -/
  errors : ∀ n ∈ root.descendants, n.head.hasError = false → ∀ c ∈ n.children, c.head.hasError = false
  /-- A block without error begins with its opening and ends with its closing brace. -/
  braces : ∀ n ∈ root.descendants, n.kind = .compoundStatement → n.head.hasError = false →
    (∃ t ∈ n.children.head?, t.IsToken source .openBrace ∧ t.start = n.start) ∧
      ∃ t ∈ n.children.getLast?, t.IsToken source .closeBrace ∧ t.stop = n.stop

namespace Parsed

variable {source : Text} {root n : Node}

instance : Decidable (root.Parsed source) :=
  decidable_of_iff
    ((∀ n ∈ root.descendants, (Text.slice? n.start n.stop source).isSome) ∧
      (∀ n ∈ root.descendants, ∀ c ∈ n.children, n.start ≤ c.start ∧ c.stop ≤ n.stop) ∧
      (∀ n ∈ root.descendants, n.children.Pairwise (·.stop ≤ ·.start)) ∧
      (∀ n ∈ root.descendants, n.head.hasError = false →
        ∀ c ∈ n.children, c.head.hasError = false) ∧
      ∀ n ∈ root.descendants, n.kind = .compoundStatement → n.head.hasError = false →
        (∃ t ∈ n.children.head?, t.IsToken source .openBrace ∧ t.start = n.start) ∧
          ∃ t ∈ n.children.getLast?, t.IsToken source .closeBrace ∧ t.stop = n.stop)
    ⟨fun ⟨hranges, hinside, hordered, herrors, hbraces⟩ =>
      ⟨hranges, hinside, hordered, herrors, hbraces⟩,
      fun h => ⟨h.ranges, h.inside, h.ordered, h.errors, h.braces⟩⟩

theorem of_mem (h : root.Parsed source) (hn : n ∈ root.descendants) : n.Parsed source where
  ranges := fun m hm => h.ranges m (mem_descendants_trans hn hm)
  inside := fun m hm => h.inside m (mem_descendants_trans hn hm)
  ordered := fun m hm => h.ordered m (mem_descendants_trans hn hm)
  errors := fun m hm => h.errors m (mem_descendants_trans hn hm)
  braces := fun m hm => h.braces m (mem_descendants_trans hn hm)

theorem isOffset (h : root.Parsed source) (hn : n ∈ root.descendants) :
    source.IsOffset n.start ∧ source.IsOffset n.stop := by
  obtain ⟨u, hu⟩ := Option.isSome_iff_exists.1 (h.ranges n hn)
  obtain ⟨hstart, hstop, -⟩ := Text.slice?_eq_some hu
  exact ⟨hstart, hstop⟩

/-- The text of a node is a part of the source. -/
theorem exists_text (h : root.Parsed source) (hn : n ∈ root.descendants) :
    ∃ before after, source = before ++ n.text source ++ after ∧
      Text.byteLength before = n.start ∧ n.start + Text.byteLength (n.text source) = n.stop := by
  obtain ⟨u, hu⟩ := Option.isSome_iff_exists.1 (h.ranges n hn)
  rw [text, hu]
  exact Text.exists_of_slice?_eq_some hu

theorem add_byteLength_text (h : root.Parsed source) (hn : n ∈ root.descendants) :
    n.start + Text.byteLength (n.text source) = n.stop := by
  obtain ⟨before, after, -, -, hlen⟩ := h.exists_text hn
  exact hlen

theorem start_le_stop (h : root.Parsed source) (hn : n ∈ root.descendants) : n.start ≤ n.stop :=
  h.add_byteLength_text hn ▸ Nat.le_add_right _ _

theorem inside_of_mem (h : root.Parsed source) (hn : n ∈ root.descendants) :
    root.start ≤ n.start ∧ n.stop ≤ root.stop := by
  refine (descendants_induction
    (P := fun m => m ∈ root.descendants ∧ root.start ≤ m.start ∧ m.stop ≤ root.stop)
    (fun m hm c hc => ?_) ⟨mem_descendants_self root, Nat.le_refl _, Nat.le_refl _⟩ n hn).2
  have := h.inside m hm.1 c hc
  exact ⟨mem_descendants_of_mem_children hm.1 hc, by omega, by omega⟩

theorem sound_of_mem (h : root.Parsed source) (hroot : root.head.hasError = false)
    (hn : n ∈ root.descendants) : n.head.hasError = false :=
  (descendants_induction (P := fun m => m ∈ root.descendants ∧ m.head.hasError = false)
    (fun m hm c hc => ⟨mem_descendants_of_mem_children hm.1 hc, h.errors m hm.1 hm.2 c hc⟩)
    ⟨mem_descendants_self root, hroot⟩ n hn).2

/-- **The braces of a sound block** cover its first and its last byte. -/
theorem exists_braces (h : root.Parsed source) (hn : n ∈ root.descendants)
    (hkind : n.kind = .compoundStatement) (hsound : n.head.hasError = false) :
    ∃ opening inner closing, n.children = opening :: (inner ++ [closing]) ∧
      (opening.kind = .openBrace ∧ opening.start = n.start ∧ opening.stop = n.start + 1) ∧
      closing.kind = .closeBrace ∧ closing.start + 1 = n.stop ∧ closing.stop = n.stop := by
  obtain ⟨⟨opening, hhead, ⟨hopening, htext⟩, hstart⟩, closing, hlast, ⟨hclosing, htext'⟩, hstop⟩ :=
    h.braces n hn hkind hsound
  have hmem := mem_descendants_of_mem_children hn (List.mem_of_head? hhead)
  have hmem' := mem_descendants_of_mem_children hn (List.mem_of_getLast? hlast)
  have hlen := h.add_byteLength_text hmem
  have hlen' := h.add_byteLength_text hmem'
  have hone : Text.byteLength (Kind.name .openBrace) = 1 := by decide
  have hone' : Text.byteLength (Kind.name .closeBrace) = 1 := by decide
  rw [htext, hone] at hlen
  rw [htext', hone'] at hlen'
  obtain ⟨rest, hrest⟩ := List.head?_eq_some_iff.1 hhead
  -- one token is not both braces, so there is a last child behind the first
  have hne : rest ≠ [] := by
    rintro rfl
    rw [hrest, List.getLast?_singleton, Option.mem_some] at hlast
    rw [hlast, hclosing] at hopening
    cases hopening
  have hclose : rest.getLast hne = closing := by
    rw [hrest, List.getLast?_cons, List.getLast?_eq_some_getLast hne, Option.mem_some] at hlast
    simpa using hlast
  refine ⟨opening, rest.dropLast, closing, ?_, ⟨hopening, hstart, by omega⟩, hclosing, by omega,
    hstop⟩
  rw [hrest, ← hclose, List.dropLast_concat_getLast]

end Parsed

end Node

end Stepwise.Syntax
