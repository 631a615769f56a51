import Stepwise.Proofs.Statements

/-!
# Bodies without braces

The bodies of branches and loops that stand without braces, as intervals of the source.  Of two of
them in one program the later one in the list lies strictly inside the earlier one, or there is
something between the two; this holds across functions too, since a function that is defined inside
of another one keeps its bodies between its own braces.

The argument has three parts.  Below a node, a body lies inside the statement it belongs to and
behind its first token (`Sound.bareBelow_inside`).  Two bodies below one node belong to statements
one of which is reached from the other, or to statements apart (`Sound.pairwise_bareBelow`).  And on
the way down to a statement no function is entered, so the bodies of every function in the tree lie
inside the statement or apart from it (`Sound.below_or_apart`).

Main definitions and statements:

* `Node.bodies`, `Node.Structured`: the bodies of a statement, and what the grammar promises of them;
* `mem_bareBodies`: the bodies without braces of the functions that are looked through;
* `pairwise_bareBodies`: they are nested or apart.
-/

namespace Stepwise

/-- The second span lies in the first behind its start, or something lies between the two. -/
def Span.Nests (a b : Span) : Prop :=
  (a.start < b.start ∧ b.stop ≤ a.stop) ∨ a.stop < b.start ∨ b.stop < a.start

/-- The first statement ends before the second one starts, and if the second one stands alone there
is something between them. -/
def Analysis.Spot.Precedes (s t : Analysis.Spot) : Prop :=
  s.node.stop ≤ t.node.start ∧ (t.stand ≠ .plain → s.node.stop < t.node.start)

namespace Syntax.Node

open Analysis

/-! ## 1. Bodies -/

/-- The bodies of a branch or loop, in order. -/
def bodies (n : Node) : List Node :=
  match n.kind with
  | .ifStatement =>
    (n.child? .consequence).toList ++ ((n.child? .alternative).bind branch?).toList
  | .forStatement | .forRangeLoop | .whileStatement | .doStatement => (n.child? .body).toList
  | _ => []

/-- Whether a token of the node lies between two offsets. -/
def HasTokenIn (n : Node) (start stop : Nat) : Prop :=
  ∃ t ∈ n.descendants, t.children = [] ∧ start ≤ t.start ∧ t.start < t.stop ∧ t.stop ≤ stop

instance (n : Node) (start stop : Nat) : Decidable (n.HasTokenIn start stop) :=
  inferInstanceAs (Decidable (∃ t ∈ n.descendants, _ ∧ _))

/-- What the grammar promises of the bodies of statements. -/
structure Structured (root : Node) : Prop where
  /-- A body of a branch or loop stands behind a token of its statement. -/
  led : ∀ n ∈ root.descendants, n.head.hasError = false →
    ∀ body ∈ n.bodies, n.HasTokenIn n.start body.start
  /-- Between two bodies of a branch there is a token of it. -/
  separated : ∀ n ∈ root.descendants, n.head.hasError = false →
    n.bodies.Pairwise fun a b => n.HasTokenIn a.stop b.start
  /-- The body of a switch, of a try statement or of a handler is a block. -/
  blocks : ∀ n ∈ root.descendants, n.head.hasError = false → hasBlock n.kind →
    ∀ body ∈ n.child? .body, body.kind = .compoundStatement

instance (root : Node) : Decidable root.Structured :=
  decidable_of_iff
    ((∀ n ∈ root.descendants, n.head.hasError = false →
        ∀ body ∈ n.bodies, n.HasTokenIn n.start body.start) ∧
      (∀ n ∈ root.descendants, n.head.hasError = false →
        n.bodies.Pairwise fun a b => n.HasTokenIn a.stop b.start) ∧
      ∀ n ∈ root.descendants, n.head.hasError = false → hasBlock n.kind →
        ∀ body ∈ n.child? .body, body.kind = .compoundStatement)
    ⟨fun ⟨hled, hseparated, hblocks⟩ => ⟨hled, hseparated, hblocks⟩,
      fun h => ⟨h.led, h.separated, h.blocks⟩⟩

/-- The promises of a parser and of the grammar for a node without errors. -/
structure Sound (source : Text) (n : Node) : Prop where
  /-- The promises of the parser. -/
  parsed : n.Parsed source
  /-- Those of the grammar. -/
  structured : n.Structured
  /-- There is no error. -/
  noError : n.head.hasError = false

theorem Structured.of_mem {root n : Node} (h : root.Structured) (hn : n ∈ root.descendants) :
    n.Structured where
  led := fun m hm => h.led m (mem_descendants_trans hn hm)
  separated := fun m hm => h.separated m (mem_descendants_trans hn hm)
  blocks := fun m hm => h.blocks m (mem_descendants_trans hn hm)

namespace Sound

variable {source : Text} {m n : Node}

theorem of_mem (h : n.Sound source) (hm : m ∈ n.descendants) : m.Sound source :=
  ⟨h.parsed.of_mem hm, h.structured.of_mem hm, h.parsed.sound_of_mem h.noError hm⟩

theorem child (h : n.Sound source) (hm : m ∈ n.children) : m.Sound source :=
  h.of_mem (mem_descendants_of_mem_children (mem_descendants_self n) hm)

theorem inside (h : n.Sound source) (hm : m ∈ n.children) : n.start ≤ m.start ∧ m.stop ≤ n.stop :=
  h.parsed.inside n (mem_descendants_self n) m hm

end Sound

/-- One of the two nodes ends before the other one starts. -/
def Apart (m n : Node) : Prop := m.stop ≤ n.start ∨ n.stop ≤ m.start

/-- Two children are one node or lie apart. -/
theorem Parsed.eq_or_apart {source : Text} {n a b : Node} (h : n.Parsed source)
    (ha : a ∈ n.children) (hb : b ∈ n.children) : a = b ∨ a.Apart b := by
  have hordered := h.ordered n (mem_descendants_self n)
  generalize n.children = cs at ha hb hordered
  induction hordered with
  | nil => cases ha
  | cons hc _ ih =>
    rw [List.mem_cons] at ha hb
    rcases ha with rfl | ha <;> rcases hb with rfl | hb
    · exact .inl rfl
    · exact .inr (.inl (hc b hb))
    · exact .inr (.inr (hc a ha))
    · exact ih ha hb

/-! ## 2. The statements directly below a node -/

/-- Statements directly below a branch or loop stand in its bodies; every other statement below is
one of a row. -/
theorem inner_eq_bodies (n : Node) :
    n.inner = n.bodies.flatMap (bodySpots n.loopBack?) ∨
      (n.bodies = [] ∧ ∀ s ∈ n.inner, s.stand = .plain) := by
  have hblock : ∀ {m : Node}, ∀ s ∈ m.blockSpots, s.stand = .plain := by
    intro m s hs
    obtain ⟨c, -, rfl⟩ := List.mem_map.1 hs
    rfl
  have hcase : ∀ {m : Node}, ∀ s ∈ m.caseSpots, s.stand = .plain := by
    intro m s hs
    obtain ⟨c, -, rfl⟩ := List.mem_map.1 hs
    rfl
  cases hkind : n.kind
  case ifStatement =>
    refine .inl ?_
    simp [inner, bodies, loopBack?, Kind.loopKind?, hkind]
  case forStatement | forRangeLoop | whileStatement | doStatement =>
    refine .inl ?_
    simp only [inner, bodies, hkind]
  case compoundStatement =>
    refine .inr ⟨by simp [bodies, hkind], fun s hs => ?_⟩
    simp only [inner, hkind] at hs
    exact hblock s hs
  case switchStatement =>
    refine .inr ⟨by simp [bodies, hkind], fun s hs => ?_⟩
    simp only [inner, hkind, List.mem_flatMap] at hs
    obtain ⟨body, -, label, -, hs⟩ := hs
    exact hcase s hs
  case tryStatement =>
    refine .inr ⟨by simp [bodies, hkind], fun s hs => ?_⟩
    simp only [inner, hkind, List.mem_append, List.mem_flatMap] at hs
    rcases hs with ⟨body, -, hs⟩ | ⟨handler, -, body, -, hs⟩
    · exact hblock s hs
    · exact hblock s hs
  case labeledStatement =>
    refine .inr ⟨by simp [bodies, hkind], fun s hs => ?_⟩
    simp only [inner, hkind, List.mem_map] at hs
    obtain ⟨c, -, rfl⟩ := hs
    rfl
  all_goals
    refine .inr ⟨by simp [bodies, hkind], fun s hs => ?_⟩
    simp [inner, hkind] at hs

/-- A statement that stands alone is a body of the statement above it. -/
theorem mem_inner_bare {n body : Node} {loopBack? : Option Nat} :
    ⟨body, .bare loopBack?⟩ ∈ n.inner ↔
      body ∈ n.bodies ∧ body.kind ≠ .compoundStatement ∧ loopBack? = n.loopBack? := by
  have hbody : ∀ b : Node, (⟨body, .bare loopBack?⟩ : Spot) ∈ b.bodySpots n.loopBack? ↔
      body = b ∧ b.kind ≠ .compoundStatement ∧ loopBack? = n.loopBack? := by
    intro b
    rw [bodySpots]
    split
    · next hkind => simp [blockSpots, hkind]
    · next hkind => simp [hkind]
  rcases n.inner_eq_bodies with h | ⟨hnil, hplain⟩
  · rw [h, List.mem_flatMap]
    simp only [hbody]
    refine ⟨?_, ?_⟩
    · rintro ⟨b, hmem, rfl, hrest⟩
      exact ⟨hmem, hrest⟩
    · rintro ⟨hmem, hrest⟩
      exact ⟨body, hmem, rfl, hrest⟩
  · rw [hnil]
    simp only [List.not_mem_nil, false_and, iff_false]
    intro hs
    cases hplain _ hs

theorem Apart.of_inside {a b m n : Node} (h : a.Apart b)
    (hm : a.start ≤ m.start ∧ m.stop ≤ a.stop) (hn : b.start ≤ n.start ∧ n.stop ≤ b.stop) :
    m.Apart n := by
  rw [Apart] at h ⊢
  omega

/-- Statements of a row of children are apart. -/
theorem pairwise_map_plain {n : Node} {source : Text} (h : n.Parsed source) {cs : List Node}
    (hcs : cs.Sublist n.children) :
    (cs.map fun c => (⟨c, .plain⟩ : Spot)).Pairwise fun s t => s.node.Apart t.node :=
  List.pairwise_map.2 (((h.ordered n (mem_descendants_self n)).sublist hcs).imp .inl)

section Sound

variable {source : Text} {n : Node}

theorem Sound.pairwise_blockSpots (h : n.Sound source) :
    n.blockSpots.Pairwise fun s t => s.node.Apart t.node :=
  pairwise_map_plain h.parsed List.filter_sublist

theorem Sound.pairwise_caseSpots (h : n.Sound source) :
    n.caseSpots.Pairwise fun s t => s.node.Apart t.node :=
  pairwise_map_plain h.parsed (List.filter_sublist.trans ((List.drop_sublist _ _).trans
    (List.dropWhile_sublist _)))

/-- Children of one kind are apart, and so is what lies inside of them. -/
theorem Sound.pairwise_flatMap_children (h : n.Sound source) {cs : List Node}
    (hcs : cs.Sublist n.children) {f : Node → List Spot}
    (hf : ∀ c ∈ cs, (f c).Pairwise fun s t => s.node.Apart t.node)
    (hinside : ∀ c ∈ cs, ∀ s ∈ f c, c.start ≤ s.node.start ∧ s.node.stop ≤ c.stop) :
    (cs.flatMap f).Pairwise fun s t => s.node.Apart t.node := by
  have hordered := (h.parsed.ordered n (mem_descendants_self n)).sublist hcs
  refine List.pairwise_flatMap.2 ⟨hf, hordered.imp_of_mem fun {a b} ha hb hab s hs t ht => ?_⟩
  exact Apart.of_inside (.inl hab) (hinside a ha s hs) (hinside b hb t ht)

theorem Sound.inside_of_mem_blockSpots (h : n.Sound source) {s : Spot} (hs : s ∈ n.blockSpots) :
    n.start ≤ s.node.start ∧ s.node.stop ≤ n.stop :=
  h.inside (mem_children_of_mem_blockSpots hs)

theorem Sound.inside_of_mem_inner (h : n.Sound source) {s : Spot} (hs : s ∈ n.inner) :
    n.start ≤ s.node.start ∧ s.node.stop ≤ n.stop :=
  h.parsed.inside_of_mem (reaches_of_mem_inner hs).mem_descendants

theorem Sound.start_lt_of_bare (h : n.Sound source) {s : Spot} (hs : s ∈ n.inner)
    (hbare : s.stand ≠ .plain) : n.start < s.node.start := by
  obtain ⟨body, stand⟩ := s
  cases stand with
  | plain => exact absurd rfl hbare
  | bare loopBack? =>
    obtain ⟨t, -, -, hstart, hlt, hstop⟩ :=
      h.structured.led n (mem_descendants_self n) h.noError body (mem_inner_bare.1 hs).1
    exact Nat.lt_of_le_of_lt hstart (Nat.lt_of_lt_of_le hlt hstop)

/-- The statements of a row are apart. -/
theorem Sound.pairwise_inner_of_rows (h : n.Sound source) (hnil : n.bodies = []) :
    n.inner.Pairwise fun s t => s.node.Apart t.node := by
  have hself := mem_descendants_self n
  have hhandler : ∀ handler ∈ n.children, ∀ s ∈ (handler.child? .body).toList.flatMap blockSpots,
      handler.start ≤ s.node.start ∧ s.node.stop ≤ handler.stop := by
    intro handler hmem s hs
    obtain ⟨body, hbody, hs⟩ := List.mem_flatMap.1 hs
    have hbody := mem_children_of_child? (Option.mem_toList.1 hbody)
    have hinner := ((h.child hmem).child hbody).inside_of_mem_blockSpots hs
    have houter := (h.child hmem).inside hbody
    omega
  cases hkind : n.kind
  case compoundStatement =>
    simp only [inner, hkind]
    exact h.pairwise_blockSpots
  case switchStatement =>
    simp only [inner, hkind]
    cases hbody : n.child? .body with
    | none => simp
    | some body =>
      have hbody := h.child (mem_children_of_child? hbody)
      simp only [Option.toList_some, List.flatMap_cons, List.flatMap_nil, List.append_nil]
      refine hbody.pairwise_flatMap_children (List.filter_sublist.trans List.filter_sublist)
        (fun label hlabel => ?_) fun label hlabel s hs => ?_
      · exact (hbody.child (mem_children_of_named
          (List.mem_filter.1 hlabel).1)).pairwise_caseSpots
      · exact (hbody.child (mem_children_of_named (List.mem_filter.1 hlabel).1)).inside
          (mem_children_of_mem_caseSpots hs)
  case tryStatement =>
    simp only [inner, hkind]
    refine List.pairwise_append.2 ⟨?_, ?_, fun s hs t ht => ?_⟩
    · cases hbody : n.child? .body with
      | none => simp
      | some body => simpa using (h.child (mem_children_of_child? hbody)).pairwise_blockSpots
    · refine h.pairwise_flatMap_children (List.filter_sublist.trans List.filter_sublist)
        (fun handler hmem => ?_) fun handler hmem => ?_
      · have hmem := h.child (mem_children_of_named (List.mem_filter.1 hmem).1)
        cases hbody : handler.child? .body with
        | none => simp
        | some body => simpa using (hmem.child (mem_children_of_child? hbody)).pairwise_blockSpots
      · exact hhandler handler (mem_children_of_named (List.mem_filter.1 hmem).1)
    · obtain ⟨body, hbody, hs⟩ := List.mem_flatMap.1 hs
      obtain ⟨handler, hfilter, ht⟩ := List.mem_flatMap.1 ht
      obtain ⟨hnamed, hcatch⟩ := List.mem_filter.1 hfilter
      have hblock := h.structured.blocks n hself h.noError (.inr (.inl hkind)) body
        (Option.mem_toList.1 hbody)
      have hbody := mem_children_of_child? (Option.mem_toList.1 hbody)
      have hmem := mem_children_of_named hnamed
      rcases h.parsed.eq_or_apart hbody hmem with rfl | hapart
      · simp [hblock] at hcatch
      · exact hapart.of_inside ((h.child hbody).inside_of_mem_blockSpots hs)
          (hhandler handler hmem t ht)
  case labeledStatement =>
    simp only [inner, hkind]
    cases n.named.getLast? <;> simp
  case ifStatement =>
    simp only [bodies, hkind, List.append_eq_nil_iff] at hnil
    simp [inner, hkind, hnil]
  case forStatement | forRangeLoop | whileStatement | doStatement =>
    simp only [bodies, hkind] at hnil
    simp [inner, hkind, hnil]
  all_goals simp [inner, hkind]

/-- A body is reached from its statement. -/
theorem reaches_of_mem_bodies {body : Node} (h : body ∈ n.bodies) : n.Reaches body := by
  cases hkind : n.kind
  case ifStatement =>
    simp only [bodies, hkind, List.mem_append, Option.mem_toList,
      Option.bind_eq_some_iff] at h
    rcases h with h | ⟨alternative, ha, hb⟩
    · exact .single (by simp [hkind]) (mem_children_of_child? h)
    · exact .child (by simp [hkind]) (mem_children_of_child? ha) (reaches_of_branch? hb)
  case forStatement | forRangeLoop | whileStatement | doStatement =>
    simp only [bodies, hkind, Option.mem_toList] at h
    exact .single (by simp [hkind]) (mem_children_of_child? h)
  all_goals simp [bodies, hkind] at h

/-- **Of two statements directly below a node one precedes the other.** -/
theorem Sound.pairwise_inner (h : n.Sound source) :
    n.inner.Pairwise fun s t => s.Precedes t ∨ t.Precedes s := by
  have hplain : ∀ {s t : Spot}, s.stand = .plain → t.stand = .plain → s.node.Apart t.node →
      s.Precedes t ∨ t.Precedes s :=
    fun hs ht => Or.imp (fun hle => ⟨hle, fun hbare => absurd ht hbare⟩)
      fun hle => ⟨hle, fun hbare => absurd hs hbare⟩
  rcases n.inner_eq_bodies with heq | ⟨hnil, hstand⟩
  · have hbody : ∀ {body : Node} {s : Spot}, body ∈ n.bodies →
        s ∈ body.bodySpots n.loopBack? → body.start ≤ s.node.start ∧ s.node.stop ≤ body.stop := by
      intro body s hbody hs
      have hsound := h.of_mem (reaches_of_mem_bodies hbody).mem_descendants
      exact hsound.parsed.inside_of_mem (reaches_of_mem_bodySpots hs).mem_descendants
    have hseparated := h.structured.separated n (mem_descendants_self n) h.noError
    rw [heq]
    refine List.pairwise_flatMap.2 ⟨fun body hmem => ?_,
      hseparated.imp_of_mem fun {a b} ha hb hab s hs t ht => ?_⟩
    · have hsound := h.of_mem (reaches_of_mem_bodies hmem).mem_descendants
      rw [bodySpots]
      split
      · refine hsound.pairwise_blockSpots.imp_of_mem fun {s t} hs ht => ?_
        obtain ⟨c, -, rfl⟩ := List.mem_map.1 hs
        obtain ⟨d, -, rfl⟩ := List.mem_map.1 ht
        exact hplain rfl rfl
      · exact List.pairwise_singleton _ _
    · obtain ⟨token, -, -, hstart, hlt, hstop⟩ := hab
      have hs := hbody ha hs
      have ht := hbody hb ht
      exact .inl ⟨by omega, fun _ => by omega⟩
  · exact (h.pairwise_inner_of_rows hnil).imp_of_mem fun hs ht =>
      hplain (hstand _ hs) (hstand _ ht)

end Sound

/-! ## 3. Bodies without braces below a node -/

/-- The bodies without braces below a node, in the order of the text. -/
def bareBelow (n : Node) : List BareBody := (n.inner.flatMap Spot.all).filterMap BareBody.ofSpot?

theorem bareBelow_eq (n : Node) :
    n.bareBelow = n.inner.flatMap fun s => (BareBody.ofSpot? s).toList ++ s.node.bareBelow := by
  rw [bareBelow, List.filterMap_flatMap]
  refine List.flatMap_congr fun s _ => ?_
  rw [Spot.all_eq, List.filterMap_cons, bareBelow]
  cases BareBody.ofSpot? s <;> rfl

theorem mem_bareBelow {n : Node} {b : BareBody} :
    b ∈ n.bareBelow ↔
      ∃ s ∈ n.inner, BareBody.ofSpot? s = some b ∨ b ∈ s.node.bareBelow := by
  rw [bareBelow_eq]
  simp

theorem ofSpot?_eq_some_iff {s : Spot} {b : BareBody} :
    BareBody.ofSpot? s = some b ↔ ∃ loopBack?, s.stand = .bare loopBack? ∧
      b = ⟨s.node.span, loopBack?⟩ := by
  obtain ⟨node, stand⟩ := s
  cases stand <;> simp [BareBody.ofSpot?, eq_comm]

theorem exists_of_mem_bareBelow {n : Node} {b : BareBody} (hb : b ∈ n.bareBelow) :
    ∃ m, n.Reaches m ∧ b.span = m.span := by
  induction n using Spot.induction_on_node with
  | h n ih =>
    obtain ⟨s, hs, hb | hb⟩ := mem_bareBelow.1 hb
    · obtain ⟨_, -, rfl⟩ := ofSpot?_eq_some_iff.1 hb
      exact ⟨s.node, reaches_of_mem_inner hs, rfl⟩
    · obtain ⟨m, hm, hspan⟩ := ih s hs hb
      exact ⟨m, (reaches_of_mem_inner hs).trans hm, hspan⟩

section Sound

variable {source : Text} {n : Node}

theorem Sound.of_mem_inner (h : n.Sound source) {s : Spot} (hs : s ∈ n.inner) :
    s.node.Sound source :=
  h.of_mem (reaches_of_mem_inner hs).mem_descendants

/-- **A body without braces below a node** lies inside of it, behind its start. -/
theorem Sound.bareBelow_inside (h : n.Sound source) {b : BareBody} (hb : b ∈ n.bareBelow) :
    n.start < b.span.start ∧ b.span.stop ≤ n.stop := by
  induction n using Spot.induction_on_node with
  | h n ih =>
    obtain ⟨s, hs, hb | hb⟩ := mem_bareBelow.1 hb
    · obtain ⟨_, hbare, rfl⟩ := ofSpot?_eq_some_iff.1 hb
      exact ⟨h.start_lt_of_bare hs (by simp [hbare]), (h.inside_of_mem_inner hs).2⟩
    · have hinside := h.inside_of_mem_inner hs
      have := ih s hs (h.of_mem_inner hs) hb
      omega

/-- Bodies at or below a statement, and at or below one that it precedes, are apart. -/
theorem Sound.lt_of_precedes (h : n.Sound source) {s t : Spot} (ht : t ∈ n.inner)
    (hs : s ∈ n.inner) (hst : s.Precedes t) {a b : BareBody}
    (ha : a ∈ (BareBody.ofSpot? s).toList ++ s.node.bareBelow)
    (hb : b ∈ (BareBody.ofSpot? t).toList ++ t.node.bareBelow) : a.span.stop < b.span.start := by
  have hstop : a.span.stop ≤ s.node.stop := by
    rw [List.mem_append, Option.mem_toList] at ha
    rcases ha with ha | ha
    · obtain ⟨_, -, rfl⟩ := ofSpot?_eq_some_iff.1 ha
      exact Nat.le_refl _
    · exact ((h.of_mem_inner hs).bareBelow_inside ha).2
  rw [List.mem_append, Option.mem_toList] at hb
  rcases hb with hb | hb
  · obtain ⟨_, hbare, rfl⟩ := ofSpot?_eq_some_iff.1 hb
    exact Nat.lt_of_le_of_lt hstop (hst.2 (by simp [hbare]))
  · have hstart := ((h.of_mem_inner ht).bareBelow_inside hb).1
    have := hst.1
    omega

/-- **The bodies without braces below a node are nested or apart.**  The induction is on the
statements below the node: a body that stands alone holds those below it, and what belongs to
different statements is apart. -/
theorem Sound.pairwise_bareBelow (h : n.Sound source) :
    n.bareBelow.Pairwise fun a b => a.span.Nests b.span := by
  induction n using Spot.induction_on_node with
  | h n ih =>
    rw [bareBelow_eq]
    refine List.pairwise_flatMap.2 ⟨fun s hs => ?_,
      h.pairwise_inner.imp_of_mem fun {s t} hs ht hst a ha b hb => ?_⟩
    · have hsound := h.of_mem_inner hs
      refine List.pairwise_append.2 ⟨?_, ih s hs hsound, fun a ha b hb => ?_⟩
      · cases BareBody.ofSpot? s <;> simp
      · obtain ⟨_, -, rfl⟩ := ofSpot?_eq_some_iff.1 (Option.mem_toList.1 ha)
        exact .inl (hsound.bareBelow_inside hb)
    · rcases hst with hst | hst
      · exact .inr (.inl (h.lt_of_precedes ht hs hst ha hb))
      · exact .inr (.inr (h.lt_of_precedes hs ht hst hb ha))

theorem Sound.bareBelow_start_le_stop (h : n.Sound source) {b : BareBody} (hb : b ∈ n.bareBelow) :
    b.span.start ≤ b.span.stop := by
  obtain ⟨m, hm, hspan⟩ := exists_of_mem_bareBelow hb
  exact hspan ▸ h.parsed.start_le_stop hm.mem_descendants

/-- **The bodies without braces of a block** lie between its braces. -/
theorem Sound.bareBelow_between (h : n.Sound source) (hkind : n.kind = .compoundStatement)
    {b : BareBody} (hb : b ∈ n.bareBelow) : n.start < b.span.start ∧ b.span.stop < n.stop := by
  obtain ⟨opening, inner, closing, hchildren, -, hclosing, hlast, hstop⟩ :=
    h.parsed.exists_braces (mem_descendants_self n) hkind h.noError
  have hle := h.bareBelow_start_le_stop hb
  obtain ⟨hstart, -⟩ := h.bareBelow_inside hb
  refine ⟨hstart, ?_⟩
  obtain ⟨s, hs, hb⟩ := mem_bareBelow.1 hb
  simp only [Node.inner, hkind, blockSpots, List.mem_map] at hs
  obtain ⟨c, hc, rfl⟩ := hs
  have hchild := mem_children_of_named hc
  rcases hb with hb | hb
  · cases hb
  · have hinside := (h.child hchild).bareBelow_inside hb
    have hwithin := h.inside hchild
    rcases h.parsed.eq_or_apart hchild (b := closing) (by simp [hchildren]) with rfl | hapart | hapart
    · simp [bareBelow, Node.inner, hclosing] at hb
    · omega
    · omega

end Sound

/-! ## 4. Bodies without braces of all functions in a tree -/

/-- The bodies without braces of the functions in a tree that are looked through. -/
def bareWithin (source : Text) (n : Node) : List BareBody :=
  (definitions source n).flatMap fun d => d.spots.filterMap BareBody.ofSpot?

/-- They are those of the function at the root, and those within each child. -/
theorem bareWithin_eq (source : Text) (n : Node) :
    n.bareWithin source =
      (Definition.sound? source n).toList.flatMap (fun d => d.spots.filterMap BareBody.ofSpot?) ++
        n.children.flatMap (bareWithin source) := by
  rw [bareWithin, definitions_eq, List.flatMap_append, List.flatMap_assoc]
  rfl

theorem filterMap_spots {source : Text} {n : Node} {d : Definition}
    (h : Definition.sound? source n = some d) :
    d.spots.filterMap BareBody.ofSpot? = d.body.bareBelow := by
  obtain ⟨-, -, -, hkind, -⟩ := Definition.sound?_eq_some h
  rw [bareBelow, Node.inner, hkind]
  rfl

theorem mem_bareWithin {source : Text} {n : Node} {b : BareBody} :
    b ∈ n.bareWithin source ↔
      (∃ d, Definition.sound? source n = some d ∧ b ∈ d.body.bareBelow) ∨
        ∃ c ∈ n.children, b ∈ c.bareWithin source := by
  rw [bareWithin_eq, List.mem_append, List.mem_flatMap, List.mem_flatMap]
  refine or_congr_left ⟨?_, ?_⟩
  · rintro ⟨d, hd, hb⟩
    rw [Option.mem_toList] at hd
    exact ⟨d, hd, filterMap_spots hd ▸ hb⟩
  · rintro ⟨d, hd, hb⟩
    exact ⟨d, Option.mem_toList.2 hd, (filterMap_spots hd).symm ▸ hb⟩

section Within

variable {source : Text}

/-- What the promises say of the body of a function. -/
theorem Definition.sound_body {n : Node} (hparsed : n.Parsed source) (hstructured : n.Structured)
    {d : Definition} (hd : Definition.sound? source n = some d) :
    d.body ∈ n.children ∧ d.body.kind = .compoundStatement ∧ d.body.Sound source := by
  obtain ⟨hsound, -, hbody, hkind, -⟩ := Definition.sound?_eq_some hd
  have hchild := mem_children_of_child? hbody
  exact ⟨hchild, hkind, Sound.child ⟨hparsed, hstructured, hsound⟩ hchild⟩

/-- **The bodies within a tree** lie strictly inside of it. -/
theorem bareWithin_between {n : Node} (hparsed : n.Parsed source) (hstructured : n.Structured)
    {b : BareBody} (hb : b ∈ n.bareWithin source) :
    n.start < b.span.start ∧ b.span.stop < n.stop ∧ b.span.start ≤ b.span.stop := by
  induction n using induction_on_children with
  | h n ih =>
    have hself := mem_descendants_self n
    rcases mem_bareWithin.1 hb with ⟨d, hd, hb⟩ | ⟨c, hc, hb⟩
    · obtain ⟨hchild, hkind, hsound⟩ := Definition.sound_body hparsed hstructured hd
      have hbetween := hsound.bareBelow_between hkind hb
      have hinside := hparsed.inside n hself _ hchild
      exact ⟨by omega, by omega, hsound.bareBelow_start_le_stop hb⟩
    · have hmem := mem_descendants_of_mem_children hself hc
      have hbetween := ih c hc (hparsed.of_mem hmem) (hstructured.of_mem hmem) hb
      have hinside := hparsed.inside n hself c hc
      omega

/-- Bodies within one child are apart from what lies inside of another one. -/
theorem apart_of_mem_children {n c m : Node} (hparsed : n.Parsed source)
    (hstructured : n.Structured) {c' : Node} (hc : c ∈ n.children) (hc' : c' ∈ n.children)
    (hne : c ≠ c') (hm : c'.start ≤ m.start ∧ m.stop ≤ c'.stop) {b : BareBody}
    (hb : b ∈ c.bareWithin source) : b.span.stop < m.start ∨ m.stop < b.span.start := by
  have hmem := mem_descendants_of_mem_children (mem_descendants_self n) hc
  have hbetween := bareWithin_between (hparsed.of_mem hmem) (hstructured.of_mem hmem) hb
  rcases (hparsed.eq_or_apart hc hc').resolve_left hne with hapart | hapart
  · omega
  · omega

/-- On a step down no function is entered. -/
theorem below_or_apart_child {n c : Node} (hparsed : n.Parsed source) (hstructured : n.Structured)
    (hkind : n.kind ≠ .functionDefinition) (hc : c ∈ n.children) {m : Node}
    (hm : c.start ≤ m.start ∧ m.stop ≤ c.stop) {b : BareBody} (hb : b ∈ n.bareWithin source) :
    b ∈ c.bareWithin source ∨ b.span.stop < m.start ∨ m.stop < b.span.start := by
  rcases mem_bareWithin.1 hb with ⟨d, hd, -⟩ | ⟨c', hc', hb⟩
  · exact absurd (Definition.sound?_eq_some hd).2.1 hkind
  · by_cases hne : c' = c
    · exact .inl (hne ▸ hb)
    · exact .inr (apart_of_mem_children hparsed hstructured hc' hc hne hm hb)

/-- **On the way down to a statement no function is entered**, so the bodies within the tree are
within the statement or apart from it. -/
theorem below_or_apart {n m : Node} (h : n.Sound source) (hreach : n.Reaches m) {b : BareBody}
    (hb : b ∈ n.bareWithin source) :
    b ∈ m.bareWithin source ∨ b.span.stop < m.start ∨ m.stop < b.span.start := by
  induction hreach with
  | refl n => exact .inl hb
  | child hkind hc hreach ih =>
    have hm := (h.child hc).parsed.inside_of_mem hreach.mem_descendants
    rcases below_or_apart_child h.parsed h.structured hkind hc hm hb with hb | hapart
    · exact ih (h.child hc) hb
    · exact .inr hapart
  | @body n body c m hkind hbody hc hreach ih =>
    have hchild := mem_children_of_child? hbody
    have hsound := h.child hchild
    have hblock := h.structured.blocks n (mem_descendants_self n) h.noError hkind body hbody
    have hm := (hsound.child hc).parsed.inside_of_mem hreach.mem_descendants
    have hm' := hsound.inside hc
    have hn : n.kind ≠ .functionDefinition := by
      rcases hkind with hkind | hkind | hkind <;> simp [hkind]
    rcases below_or_apart_child h.parsed h.structured hn hchild (m := m) ⟨by omega, by omega⟩ hb
      with hb | hapart
    · rcases below_or_apart_child hsound.parsed hsound.structured (by simp [hblock]) hc hm hb
        with hb | hapart
      · exact ih (hsound.child hc) hb
      · exact .inr hapart
    · exact .inr hapart

/-- **The bodies without braces of all functions in a tree are nested or apart.**  The induction is
on the tree: the bodies of a function hold those of the functions within them, and the bodies of
functions in different children are apart. -/
theorem pairwise_bareWithin {n : Node} (hparsed : n.Parsed source) (hstructured : n.Structured) :
    (n.bareWithin source).Pairwise fun a b => a.span.Nests b.span := by
  induction n using induction_on_children with
  | h n ih =>
    have hself := mem_descendants_self n
    rw [bareWithin_eq]
    refine List.pairwise_append.2 ⟨?_, List.pairwise_flatMap.2 ⟨fun c hc => ?_, ?_⟩, ?_⟩
    · cases hd : Definition.sound? source n with
      | none => simp
      | some d =>
        obtain ⟨-, -, hsound⟩ := Definition.sound_body hparsed hstructured hd
        simpa [filterMap_spots hd] using hsound.pairwise_bareBelow
    · have hmem := mem_descendants_of_mem_children hself hc
      exact ih c hc (hparsed.of_mem hmem) (hstructured.of_mem hmem)
    · refine (hparsed.ordered n hself).imp_of_mem fun {c c'} hc hc' hle a ha b hb => ?_
      have hmem := mem_descendants_of_mem_children hself hc
      have hmem' := mem_descendants_of_mem_children hself hc'
      have ha := bareWithin_between (hparsed.of_mem hmem) (hstructured.of_mem hmem) ha
      have hb := bareWithin_between (hparsed.of_mem hmem') (hstructured.of_mem hmem') hb
      exact .inr (.inl (by omega))
    · intro a ha b hb
      obtain ⟨d, hd, ha⟩ := List.mem_flatMap.1 ha
      rw [Option.mem_toList] at hd
      obtain ⟨hchild, -, hsound⟩ := Definition.sound_body hparsed hstructured hd
      rw [filterMap_spots hd] at ha
      obtain ⟨c, hc, hb⟩ := List.mem_flatMap.1 hb
      obtain ⟨m, hreach, hspan⟩ := exists_of_mem_bareBelow ha
      rw [hspan]
      by_cases hne : c = d.body
      · subst hne
        rcases below_or_apart hsound hreach hb with hb | hapart | hapart
        · have hm := hsound.of_mem hreach.mem_descendants
          have := bareWithin_between hm.parsed hm.structured hb
          exact .inl ⟨this.1, Nat.le_of_lt this.2.1⟩
        · exact .inr (.inr hapart)
        · exact .inr (.inl hapart)
      · have hm := hsound.parsed.inside_of_mem hreach.mem_descendants
        rcases apart_of_mem_children hparsed hstructured hc hchild hne hm hb with hapart | hapart
        · exact .inr (.inr hapart)
        · exact .inr (.inl hapart)

end Within

end Syntax.Node

namespace Analysis

open Syntax

/-! ## 5. The bodies of an analysis -/

theorem bareBodies_eq_bareWithin (source : Text) (root : Node) :
    (ofTree source root).bareBodies = root.bareWithin source := by
  rw [ofTree_bareBodies, List.filterMap_flatMap]
  rfl

/-- **The bodies without braces of an analysis** are the bodies of its branches and loops that are
no blocks, each with the line that its loop announces. -/
theorem mem_bareBodies {source : Text} {root : Node} {b : BareBody} :
    b ∈ (ofTree source root).bareBodies ↔
      ∃ d ∈ definitions source root, ∃ s ∈ d.spots, ∃ body ∈ s.node.bodies,
        body.kind ≠ .compoundStatement ∧ b = ⟨body.span, s.node.loopBack?⟩ := by
  rw [ofTree_bareBodies, List.mem_filterMap]
  refine ⟨?_, ?_⟩
  · rintro ⟨t, ht, hb⟩
    obtain ⟨d, hd, ht⟩ := List.mem_flatMap.1 ht
    obtain ⟨loopBack?, hstand, rfl⟩ := Node.ofSpot?_eq_some_iff.1 hb
    obtain ⟨block, hblock, ht⟩ := List.mem_flatMap.1 ht
    obtain ⟨body, stand⟩ := t
    obtain rfl : stand = .bare loopBack? := hstand
    rcases Spot.mem_inner_of_mem_all ht with rfl | ⟨s, hs, hinner⟩
    · obtain ⟨c, -, hc⟩ := List.mem_map.1 hblock
      cases hc
    · obtain ⟨hmem, hkind, rfl⟩ := Node.mem_inner_bare.1 hinner
      exact ⟨d, hd, s, List.mem_flatMap.2 ⟨block, hblock, hs⟩, body, hmem, hkind, rfl⟩
  · rintro ⟨d, hd, s, hs, body, hmem, hkind, rfl⟩
    obtain ⟨block, hblock, hs⟩ := List.mem_flatMap.1 hs
    have hinner := Node.mem_inner_bare.2 ⟨hmem, hkind, rfl⟩
    exact ⟨⟨body, .bare s.node.loopBack?⟩, List.mem_flatMap.2 ⟨d, hd, List.mem_flatMap.2
      ⟨block, hblock, Spot.mem_all_of_mem_inner hs hinner⟩⟩, rfl⟩

/-- **The bodies without braces of an analysis are nested or apart**, and a later one never holds an
earlier one. -/
theorem pairwise_bareBodies {source : Text} {root : Node} (hparsed : root.Parsed source)
    (hstructured : root.Structured) :
    (ofTree source root).bareBodies.Pairwise fun a b => a.span.Nests b.span :=
  bareBodies_eq_bareWithin source root ▸ Node.pairwise_bareWithin hparsed hstructured

/-- A body without braces does not end before its start. -/
theorem bareBody_start_le_stop {source : Text} {root : Node} (hparsed : root.Parsed source)
    (hstructured : root.Structured) {b : BareBody} (hb : b ∈ (ofTree source root).bareBodies) :
    b.span.start ≤ b.span.stop :=
  (Node.bareWithin_between hparsed hstructured (bareBodies_eq_bareWithin source root ▸ hb)).2.2

end Analysis

end Stepwise
