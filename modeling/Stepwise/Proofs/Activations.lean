import Stepwise.Proofs.Announcements
import Stepwise.Proofs.Registry

/-!
# Activations and their labels

The stack of a program holds labels only, and the number of an activation is found by counting those
labels that are the name of the function or begin with it and an opening parenthesis.  As long as no
name contains a blank before an opening parenthesis, this counts the activations of the same
function and nothing else, however the names resemble each other: the label of a further activation
goes on behind the name with the first such pair of characters in it, so that the name can be read
off the label.

Labels depend on the stack alone, and the stack on the functions that are active
(`Course.stack_eq`).  So nothing need be known of functions that have been left.

Main statements:

* `isActivationOf_activationLabel`: a label is counted for its own function only;
* `Registry.Course.stack_eq_labels`: the stack holds the labels of the active functions;
* `Registry.Nested.stack_eq`: what happens between entering a function and leaving it is gone with
  it;
* `Registry.Course.activations`: activations are told apart, and variables keep the label of theirs.
-/

namespace Stepwise

/-! ## 1. Names and numbers in a label -/

namespace Text

/-- A text without two different characters next to each other is clear of them, also in front of a
text that begins with the first one. -/
theorem clearOf_pair {m n : Char} (hne : m ≠ n) {free : Text} (h : ¬ [m, n] <:+: free) (t : Text) :
    ClearOf [m, n] free (m :: t) := by
  induction free with
  | nil => exact fun a _ _ => List.nil_prefix
  | cons c free ih =>
    intro a b hab
    cases a with
    | nil =>
      -- an occurrence that begins here ends in the text, or begins with its last character
      obtain ⟨rfl, hrest⟩ := List.cons.inj hab
      cases free with
      | nil => exact absurd (List.cons.inj hrest).1 hne
      | cons d free =>
        obtain ⟨rfl, -⟩ := List.cons.inj hrest
        exact absurd ⟨[], free, rfl⟩ h
    | cons d a =>
      obtain ⟨rfl, hrest⟩ := List.cons.inj hab
      have hfree : ¬ [m, n] <:+: free := fun hmem =>
        h (hmem.trans (List.suffix_cons c free).isInfix)
      exact List.cons_prefix_cons.2 ⟨rfl, ih hfree a b hrest⟩

/-- What stands before the first occurrence of two different characters is read off a text. -/
theorem append_pair_inj {m n : Char} (hne : m ≠ n) {s t u v : Text} (hs : ¬ [m, n] <:+: s)
    (ht : ¬ [m, n] <:+: t) (h : s ++ m :: n :: u = t ++ m :: n :: v) : s = t := by
  have hcut : ∀ {free : Text}, ¬ [m, n] <:+: free → ∀ rest,
      cut? [m, n] (free ++ m :: n :: rest) = some (free, rest) := by
    intro free hfree rest
    have hself : cut? [m, n] (m :: n :: rest) = some ([], rest) := cut?_append_self [m, n] rest
    rw [cut?_append_of_clear (clearOf_pair hne hfree (n :: rest)), hself]
    simp
  have hsome := (hcut hs u).symm.trans ((congrArg _ h).trans (hcut ht v))
  exact (Prod.mk.inj (Option.some.inj hsome)).1

end Text

namespace Registry

/-- The label of the `n`th of the activations of a function that are active at the same time. -/
def activationLabel (name : Text) (n : Nat) : Text :=
  if n = 1 then name else name ++ " (" ++ Text.ofNat n ++ ")"

/-- The labels of active functions: each is numbered among the activations of the same function up
to it. -/
def activationLabels (functions : List Text) : List Text :=
  functions.mapIdx fun k f => activationLabel f ((functions.take (k + 1)).count f)

theorem activationLabel_one (name : Text) : activationLabel name 1 = name := if_pos rfl

/-- Behind the name of its function, the label of a further activation has its number in
parentheses. -/
theorem activationLabel_of_ne {n : Nat} (hn : n ≠ 1) (name : Text) :
    activationLabel name n = name ++ ' ' :: '(' :: (Text.ofNat n ++ [')']) := by
  rw [activationLabel, if_neg hn]
  simp

/-- **A label is counted for its own function only.** -/
theorem isActivationOf_activationLabel {f g : Text} (hf : ¬ (" (" : Text) <:+: f)
    (hg : ¬ (" (" : Text) <:+: g) (n : Nat) : isActivationOf f (activationLabel g n) ↔ f = g := by
  have hmark : ∀ t : Text, f ++ (" (" : Text) ++ t = f ++ ' ' :: '(' :: t := fun t => by simp
  rw [isActivationOf, Bool.or_eq_true, beq_iff_eq, Text.isSome_after?_iff]
  by_cases hn : n = 1
  · subst hn
    rw [activationLabel_one]
    constructor
    · rintro (rfl | ⟨t, rfl⟩)
      · rfl
      · exact absurd ⟨f, t, rfl⟩ hg
    · rintro rfl
      exact .inl rfl
  · rw [activationLabel_of_ne hn]
    constructor
    -- the label is no name, and it begins with one name before a number only
    · rintro (rfl | ⟨t, ht⟩)
      · exact absurd ⟨g, Text.ofNat n ++ [')'], by simp⟩ hf
      · rw [hmark] at ht
        exact Text.append_pair_inj (by decide) hf hg ht
    · rintro rfl
      exact .inr ⟨Text.ofNat n ++ [')'], hmark _⟩

/-- **Function and number are read off a label.** -/
theorem activationLabel_inj {f g : Text} (hf : ¬ (" (" : Text) <:+: f) (hg : ¬ (" (" : Text) <:+: g)
    {m n : Nat} (h : activationLabel f m = activationLabel g n) : f = g ∧ m = n := by
  have hself := (isActivationOf_activationLabel hf hf m).2 rfl
  rw [h] at hself
  obtain rfl := (isActivationOf_activationLabel hf hg n).1 hself
  refine ⟨rfl, ?_⟩
  have hlonger : ∀ k, k ≠ 1 → activationLabel f k ≠ f := by
    intro k hk heq
    rw [activationLabel_of_ne hk] at heq
    exact absurd (List.append_right_eq_self.1 heq) (List.cons_ne_nil _ _)
  by_cases hm : m = 1
  · by_contra hne
    subst hm
    rw [activationLabel_one] at h
    exact hlonger n (Ne.symm hne) h.symm
  · by_cases hn : n = 1
    · subst hn
      rw [activationLabel_one] at h
      exact absurd h (hlonger m hm)
    · rw [activationLabel_of_ne hm, activationLabel_of_ne hn] at h
      have hnumber := (List.cons.inj (List.cons.inj (List.append_cancel_left h)).2).2
      exact Text.ofNat_append_inj (by decide) hnumber

/-! ## 2. The labels of active functions -/

theorem activationLabels_concat (functions : List Text) (f : Text) :
    activationLabels (functions ++ [f]) =
      activationLabels functions ++ [activationLabel f (functions.count f + 1)] := by
  rw [activationLabels, List.mapIdx_concat]
  congr 1
  · refine List.mapIdx_eq_mapIdx_iff.2 fun k hk => ?_
    rw [List.take_append_of_le_length hk]
  · rw [List.take_of_length_le (by simp), List.count_append, List.count_singleton_self]

/-- The labels that are counted for a function are as many as its activations. -/
theorem length_filter_activationLabels {functions : List Text}
    (hnames : ∀ f ∈ functions, ¬ (" (" : Text) <:+: f) {f : Text} (hf : ¬ (" (" : Text) <:+: f) :
    ((activationLabels functions).filter (isActivationOf f)).length = functions.count f := by
  induction functions using List.reverseRecOn with
  | nil => rfl
  | append_singleton functions g ih =>
    have hg := hnames g (by simp)
    rw [activationLabels_concat, List.filter_append, List.length_append, List.count_append,
      ih fun g hg => hnames g (List.mem_append_left _ hg)]
    congr 1
    by_cases heq : f = g
    · have hcounted := (isActivationOf_activationLabel hf hg (functions.count g + 1)).2 heq
      rw [List.filter_cons_of_pos hcounted, heq, List.count_singleton_self]
      rfl
    · have hnot := (isActivationOf_activationLabel hf hg (functions.count g + 1)).not.2 heq
      rw [List.filter_cons_of_neg hnot, List.count_eq_zero.2 (by simpa using heq)]
      rfl

/-- Activations are told apart by their labels. -/
theorem nodup_activationLabels {functions : List Text}
    (hnames : ∀ f ∈ functions, ¬ (" (" : Text) <:+: f) : (activationLabels functions).Nodup := by
  induction functions using List.reverseRecOn with
  | nil => exact List.nodup_nil
  | append_singleton functions f ih =>
    rw [activationLabels_concat, List.nodup_append]
    refine ⟨ih fun g hg => hnames g (List.mem_append_left _ hg), List.nodup_singleton _, ?_⟩
    intro label hlabel other hother
    obtain rfl := List.mem_singleton.1 hother
    obtain ⟨k, hk, rfl⟩ := List.mem_mapIdx.1 hlabel
    intro heq
    have hg := hnames functions[k] (List.mem_append_left _ (List.getElem_mem hk))
    obtain ⟨hsame, hcount⟩ := activationLabel_inj hg (hnames f (by simp)) heq
    have hle := (List.take_sublist (k + 1) functions).count_le functions[k]
    rw [hsame] at hcount hle
    omega

/-- The label of the next activation is the one with the next number. -/
theorem nextLabel_of_stack_eq {r : Registry} {functions : List Text}
    (hstack : r.stack = activationLabels functions)
    (hnames : ∀ f ∈ functions, ¬ (" (" : Text) <:+: f) {f : Text} (hf : ¬ (" (" : Text) <:+: f) :
    r.nextLabel f = activationLabel f (functions.count f + 1) := by
  rw [nextLabel, hstack, length_filter_activationLabels hnames hf]
  cases functions.count f with
  | zero => exact (activationLabel_one f).symm
  | succ n => exact (if_neg (by omega)).symm

/-- Functions that are entered in turn are on the stack with their labels. -/
theorem stack_foldl_enter {functions : List Text}
    (hnames : ∀ f ∈ functions, ¬ (" (" : Text) <:+: f) :
    (functions.foldl enter {}).stack = activationLabels functions := by
  induction functions using List.reverseRecOn with
  | nil => rfl
  | append_singleton functions f ih =>
    have hothers : ∀ g ∈ functions, ¬ (" (" : Text) <:+: g := fun g hg =>
      hnames g (List.mem_append_left _ hg)
    rw [List.foldl_concat, activationLabels_concat, enter,
      nextLabel_of_stack_eq (ih hothers) hothers (hnames f (by simp)), ih hothers]

/-! ## 3. The stack of a course -/

theorem stack_enter_congr {r s : Registry} (h : r.stack = s.stack) (name : Text) :
    (r.enter name).stack = (s.enter name).stack := by
  rw [enter, enter, nextLabel, nextLabel, h]

theorem stack_allocate? {r r' : Registry} {size address : Nat}
    (h : r.allocate? size = some (r', address)) : r'.stack = r.stack := by
  obtain ⟨-, -, a, rfl⟩ := allocate?_eq_some h
  rfl

/-- **The stack is that of the active functions**, as if no other had ever been entered. -/
theorem Course.stack_eq {j : Journal} {r : Registry} (h : Course j r) :
    r.stack = (j.functions.foldl Registry.enter {}).stack := by
  induction h with
  | start limit => rfl
  | onVariable _ hstep ih => exact hstep.others_eq.1.trans ih
  | enter _ name ih =>
    rw [List.foldl_concat]
    exact stack_enter_congr ih name
  | @leave j r _ ih =>
    rw [Registry.leave, ih]
    -- with no function active there is no label either, so nothing is left twice
    rcases List.eq_nil_or_concat' j.functions with hnil | ⟨functions, f, hconcat⟩
    · rw [hnil]
      rfl
    · rw [hconcat, List.dropLast_concat, List.foldl_concat]
      exact List.dropLast_concat
  | allocate _ hr ih => exact (stack_allocate? hr).trans ih
  | release _ address ih =>
    rw [release_eq]
    exact ih
  | beginRender _ hcan typeName ih => exact ih
  | endRender _ _ value ih => exact ih

/-- **The stack holds the labels of the active functions.** -/
theorem Course.stack_eq_labels {j : Journal} {r : Registry} (h : Course j r)
    (hnames : ∀ f ∈ j.functions, ¬ (" (" : Text) <:+: f) :
    r.stack = activationLabels j.functions :=
  h.stack_eq.trans (stack_foldl_enter hnames)

/-- The label of the innermost activation is that of variables. -/
theorem Course.currentFrame_eq {j : Journal} {r : Registry} (h : Course j r)
    (hnames : ∀ f ∈ j.functions, ¬ (" (" : Text) <:+: f) :
    r.currentFrame = (j.functions.getLast?.map fun f =>
      activationLabel f (j.functions.count f)).getD globalFrame := by
  rw [currentFrame, h.stack_eq_labels hnames]
  rcases List.eq_nil_or_concat' j.functions with hnil | ⟨functions, f, hconcat⟩
  · rw [hnil]
    rfl
  · rw [hconcat, activationLabels_concat, List.getLast?_concat, List.getLast?_concat,
      Option.map_some, List.count_append, List.count_singleton_self]

/-! ## 4. Nested calls -/

/-- One operation that neither enters a function nor leaves one. -/
inductive Quiet : Registry → Registry → Prop
  | onVariable {r r' : Registry} (h : VariableStep r r') : Quiet r r'
  | allocate {r r' : Registry} {size address : Nat} (h : r.allocate? size = some (r', address)) :
      Quiet r r'
  | release (r : Registry) (address : Nat) : Quiet r (r.release address)
  | beginRender {r : Registry} {address : Nat} (h : r.canRender address) (typeName : Text) :
      Quiet r (r.beginRender address typeName)
  | endRender (r : Registry) (address : Nat) (value : Text) (hook : Bool) :
      Quiet r (r.endRender address value hook)

theorem Quiet.stack_eq {r s : Registry} (h : Quiet r s) : s.stack = r.stack := by
  cases h with
  | onVariable h => exact h.others_eq.1
  | allocate h => exact stack_allocate? h
  | release address => rw [release_eq]
  | beginRender h typeName => rfl
  | endRender address value hook => rfl

/-- What a program does while a function is active: every function that is entered is left again. -/
inductive Nested : Registry → Registry → Prop
  | refl (r : Registry) : Nested r r
  | quiet {r s t : Registry} (h : Nested r s) (hstep : Quiet s t) : Nested r t
  | call {r s t : Registry} (h : Nested r s) (name : Text) (hbody : Nested (s.enter name) t) :
      Nested r t.leave

theorem stack_leave_of_eq_enter {r s : Registry} {name : Text}
    (h : s.stack = (r.enter name).stack) : s.leave.stack = r.stack := by
  rw [leave, h]
  exact List.dropLast_concat

/-- **Nested calls leave the stack as it was.** -/
theorem Nested.stack_eq {r s : Registry} (h : Nested r s) : s.stack = r.stack := by
  induction h with
  | refl r => rfl
  | quiet _ hstep ih => exact hstep.stack_eq.trans ih
  | call _ name _ ih ihbody => exact (stack_leave_of_eq_enter ihbody).trans ih

/-! ## 5. The frames of variables -/

/-- Whether a variable with the given id is traced. -/
def Traces (r r' : Registry) (id : Nat) : Prop :=
  (∃ name typeName value, r.trace? name typeName value = some (r', id)) ∨
    ∃ name pointee address, r.tracePointer? name pointee address = some (r', id)

/-- The id is taken, and what is traced under it was traced in the given frame. -/
structure Framed (frame : Text) (id : Nat) (r : Registry) : Prop where
  taken : id < r.nextVariable
  frames : ∀ v ∈ r.traced, v.id = id → v.frame = frame

namespace Framed

variable {frame : Text} {id : Nat} {r r' : Registry}

/-- Another variable takes another id. -/
theorem register (h : Framed frame id r) {name typeName : Text} {content : Content} {other : Nat}
    (hr : r.register? name typeName content = some (r', other)) : Framed frame id r' := by
  obtain ⟨-, -, rfl⟩ := register?_eq_some hr
  refine ⟨Nat.lt_succ_of_lt h.taken, fun w hw hwid => ?_⟩
  rcases List.mem_append.1 hw with hw | hw
  · exact h.frames w hw hwid
  · obtain rfl := List.mem_singleton.1 hw
    exact absurd hwid.symm (Nat.ne_of_lt h.taken)

/-- **One operation keeps the frames of variables.** -/
theorem step (h : Framed frame id r) (hstep : Step r r') : Framed frame id r' := by
  cases hstep with
  | allocate hr =>
    obtain ⟨-, -, a, rfl⟩ := allocate?_eq_some hr
    exact ⟨h.taken, h.frames⟩
  | release address =>
    rw [release_eq]
    exact ⟨h.taken, h.frames⟩
  | beginRender _ typeName => exact ⟨h.taken, h.frames⟩
  | endRender address value hook => exact ⟨h.taken, h.frames⟩
  | trace hr => exact h.register hr
  | @tracePointer _ _ pointee address _ _ hr =>
    have hretype : Framed frame id (r.retype address pointee) := ⟨h.taken, h.frames⟩
    exact hretype.register hr
  | assign other _ =>
    refine ⟨h.taken, fun w hw => ?_⟩
    obtain ⟨v, hv, rfl⟩ := List.mem_map.1 hw
    split
    · exact h.frames v hv
    · exact h.frames v hv
  | untrace other => exact ⟨h.taken, fun v hv => h.frames v ((traced_untrace r other).subset hv)⟩
  | enter name => exact ⟨h.taken, h.frames⟩
  | leave => exact ⟨h.taken, h.frames⟩

theorem steps (h : Framed frame id r) (hsteps : Relation.ReflTransGen Step r r') :
    Framed frame id r' := by
  induction hsteps with
  | refl => exact h
  | tail _ hstep ih => exact ih.step hstep

end Framed

/-- A variable that is traced gets the label of the innermost activation. -/
theorem Traces.framed {r r' : Registry} {id : Nat} (h : Traces r r' id) (hr : r.Sound) :
    (∃ v ∈ r'.traced, v.id = id) ∧ Framed r.currentFrame id r' := by
  have hregister : ∀ {s : Registry} {name typeName : Text} {content : Content},
      s.traced = r.traced → s.nextVariable = r.nextVariable → s.currentFrame = r.currentFrame →
      s.register? name typeName content = some (r', id) →
        (∃ v ∈ r'.traced, v.id = id) ∧ Framed r.currentFrame id r' := by
    intro s name typeName content htraced hnext hframe hs
    obtain ⟨rfl, -, rfl⟩ := register?_eq_some hs
    refine ⟨⟨s.newVariable name typeName content, by simp, rfl⟩, Nat.lt_succ_self _,
      fun w hw hwid => ?_⟩
    rcases List.mem_append.1 hw with hw | hw
    · have hlt := hr.fresh w.id (List.mem_map_of_mem (htraced ▸ hw))
      omega
    · obtain rfl := List.mem_singleton.1 hw
      exact hframe
  rcases h with ⟨name, typeName, value, h⟩ | ⟨name, pointee, address, h⟩
  · exact hregister rfl rfl rfl h
  -- what the pointer points to may get a type first, which no variable shows
  · exact hregister (s := r.retype address pointee) rfl rfl rfl h

/-! ## 6. Activations -/

/-- **Activations are told apart.**  At every moment of a program, as long as no active function has
a blank before an opening parenthesis in its name, the labels on the stack are different, and each
is that of its function with its number among the activations of the same function.  Leaving a
function puts the stack back to what it was when it was entered, whatever was entered and left in
between.  And a variable has the label of the activation that was innermost when it was traced, for
as long as it is traced. -/
theorem Course.activations {j : Journal} {r : Registry} (h : Course j r)
    (hnames : ∀ f ∈ j.functions, ¬ (" (" : Text) <:+: f) :
    r.stack.Nodup ∧
      r.stack.length = j.functions.length ∧
      (∀ k f, j.functions[k]? = some f →
        r.stack[k]? = some (activationLabel f ((j.functions.take (k + 1)).count f))) ∧
      (∀ name s, Nested (r.enter name) s → s.leave.stack = r.stack) ∧
      ∀ r' id, Traces r r' id →
        (∃ v ∈ r'.traced, v.id = id) ∧
        ∀ s, Relation.ReflTransGen Step r' s → ∀ v ∈ s.traced, v.id = id →
          v.frame = (j.functions.getLast?.map fun f =>
            activationLabel f (j.functions.count f)).getD globalFrame := by
  have hstack := h.stack_eq_labels hnames
  refine ⟨?_, ?_, ?_, fun name s hs => stack_leave_of_eq_enter hs.stack_eq, ?_⟩
  · rw [hstack]
    exact nodup_activationLabels hnames
  · rw [hstack, activationLabels, List.length_mapIdx]
  · intro k f hk
    rw [hstack, activationLabels, List.getElem?_mapIdx, hk, Option.map_some]
  · intro r' id htraces
    obtain ⟨hexists, hframed⟩ := htraces.framed h.reachable.sound
    rw [h.currentFrame_eq hnames] at hframed
    exact ⟨hexists, fun s hs v hv hid => (hframed.steps hs).frames v hv hid⟩

/-- A variable of a function that was entered three times, between functions whose names begin
alike. -/
theorem Course.activations_of_similar_names :
    ∃ r r' : Registry, Course { functions := ["f", "f(", "f", "f ", "f"] } r ∧
      r.stack = ["f".toList, "f(".toList, "f (2)".toList, "f ".toList, "f (3)".toList] ∧
      r.stack.Nodup ∧ (∀ name s, Nested (r.enter name) s → s.leave.stack = r.stack) ∧
      r.trace? "x" "int" "1" = some (r', 0) ∧
      ∀ s, Relation.ReflTransGen Step r' s → ∀ v ∈ s.traced, v.id = 0 → v.frame = "f (3)" := by
  have h := ((((Course.start 0).enter "f").enter "f(").enter "f").enter "f " |>.enter "f"
  obtain ⟨hnodup, -, -, hleave, hframe⟩ := h.activations (by decide)
  have htraces := hframe _ 0 (.inl ⟨"x", "int", "1", rfl⟩)
  have hlabel : activationLabel "f" 3 = "f (3)" := by decide +kernel
  exact ⟨_, _, h, by decide +kernel, hnodup, hleave, rfl, fun s hs v hv hid =>
    (htraces.2 s hs v hv hid).trans hlabel⟩

end Registry

end Stepwise
