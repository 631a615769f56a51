import Stepwise.Proofs.Insertion
import Stepwise.Proofs.Text

/-!
# The access of printed members

A printer stands outside of its aggregate and may name public members only.  Access is said once for
all members behind it: in a class it is private and in a struct public, up to the first access
specifier, and from there on what the last specifier says.

The members of an aggregate that is printed are all non-static data members that its body declares,
in order, and the specifiers between them make no difference.  So a printer touches public members
only if and only if no such member is declared where access is not public; if one is, then the
printer names it all the same.

Main definitions and statements:

* `Aggregate.accessBehind`: the access behind some members, and `Aggregate.accessed`, the members
  each with its own;
* `Snippet.touched_eq`, `Snippet.mentions_printer`: what a printer touches;
* `Aggregate.members_of_ofPlace?`: the members that are printed and their access.
-/

namespace Stepwise

open Syntax

/-! ## 1. Access -/

namespace Analysis.Aggregate

/-- Whether a node says that the members behind it are public. -/
def saysPublic? (source : Text) (n : Node) : Option Bool :=
  if n.kind = .accessSpecifier then some (n.text source == "public") else none

/-- Whether members are public in front of all specifiers. -/
def beginsPublic (n : Node) : Bool := n.kind = .structSpecifier

/-- Whether members are public behind others: the last specifier says it. -/
def accessBehind (source : Text) (isPublic : Bool) (front : List Node) : Bool :=
  ((front.filterMap (saysPublic? source)).getLast?).getD isPublic

/-- Members in order, each with whether it is public. -/
def accessed (source : Text) : Bool → List Node → List (Bool × Node)
  | _, [] => []
  | isPublic, n :: ns =>
    (isPublic, n) :: accessed source ((saysPublic? source n).getD isPublic) ns

variable {source : Text}

/-- The first member changes the access of those behind it if it is a specifier. -/
theorem accessBehind_cons (isPublic : Bool) (n : Node) (front : List Node) :
    accessBehind source isPublic (n :: front) =
      accessBehind source ((saysPublic? source n).getD isPublic) front := by
  cases h : saysPublic? source n with
  | none => rw [accessBehind, List.filterMap_cons_none h]; rfl
  | some b =>
    rw [accessBehind, List.filterMap_cons_some h, List.getLast?_cons]
    rfl

theorem map_snd_accessed (isPublic : Bool) (ns : List Node) :
    (accessed source isPublic ns).map Prod.snd = ns := by
  induction ns generalizing isPublic with
  | nil => rfl
  | cons n ns ih => rw [accessed, List.map_cons, ih]

/-- **Going along the members**, each one gets the access that the members in front of it leave. -/
theorem mem_accessed_iff {start isPublic : Bool} {n : Node} {ns : List Node} :
    (isPublic, n) ∈ accessed source start ns ↔
      ∃ front back, ns = front ++ n :: back ∧ isPublic = accessBehind source start front := by
  induction ns generalizing start with
  | nil => simp [accessed]
  | cons k ns ih =>
    rw [accessed, List.mem_cons, ih]
    constructor
    · rintro (h | ⟨front, back, rfl, rfl⟩)
      · obtain ⟨rfl, rfl⟩ := Prod.mk.inj h
        exact ⟨[], ns, rfl, rfl⟩
      · exact ⟨k :: front, back, rfl, (accessBehind_cons start k front).symm⟩
    · rintro ⟨front, back, h, rfl⟩
      cases front with
      | nil =>
        obtain ⟨rfl, -⟩ := List.cons.inj h
        exact .inl rfl
      | cons m front =>
        obtain ⟨rfl, hns⟩ := List.cons.inj h
        exact .inr ⟨front, back, hns, accessBehind_cons start k front⟩

/-! ## 2. Data members -/

/-- The node declares a non-static data member of a name. -/
def Declares (source : Text) (d : Node) (name : Text) : Prop :=
  d.kind = .fieldDeclaration ∧ isStatic source d = false ∧ (d.child? .type).isSome ∧
    ∃ declarator ∈ d.childrenIn .declarator, declarator.declaresFunction = false ∧
      declarator.declaredName? source = some name

/-- The non-static data members of an aggregate in order, each with whether it is public. -/
def dataMembers (source : Text) (n body : Node) : List (Bool × Member) :=
  ((accessed source (beginsPublic n) body.named).filter fun f =>
    f.2.kind = .fieldDeclaration && !isStatic source f.2).flatMap fun f =>
      (Member.ofNode source f.2).map (f.1, ·)

/-- The members of a declaration have the names that its declarators declare. -/
theorem exists_mem_ofNode_iff {d : Node} {name : Text} :
    (∃ m ∈ Member.ofNode source d, m.name = name) ↔
      (d.child? .type).isSome ∧ ∃ declarator ∈ d.childrenIn .declarator,
        declarator.declaresFunction = false ∧ declarator.declaredName? source = some name := by
  rw [Member.ofNode]
  cases d.child? .type with
  | none => simp
  | some type =>
    simp only [List.mem_filterMap, List.mem_filter, Option.map_eq_some_iff, Option.isSome_some,
      true_and, Bool.not_eq_true']
    constructor
    · rintro ⟨m, ⟨declarator, ⟨hmem, hfun⟩, declared, hname, rfl⟩, rfl⟩
      exact ⟨declarator, hmem, hfun, hname⟩
    · rintro ⟨declarator, hmem, hfun, hname⟩
      exact ⟨_, ⟨declarator, ⟨hmem, hfun⟩, name, hname, rfl⟩, rfl⟩

/-- The data members are those that the body declares, with the access of their declaration. -/
theorem exists_mem_dataMembers_iff {n body : Node} {isPublic : Bool} {name : Text} :
    (∃ m, (isPublic, m) ∈ dataMembers source n body ∧ m.name = name) ↔
      ∃ front d back, body.named = front ++ d :: back ∧ Declares source d name ∧
        isPublic = accessBehind source (beginsPublic n) front := by
  simp only [dataMembers, List.mem_flatMap, List.mem_filter, Bool.and_eq_true, decide_eq_true_eq,
    Bool.not_eq_true', Prod.exists]
  constructor
  · rintro ⟨m, ⟨isPublic', d, ⟨hd, hkind, hstatic⟩, hm⟩, hname⟩
    obtain ⟨m', hm', heq⟩ := List.mem_map.1 hm
    obtain ⟨rfl, rfl⟩ := Prod.mk.inj heq
    obtain ⟨front, back, hbody, haccess⟩ := mem_accessed_iff.1 hd
    exact ⟨front, d, back, hbody,
      ⟨hkind, hstatic, exists_mem_ofNode_iff.1 ⟨_, hm', hname⟩⟩, haccess⟩
  · rintro ⟨front, d, back, hbody, ⟨hkind, hstatic, hdeclares⟩, haccess⟩
    obtain ⟨m, hm, hname⟩ := exists_mem_ofNode_iff.2 hdeclares
    have hd := mem_accessed_iff.2 ⟨front, back, hbody, haccess⟩
    exact ⟨m, ⟨isPublic, d, ⟨hd, hkind, hstatic⟩, List.mem_map_of_mem hm⟩, hname⟩

/-- Access does not decide which data members there are. -/
theorem map_snd_dataMembers (n body : Node) :
    (dataMembers source n body).map Prod.snd =
      (body.named.filter fun m => m.kind = .fieldDeclaration && !isStatic source m).flatMap
        (Member.ofNode source) := by
  have hall := @map_snd_accessed source (beginsPublic n) body.named
  have hmembers : ∀ f : Bool × Node, ((Member.ofNode source f.2).map (f.1, ·)).map Prod.snd =
      Member.ofNode source f.2 := fun f => by rw [List.map_map]; exact List.map_id _
  rw [← hall, List.filter_map, List.flatMap_map, dataMembers, List.map_flatMap]
  exact List.flatMap_congr fun f _ => hmembers f

end Analysis.Aggregate

/-! ## 3. What a printer touches -/

namespace Snippet

open Analysis

/-- The member whose value a line of a printer writes. -/
def touched? (line : Text) : Option Text :=
  (Text.after? "    _debug_field(os, obj." line).bind (Text.before? ");")

/-- The members whose values the lines of a printer write. -/
def touched (a : Aggregate) : List Text :=
  (printerOpening a.name ++ membersLines a.members ++ printerClosing).filterMap touched?

/-- The lines of a member touch it once. -/
theorem touched_memberLines (separator : Text) (m : Member) :
    (memberLines separator m).filterMap touched? = [m.name] := by
  have hlabel : touched? ("    os << \"" ++ separator ++ "\\\"" ++ m.name ++ "\\\": \";") = none :=
    rfl
  have hrenew : ∀ pointee : Text, touched? ("    _debug_update_heap_info(obj." ++ m.name ++
      ", \"" ++ escapeLiteral pointee ++ "\");") = none := fun pointee => rfl
  have hvalue : touched? ("    _debug_field(os, obj." ++ m.name ++ ");") = some m.name := by
    rw [touched?, List.append_assoc, Text.after?_append]
    exact Text.before?_eq_some_iff.2 rfl
  cases hp : m.pointee? with
  | none =>
    rw [memberLines, hp]
    simp only [Option.toList_none, List.map_nil, List.append_nil, List.singleton_append,
      List.filterMap_cons, List.filterMap_nil, hlabel, hvalue]
  | some pointee =>
    rw [memberLines, hp]
    simp only [Option.toList_some, List.map_cons, List.map_nil, List.cons_append, List.nil_append,
      List.filterMap_cons, List.filterMap_nil, hlabel, hrenew, hvalue]

/-- **A printer touches every member of its aggregate**, in order. -/
theorem touched_eq (a : Aggregate) : touched a = a.members.map Member.name := by
  have hopening : (printerOpening a.name).filterMap touched? = [] := rfl
  have hclosing : printerClosing.filterMap touched? = [] := rfl
  have hmembers : (membersLines a.members).filterMap touched? = a.members.map Member.name := by
    cases a.members with
    | nil => rfl
    | cons m ms =>
      have hrest : (ms.flatMap (memberLines ", ")).filterMap touched? = ms.map Member.name := by
        rw [List.filterMap_flatMap, List.flatMap_congr fun m _ => touched_memberLines _ m,
          ← List.map_eq_flatMap]
      rw [membersLines, List.filterMap_append, touched_memberLines, hrest]
      rfl
  rw [touched, List.filterMap_append, List.filterMap_append, hopening, hclosing, hmembers,
    List.nil_append, List.append_nil]

theorem value_mem_memberLines (separator : Text) (m : Member) :
    "    _debug_field(os, obj." ++ m.name ++ ");" ∈ memberLines separator m :=
  List.mem_append_right _ List.mem_cons_self

/-- The text of a printer names every member of its aggregate. -/
theorem mentions_printer {a : Aggregate} {m : Member} (hm : m ∈ a.members) :
    Text.mentions ("    _debug_field(os, obj." ++ m.name ++ ");") (printer a) := by
  have hvalue : "    _debug_field(os, obj." ++ m.name ++ ");" ∈ membersLines a.members := by
    cases hmembers : a.members with
    | nil => simp [hmembers] at hm
    | cons first rest =>
      rw [hmembers] at hm
      rcases List.mem_cons.1 hm with rfl | hm
      · exact List.mem_append_left _ (value_mem_memberLines [] m)
      · exact List.mem_append_right _ (List.mem_flatMap.2 ⟨m, hm, value_mem_memberLines _ m⟩)
  obtain ⟨front, back, hlines⟩ := List.append_of_mem
    (List.mem_append_left printerClosing (List.mem_append_right (printerOpening a.name) hvalue))
  rw [Text.mentions_iff, printer, hlines]
  exact ⟨'\n' :: front.flatMap (· ++ ['\n']), '\n' :: back.flatMap (· ++ ['\n']), by simp⟩

end Snippet

/-! ## 4. Printed aggregates -/

namespace Analysis.Aggregate

/-- **The members of a printed aggregate** are all non-static data members that its body declares,
in order, whatever their access; the printer touches just these, and so it touches public members
only if and only if the body declares no others. -/
theorem members_of_ofPlace? {source : Text} {p : Place} {a : Aggregate}
    (h : ofPlace? source p = some a) :
    ∃ body, p.node.child? .body = some body ∧
      a.members = (dataMembers source p.node body).map Prod.snd ∧
      Snippet.touched a = a.members.map Member.name ∧
      (∀ m ∈ a.members,
        Text.mentions ("    _debug_field(os, obj." ++ m.name ++ ");") (Snippet.printer a)) ∧
      (∀ isPublic name, (∃ m, (isPublic, m) ∈ dataMembers source p.node body ∧ m.name = name) ↔
        ∃ front d back, body.named = front ++ d :: back ∧ Declares source d name ∧
          isPublic = accessBehind source (beginsPublic p.node) front) ∧
      ((∀ f ∈ dataMembers source p.node body, f.1 = true) ↔
        ∀ front d back name, body.named = front ++ d :: back → Declares source d name →
          accessBehind source (beginsPublic p.node) front = true) := by
  obtain ⟨-, -, body, hbody, hmembers⟩ := ofPlace?_eq_some h
  refine ⟨body, hbody, hmembers.trans (map_snd_dataMembers _ _).symm, Snippet.touched_eq _,
    fun _ => Snippet.mentions_printer, fun _ _ => exists_mem_dataMembers_iff,
    fun hall front d back name hnamed hdeclares => ?_, fun hall f hf => ?_⟩
  · obtain ⟨m, hm, -⟩ := exists_mem_dataMembers_iff.2 ⟨front, d, back, hnamed, hdeclares, rfl⟩
    exact hall _ hm
  · obtain ⟨front, d, back, hnamed, hdeclares, haccess⟩ :=
      exists_mem_dataMembers_iff.1 ⟨f.2, hf, rfl⟩
    exact haccess.trans (hall front d back f.2.name hnamed hdeclares)

end Analysis.Aggregate

namespace PrivateMember

/-! A class with a private member in front of a static one and a public one. -/

/-- The source. -/
def source : Text := "class P\x7bint x;public: static int n;int *y;\x7d;"

/-- A bare token. -/
def leaf (kind : Kind) (start stop : Nat) : Node :=
  .mk ⟨kind, .none, false, false, ⟨start, stop⟩, 0⟩ []

open NestedBodies in
/-- The body of the class. -/
def body : Node :=
  rule .fieldDeclarationList .body 7 43
    [leaf .openBrace 7 8,
      rule .fieldDeclaration .none 8 14
        [rule (.other "primitive_type") .type 8 11 [],
          rule .fieldIdentifier .declarator 12 13 [], leaf .semicolon 13 14],
      rule .accessSpecifier .none 14 20 [leaf (.other "public") 14 20],
      leaf .colon 20 21,
      rule .fieldDeclaration .none 22 35
        [rule .storageClassSpecifier .none 22 28 [leaf (.other "static") 22 28],
          rule (.other "primitive_type") .type 29 32 [],
          rule .fieldIdentifier .declarator 33 34 [], leaf .semicolon 34 35],
      rule .fieldDeclaration .none 35 42
        [rule (.other "primitive_type") .type 35 38 [],
          rule .pointerDeclarator .declarator 39 41
            [leaf (.other "*") 39 40, rule .fieldIdentifier .declarator 40 41 []],
          leaf .semicolon 41 42],
      leaf .closeBrace 42 43]

open NestedBodies in
/-- The class. -/
def specifier : Node :=
  rule .classSpecifier .none 0 43
    [leaf (.other "class") 0 5, rule .typeIdentifier .name 6 7 [], body]

open NestedBodies in
/-- The place of the class in its tree. -/
def place : Place :=
  { node := specifier
    ancestors := [rule (.other "translation_unit") .none 0 44 [specifier, leaf .semicolon 43 44]]
    next? := leaf .semicolon 43 44 }

end PrivateMember

namespace Analysis.Aggregate

/-- The printer of the class touches both members, of which the first one is not declared under
public access. -/
theorem members_of_ofPlace?_privateMember : ∃ a,
    ofPlace? PrivateMember.source PrivateMember.place = some a ∧
      Snippet.touched a = ["x".toList, "y".toList] ∧
      ¬ ∀ front d back name, PrivateMember.body.named = front ++ d :: back →
        Declares PrivateMember.source d name → accessBehind PrivateMember.source
          (beginsPublic PrivateMember.specifier) front = true := by
  have h : ofPlace? PrivateMember.source PrivateMember.place =
      some ⟨"P", [⟨"x", "int", false, none⟩, ⟨"y", "int", true, some "int".toList⟩], some 44⟩ := by
    decide +kernel
  obtain ⟨body, hbody, -, htouched, -, -, hpublic⟩ := members_of_ofPlace? h
  obtain rfl : PrivateMember.body = body := Option.some.inj hbody
  have hprivate : ¬ ∀ f ∈ dataMembers PrivateMember.source PrivateMember.specifier
      PrivateMember.body, f.1 = true := by decide +kernel
  exact ⟨_, h, htouched, fun hall => hprivate (hpublic.2 hall)⟩

end Analysis.Aggregate

end Stepwise
