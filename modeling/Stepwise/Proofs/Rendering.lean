import Stepwise.Graph.Build
import Stepwise.Instrument.Snippet
import Stepwise.Proofs.Text

/-!
# What printers write is read as tables

The printer of an aggregate writes the names of its members as they are and their values between
quotes, with the characters escaped that cannot stand there.  The reader of heap values takes both
back: what is written for any members with different names is read as the table of their names and
values, in the same order.

Main definitions and statements:

* `Rendering.text`: what is written for a list of fields, and `Rendering.written_printer`, that the
  generated printer writes just that;
* `Json.stringBody_escape`: a value is read back between its quotes;
* `HeapValue.ofText_rendering`: what is written is read as a table.
-/

namespace Stepwise

/-! ## 1. What is written -/

namespace Rendering

/-- What is written for a character of a value. -/
def escapeChar : Char → Text
  | '"' => "\\\""
  | '\\' => "\\\\"
  | '\n' => "\\n"
  | '\t' => "\\t"
  | '\r' => "\\r"
  | c => [c]

/-- What is written for the characters of a value. -/
def escape (value : Text) : Text := value.flatMap escapeChar

/-- What is written for a value. -/
def quoted (value : Text) : Text := '"' :: escape value ++ ['"']

/-- What is written for a field. -/
def field (f : Text × Text) : Text := '"' :: f.1 ++ "\": " ++ quoted f.2

/-- What is written for the fields of an aggregate. -/
def text (fields : List (Text × Text)) : Text := '{' :: Text.join ", " (fields.map field) ++ ['}']

/-- Whether a character may stand in a name. -/
def isNamePart (c : Char) : Bool :=
  c.isAlphanum || c == '_' || c == '$' || 0x80 ≤ c.toNat

/-- Whether a character may stand in a value: of the control characters only three. -/
def isPrintable (c : Char) : Bool :=
  0x20 ≤ c.toNat || c == '\n' || c == '\t' || c == '\r'

/-- Fields that an aggregate may have: names are different from each other. -/
structure WellFormed (fields : List (Text × Text)) : Prop where
  nonempty : fields ≠ []
  names : ∀ f ∈ fields, f.1.all isNamePart
  nodup : (fields.map Prod.fst).Nodup
  values : ∀ f ∈ fields, f.2.all isPrintable

/-- Names hold nothing that means anything else. -/
theorem ne_of_isNamePart {c : Char} (h : isNamePart c) :
    c ≠ '"' ∧ c ≠ '\\' ∧ c ≠ ':' ∧ 0x20 ≤ c.toNat := by
  have hcontrol : ∀ n < 0x20, ¬ isNamePart (Char.ofNat n) := by decide
  refine ⟨?_, ?_, ?_, ?_⟩
  · rintro rfl
    exact absurd h (by decide)
  · rintro rfl
    exact absurd h (by decide)
  · rintro rfl
    exact absurd h (by decide)
  · refine Nat.le_of_not_lt fun hlt => hcontrol _ hlt ?_
    rwa [Char.ofNat_toNat]

/-- A carriage return is escaped, so none is written. -/
theorem return_not_mem_text {fields : List (Text × Text)} (h : WellFormed fields) :
    '\r' ∉ text fields := by
  have hvalue : ∀ value : Text, '\r' ∉ escape value := by
    intro value hm
    obtain ⟨c, -, hc⟩ := List.mem_flatMap.1 hm
    unfold escapeChar at hc
    split at hc
    · exact absurd hc (by decide)
    · exact absurd hc (by decide)
    · exact absurd hc (by decide)
    · exact absurd hc (by decide)
    · exact absurd hc (by decide)
    · next hreturn => exact hreturn (List.mem_singleton.1 hc).symm
  have hname : ∀ f ∈ fields, '\r' ∉ f.1 := fun f hf hm =>
    absurd (ne_of_isNamePart (List.all_eq_true.1 (h.names f hf) _ hm)).2.2.2 (by decide)
  have hfield : ∀ f ∈ fields, '\r' ∉ field f := fun f hf => by
    simp [field, quoted, hname f hf, hvalue f.2]
  intro hm
  simp only [text, List.cons_append, List.mem_cons, List.mem_append, List.not_mem_nil, or_false]
    at hm
  rcases hm with hm | hm | hm
  · exact absurd hm (by decide)
  · rcases Text.mem_join hm with hm | ⟨part, hpart, hm⟩
    · exact absurd hm (by decide)
    · obtain ⟨f, hf, rfl⟩ := List.mem_map.1 hpart
      exact hfield f hf hm
  · exact absurd hm (by decide)

/-! ## 2. Printers -/

/-- What a string literal stands for, from behind its opening quote. -/
def literal : Text → Text
  | [] => []
  | '"' :: _ => []
  | '\\' :: c :: t => c :: literal t
  | c :: t => c :: literal t

/-- What a line of a printer writes, by the values of the members: a literal as it stands and a
member as a value. -/
def written (value : Text → Text) (line : Text) : Text :=
  match Text.after? "    os << \"" line with
  | some t => literal t
  | none =>
    match (Text.after? "    _debug_field(os, obj." line).bind (Text.before? ");") with
    | some name => quoted (value name)
    | none => []

/-- A name in a literal stands for itself. -/
theorem literal_name {name : Text} (h : name.all isNamePart) (t : Text) :
    literal (name ++ t) = name ++ literal t := by
  induction name with
  | nil => rfl
  | cons c name ih =>
    rw [List.all_cons, Bool.and_eq_true] at h
    obtain ⟨hquote, hslash, -, -⟩ := ne_of_isNamePart h.1
    rw [List.cons_append, literal, ih h.2, List.cons_append]
    · exact hquote
    · exact fun _ _ hc _ => hslash hc

/-- The lines of one member write its field. -/
theorem written_memberLines {m : Analysis.Member} (h : m.name.all isNamePart) {separator : Text}
    (hs : separator = [] ∨ separator = ", ".toList) (value : Text → Text) :
    (Snippet.memberLines separator m).flatMap (written value) =
      separator ++ field (m.name, value m.name) := by
  have hliteral : literal (separator ++ "\\\"" ++ m.name ++ "\\\": \";") =
      separator ++ '"' :: m.name ++ "\": " := by
    have hname := literal_name h "\\\": \";"
    rcases hs with rfl | rfl
    · exact congrArg ('"' :: ·) hname
    · exact congrArg (',' :: ' ' :: '"' :: ·) hname
  have hlabel : written value ("    os << \"" ++ separator ++ "\\\"" ++ m.name ++ "\\\": \";") =
      separator ++ '"' :: m.name ++ "\": " := by
    rw [written, List.append_assoc, List.append_assoc, List.append_assoc, Text.after?_append,
      ← List.append_assoc, ← List.append_assoc]
    exact hliteral
  have hrenew : ∀ pointee : Text, written value ("    _debug_update_heap_info(obj." ++ m.name ++
      ", \"" ++ Snippet.escapeLiteral pointee ++ "\");") = [] := fun pointee => rfl
  have hvalue : written value ("    _debug_field(os, obj." ++ m.name ++ ");") =
      quoted (value m.name) := by
    have hnone : Text.after? "    os << \"" ("    _debug_field(os, obj." ++ (m.name ++ ");")) = none :=
      rfl
    have hname : Text.before? ");" (m.name ++ ");") = some m.name :=
      Text.before?_eq_some_iff.2 rfl
    rw [written, List.append_assoc, hnone, Text.after?_append, Option.bind_some, hname]
  cases hp : m.pointee? with
  | none =>
    rw [Snippet.memberLines, hp]
    simp only [Option.toList_none, List.map_nil, List.append_nil, List.singleton_append,
      List.flatMap_cons, List.flatMap_nil, hlabel, hvalue]
    simp only [field, List.cons_append, List.append_assoc]
  | some pointee =>
    rw [Snippet.memberLines, hp]
    simp only [Option.toList_some, List.map_cons, List.map_nil, List.cons_append, List.nil_append,
      List.flatMap_cons, List.flatMap_nil, hlabel, hvalue, hrenew, List.append_nil]
    simp only [field, List.cons_append, List.append_assoc]

/-- **A printer writes what its members are rendered as.** -/
theorem written_printer (a : Analysis.Aggregate) (h : ∀ m ∈ a.members, m.name.all isNamePart)
    (value : Text → Text) :
    (Snippet.printerOpening a.name ++ Snippet.membersLines a.members ++
      Snippet.printerClosing).flatMap (written value) =
      text (a.members.map fun m => (m.name, value m.name)) := by
  have hopening : (Snippet.printerOpening a.name).flatMap (written value) = ['{'] := rfl
  have hclosing : Snippet.printerClosing.flatMap (written value) = ['}'] := rfl
  have hmembers : (Snippet.membersLines a.members).flatMap (written value) =
      Text.join ", " ((a.members.map fun m => (m.name, value m.name)).map field) := by
    cases hm : a.members with
    | nil => rfl
    | cons m ms =>
      rw [hm] at h
      have hfirst := written_memberLines (h m List.mem_cons_self) (.inl rfl) value
      have hrest : (ms.flatMap (Snippet.memberLines ", ")).flatMap (written value) =
          ms.flatMap fun m => ", ".toList ++ field (m.name, value m.name) := by
        rw [List.flatMap_assoc]
        exact List.flatMap_congr fun m hmem =>
          written_memberLines (h m (List.mem_cons_of_mem _ hmem)) (.inr rfl) value
      rw [Snippet.membersLines, List.flatMap_append, hfirst, hrest, List.map_cons, List.map_cons,
        Text.join_cons, List.flatMap_map, List.flatMap_map, List.nil_append]
  rw [List.flatMap_append, List.flatMap_append, hopening, hclosing, hmembers]
  rfl

/-! ## 3. Strings -/

open Json (push stringBody)

/-- What is written for a character is read as that character. -/
theorem stringBody_escapeChar (lone : Option Char) {c : Char} (h : isPrintable c) (t : Text) :
    stringBody lone (escapeChar c ++ t) = push c (stringBody lone t) := by
  unfold escapeChar
  split
  · rfl
  · rfl
  · rfl
  · rfl
  · rfl
  · next hquote hslash hnewline htab hreturn =>
    have hcontrol : ¬ c.toNat < 0x20 := by
      simp only [isPrintable, Bool.or_eq_true, decide_eq_true_eq, beq_iff_eq] at h
      rcases h with ((h | h) | h) | h
      · exact Nat.not_lt.2 h
      · exact (hnewline h).elim
      · exact (htab h).elim
      · exact (hreturn h).elim
    rw [List.singleton_append, stringBody, if_neg hcontrol]
    · exact hquote
    · exact fun _ _ _ _ _ hc _ => hslash hc
    · exact fun _ _ hc _ => hslash hc

/-- **A value is read back** up to the quote behind it. -/
theorem stringBody_escape (lone : Option Char) {value : Text} (h : value.all isPrintable)
    (rest : Text) : stringBody lone (escape value ++ '"' :: rest) = some (value, rest) := by
  induction value with
  | nil => rfl
  | cons c value ih =>
    rw [List.all_cons, Bool.and_eq_true] at h
    have hcons : escape (c :: value) = escapeChar c ++ escape value := rfl
    rw [hcons, List.append_assoc, stringBody_escapeChar lone h.1, ih h.2]
    rfl

/-- A name is written as it is. -/
theorem escape_name {name : Text} (h : name.all isNamePart) : escape name = name := by
  have hpart : ∀ c ∈ name, escapeChar c = [c] := by
    intro c hc
    obtain ⟨hquote, hslash, -, hcontrol⟩ := ne_of_isNamePart (List.all_eq_true.1 h c hc)
    unfold escapeChar
    split
    · exact absurd rfl hquote
    · exact absurd rfl hslash
    · exact absurd hcontrol (by decide)
    · exact absurd hcontrol (by decide)
    · exact absurd hcontrol (by decide)
    · rfl
  rw [escape, List.flatMap_congr hpart, List.flatMap_singleton']

theorem stringBody_name (lone : Option Char) {name : Text} (h : name.all isNamePart)
    (rest : Text) : stringBody lone (name ++ '"' :: rest) = some (name, rest) := by
  have hprintable : name.all isPrintable := by
    refine List.all_eq_true.2 fun c hc => ?_
    have hcontrol := (ne_of_isNamePart (List.all_eq_true.1 h c hc)).2.2.2
    simp [isPrintable, hcontrol]
  conv => lhs; rw [← escape_name h]
  exact stringBody_escape lone hprintable rest

/-! ## 4. Objects -/

open Json (members skip value)

/-- The value that a field is read as. -/
def member (f : Text × Text) : Text × Json := (f.1, .string f.2)

/-- A value behind a blank is read as a string. -/
theorem value_quoted (lone : Option Char) {t : Text} (h : t.all isPrintable) (fuel depth : Nat)
    (rest : Text) :
    value lone (fuel + 1) depth (' ' :: quoted t ++ rest) = some (.string t, rest) := by
  have hskip : skip (' ' :: quoted t ++ rest) = '"' :: (escape t ++ '"' :: rest) := by
    simp [skip, quoted, Json.isSpace]
  rw [value, hskip]
  simp only [stringBody_escape lone h rest, Option.map_some]

/-- What follows when a field has been read. -/
theorem members_field (lone : Option Char) {f : Text × Text} (hname : f.1.all isNamePart)
    (hvalue : f.2.all isPrintable) (fuel depth : Nat) {t tail : Text}
    (ht : skip t = field f ++ tail) :
    members lone (fuel + 2) depth t = match skip tail with
      | '}' :: rest => some ([member f], rest)
      | ',' :: rest =>
        (members lone (fuel + 1) depth rest).map fun (ms, rest) => (member f :: ms, rest)
      | _ => none := by
  have hfield : field f ++ tail = '"' :: (f.1 ++ '"' :: ':' :: (' ' :: quoted f.2 ++ tail)) := by
    simp [field]
  have hcolon : ∀ u, skip (':' :: u) = ':' :: u := fun u => rfl
  rw [members, ht, hfield]
  simp only [stringBody_name lone hname, hcolon, value_quoted lone hvalue]
  rfl

/-- **Fields are read one by one**, up to the brace behind them.  The induction is on the fields, of
which all but the first stand behind a blank. -/
theorem members_fields (lone : Option Char) {fields : List (Text × Text)} (hne : fields ≠ [])
    (hnames : ∀ f ∈ fields, f.1.all isNamePart) (hvalues : ∀ f ∈ fields, f.2.all isPrintable)
    {fuel : Nat} (hfuel : fields.length < fuel) (depth : Nat) (rest : Text) {t : Text}
    (ht : skip t = Text.join ", " (fields.map field) ++ '}' :: rest) :
    members lone fuel depth t = some (fields.map member, rest) := by
  induction fields generalizing fuel t with
  | nil => exact absurd rfl hne
  | cons f fields ih =>
    obtain ⟨fuel, rfl⟩ : ∃ n, fuel = n + 2 := by
      rw [List.length_cons] at hfuel
      exact ⟨fuel - 2, by omega⟩
    rw [List.map_cons, Text.join_cons, List.append_assoc] at ht
    rw [members_field lone (hnames f List.mem_cons_self) (hvalues f List.mem_cons_self) fuel depth ht]
    cases fields with
    | nil => rfl
    | cons g gs =>
      have hskip : skip (' ' :: Text.join ", " ((g :: gs).map field) ++ '}' :: rest) =
          Text.join ", " ((g :: gs).map field) ++ '}' :: rest := by
        rw [List.map_cons, Text.join_cons]
        rfl
      have hshorter : (g :: gs).length < fuel + 1 := by
        simp only [List.length_cons] at hfuel ⊢
        omega
      have hmore := ih (List.cons_ne_nil g gs) (fun x hx => hnames x (List.mem_cons_of_mem _ hx))
        (fun x hx => hvalues x (List.mem_cons_of_mem _ hx)) hshorter hskip
      have htail : ((g :: gs).map field).flatMap (", ".toList ++ ·) ++ '}' :: rest =
          ',' :: (' ' :: Text.join ", " ((g :: gs).map field) ++ '}' :: rest) := by
        rw [List.map_cons, Text.join_cons, List.flatMap_cons]
        simp
      have hcomma : ∀ u, skip (',' :: u) = ',' :: u := fun u => rfl
      rw [htail, hcomma]
      simp only [hmore]
      rfl

/-- There are no more fields than characters written for them. -/
theorem length_le_length_text (fields : List (Text × Text)) :
    fields.length ≤ (text fields).length := by
  cases fields with
  | nil => exact Nat.zero_le _
  | cons f fields =>
    have hrest : fields.length ≤ ((fields.map field).flatMap (", ".toList ++ ·)).length := by
      induction fields with
      | nil => exact Nat.le_refl _
      | cons g gs ih =>
        simp only [List.map_cons, List.flatMap_cons, List.length_append, List.length_cons] at ih ⊢
        have hcomma : ", ".toList.length = 2 := rfl
        omega
    rw [text, List.map_cons, Text.join_cons]
    simp only [List.length_cons, List.length_append]
    omega

/-- **What is written for fields is read as an object of strings.** -/
theorem read?_text {fields : List (Text × Text)} (h : WellFormed fields) :
    Json.read? (text fields) = some (.object (fields.map member)) := by
  have hlength := length_le_length_text fields
  have hopen : skip (text fields) = '{' :: (Text.join ", " (fields.map field) ++ ['}']) := rfl
  obtain ⟨u, hquote⟩ : ∃ u, Text.join ", " (fields.map field) ++ ['}'] = '"' :: u := by
    cases hf : fields with
    | nil => exact absurd hf h.nonempty
    | cons f fields =>
      rw [List.map_cons, Text.join_cons]
      exact ⟨_, rfl⟩
  have hskip : ∀ u, skip ('"' :: u) = '"' :: u := fun u => rfl
  have hfuel : fields.length < 2 * (text fields).length + 1 := by omega
  have hmembers := members_fields none h.nonempty h.names h.values hfuel 126 []
    ((hskip u).trans hquote.symm)
  have hobject : value none (2 * (text fields).length + 2) Json.maxDepth (text fields) =
      (members none (2 * (text fields).length + 1) 126 ('"' :: u)).map
        fun (ms, rest) => (.object ms, rest) := by
    rw [value, hopen, hquote]
    rfl
  rw [Json.read?, Json.front?, hobject, hmembers]
  rfl

/-! ## 5. Tables -/

theorem settleMembers?_member (fields : List (Text × Text)) :
    Json.settleMembers? (fields.map member) = some (fields.map member) := by
  induction fields with
  | nil => rfl
  | cons f fields ih =>
    rw [List.map_cons, member, Json.settleMembers?, ih]
    rfl

end Rendering

/-- Members with different names are a table already. -/
theorem Json.table_eq_self {α : Type} {ms : List (Text × α)} (h : (ms.map Prod.fst).Nodup) :
    Json.table ms = ms := by
  have hput : ∀ done, ((done ++ ms).map Prod.fst).Nodup →
      ms.foldl Json.table.put done = done ++ ms := by
    clear h
    induction ms with
    | nil => exact fun done _ => (List.append_nil done).symm
    | cons m ms ih =>
      intro done hnodup
      have hnone : done.any (fun f => f.1 == m.1) = false := by
        rw [List.any_eq_false]
        intro f hf heq
        rw [List.map_append, List.nodup_append] at hnodup
        exact hnodup.2.2 _ (List.mem_map_of_mem hf) _ (List.mem_map_of_mem List.mem_cons_self)
          (beq_iff_eq.1 heq)
      have hnew : Json.table.put done m = done ++ [m] := by
        rw [Json.table.put, hnone]
        rfl
      rw [List.foldl_cons, hnew, ih, List.append_assoc]
      · rfl
      · simpa using hnodup
  exact hput [] h

namespace HeapValue

/-- **What a printer writes is read as a table** of the names and values of its members. -/
theorem ofText_rendering {fields : List (Text × Text)} (h : Rendering.WellFormed fields) :
    ofText (Rendering.text fields) = .table fields := by
  have hnodup : ((fields.map Rendering.member).map Prod.fst).Nodup := by
    rw [List.map_map]
    exact h.nodup
  have hmembers : Json.ofMembers? (fields.map Rendering.member) =
      some (.object (fields.map Rendering.member)) := by
    cases hf : fields with
    | nil => exact absurd hf h.nonempty
    | cons f more =>
      -- no name of a member is the one under which numbers are spelled out
      have hname : f.1 ≠ Json.numberName := by
        intro heq
        have hnames := h.names f (by simp [hf])
        exact absurd (heq ▸ hnames) (by decide)
      have htable := Json.table_eq_self hnodup
      rw [hf] at htable
      have hobject : Json.ofMembers? ((f :: more).map Rendering.member) =
          some (.object (Json.table ((f :: more).map Rendering.member))) := if_neg hname
      rw [hobject, htable]
  have hsettled : (Json.read? (Rendering.text fields)).bind Json.settle? =
      some (.object (fields.map Rendering.member)) := by
    rw [Rendering.read?_text h, Option.bind_some, Json.settle?, Rendering.settleMembers?_member,
      Option.bind_some, hmembers]
  have hopen : Text.trimStart (Rendering.text fields) = Rendering.text fields := rfl
  have hfields : (fields.map Rendering.member).map (fun m => (m.1, fieldText m.2)) = fields := by
    rw [List.map_map]
    exact List.map_id fields
  rw [ofText, hopen, hsettled, Rendering.text]
  exact congrArg HeapValue.table hfields

end HeapValue

end Stepwise
