import Mathlib.Data.Set.Function
import Stepwise.Record.Basic
import Stepwise.Proofs.Text

/-!
# Records that are read back

The written form of a record is a single line between bars, and only values are escaped.  So values
come back from any text, up to carriage returns, while the other fields come back exactly if they
hold neither a bar nor a newline; and no line that is read gives a record whose type or frame holds
one of them.

A value is written in units: an escape for a newline, for a backslash and, in the last field, for a
bar, and every other character but a carriage return as it is.  Only escapes begin with a backslash,
and none begins like another one, so reading, which looks for an escape at every backslash, takes
what is written apart into the units that it was made of, whatever backslashes and spellings of
escapes the value holds.  Of other texts it is no inverse: a backslash that begins no escape is
kept, and would be written as two.

Reading the line of a record gives the record back exactly if the line says all of it: the fields
that are written as they are hold no bar, the name is not empty, a target spells an address, and
values hold no carriage return and are not told from no value by being empty.  Whatever is read of
a line without carriage returns is such a record, so that reading, writing and reading again is the
same as reading once.

Main statements:

* `Field.decode_encode`: a value is read back without its carriage returns;
* `Field.encode_decode_eq_self_iff`: which texts are written again as they were read, and
  `Field.encode_reversible`, escaping loses nothing but carriage returns;
* `Address.read?_text`: an address is read back;
* `Record.ofLine_join`: a line of seven fields is read as these fields, with any text for the value;
* `Record.exists_fields_of_ofLine`: whatever is read of a line is made of its fields;
* `Record.ofLineLossy_plain`: types and frames that are read hold neither bars nor newlines;
* `Record.ofLine_line_iff`: which records come back from their line.
-/

namespace Stepwise

/-! ## 1. Values -/

/-- A text without its carriage returns. -/
def Text.withoutReturns (t : Text) : Text := t.filter (· ≠ '\r')

/-- Whether a text fits between the bars of a line as it is. -/
def Text.Plain (t : Text) : Prop := '|' ∉ t ∧ '\n' ∉ t

instance (t : Text) : Decidable t.Plain := inferInstanceAs (Decidable ('|' ∉ t ∧ '\n' ∉ t))

namespace Field

theorem decode_cons {c : Char} (h : c ≠ '\\') (t : Text) : decode (c :: t) = c :: decode t := by
  rw [decode.eq_4] <;> simp [h]

theorem decode_append {s : Text} (h : '\\' ∉ s) (t : Text) : decode (s ++ t) = s ++ decode t := by
  induction s with
  | nil => rfl
  | cons c s ih =>
    rw [List.mem_cons, not_or] at h
    rw [List.cons_append, decode_cons (Ne.symm h.1), ih h.2, List.cons_append]

/-- **A value is read back without its carriage returns**, whatever it holds. -/
theorem decode_encode (place : Place) (t : Text) : decode (encode place t) = t.withoutReturns := by
  induction t with
  | nil => rfl
  | cons c t ih =>
    have hcons : encode place (c :: t) = encodeChar place c ++ encode place t := rfl
    have hkeep : c ≠ '\r' → Text.withoutReturns (c :: t) = c :: Text.withoutReturns t := by
      intro hc
      simp [Text.withoutReturns, hc]
    rw [hcons, encodeChar]
    split
    · next hc =>
      subst hc
      rw [hkeep (by decide), ← ih]
      rfl
    · split
      · next hc =>
        subst hc
        rw [hkeep (by decide), ← ih]
        rfl
      · split
        · next hc =>
          subst hc
          exact ih
        · next hbackslash hreturn =>
          split
          · next hc =>
            obtain ⟨rfl, -⟩ := hc
            rw [hkeep hreturn, ← ih]
            rfl
          · rw [hkeep hreturn, ← ih]
            exact decode_cons hbackslash _

/-- A value that is written holds no line break. -/
theorem not_mem_encode {c : Char} (hc : c = '\n' ∨ c = '\r') (place : Place) (t : Text) :
    c ∉ encode place t := by
  rw [encode, List.mem_flatMap]
  rintro ⟨d, -, hd⟩
  unfold encodeChar at hd
  split_ifs at hd with h1 h2 h3 h4
  · rcases hc with rfl | rfl <;> simp at hd
  · rcases hc with rfl | rfl <;> simp at hd
  · cases hd
  · rcases hc with rfl | rfl <;> simp at hd
  · obtain rfl := List.mem_singleton.1 hd
    exact hc.elim h1 h3

/-- In the last field bars are escaped. -/
theorem bar_not_mem_encode_last (t : Text) : '|' ∉ encode .last t := by
  rw [encode, List.mem_flatMap]
  rintro ⟨d, -, hd⟩
  unfold encodeChar at hd
  split_ifs at hd with h1 h2 h3 h4
  · simp at hd
  · simp at hd
  · cases hd
  · simp at hd
  · obtain rfl := List.mem_singleton.1 hd
    exact h4 ⟨rfl, rfl⟩

theorem encode_eq_nil_iff (place : Place) (t : Text) :
    encode place t = [] ↔ t.withoutReturns = [] := by
  rw [encode, List.flatMap_eq_nil_iff, Text.withoutReturns, List.filter_eq_nil_iff]
  refine forall₂_congr fun c _ => ?_
  unfold encodeChar
  split_ifs <;> simp_all

end Field

/-! ## 2. Addresses -/

/-- Written digits are digits. -/
theorem Text.mem_digits {radix : Nat} (h2 : 2 ≤ radix) (h16 : radix ≤ 16) {n : Nat} {c : Char}
    (hc : c ∈ digits radix n) : ∃ d < 16, c = digitOf d := by
  induction n using Nat.strongRecOn with
  | ind n ih =>
    rw [digits] at hc
    split at hc
    · next h =>
      have hlt : n / radix < n := Nat.div_lt_self (by omega) (by omega)
      rcases List.mem_append.1 hc with hc | hc
      · exact ih _ hlt hc
      · have hmod : n % radix < radix := Nat.mod_lt _ (by omega)
        exact ⟨n % radix, by omega, List.mem_singleton.1 hc⟩
    · next h => exact ⟨n, by omega, List.mem_singleton.1 hc⟩

theorem Text.digits_ne_nil (radix n : Nat) : digits radix n ≠ [] := by
  rw [digits]
  split <;> simp

/-- A written number is read back under a bound. -/
theorem Text.readNumeral_digits {radix bound n : Nat} (h2 : 2 ≤ radix) (h16 : radix ≤ 16)
    (hn : n < bound) : readNumeral radix bound (digits radix n) = .ok n := by
  have hplus : ∀ d < 16, digitOf d ≠ '+' := by decide
  rw [← readDigits_digits h2 h16 n hn]
  cases hd : digits radix n with
  | nil => exact absurd hd (digits_ne_nil radix n)
  | cons c t =>
    have hc : c ∈ digits radix n := hd ▸ List.mem_cons_self
    obtain ⟨d, hlt, rfl⟩ := mem_digits h2 h16 hc
    rw [readNumeral.eq_3] <;> simp [hplus d hlt]

namespace Address

theorem mem_text {address : Nat} {c : Char} (hc : c ∈ text address) :
    c = 'x' ∨ ∃ d < 16, c = Text.digitOf d := by
  rw [text, List.mem_cons, List.mem_cons] at hc
  rcases hc with rfl | rfl | hc
  · exact .inr ⟨0, by decide, rfl⟩
  · exact .inl rfl
  · exact .inr (Text.mem_digits (by decide) (by decide) hc)

theorem forall_mem_text {p : Char → Prop} (hx : p 'x') (hd : ∀ d < 16, p (Text.digitOf d))
    (address : Nat) : ∀ c ∈ text address, p c := by
  intro c hc
  rcases mem_text hc with rfl | ⟨d, hlt, rfl⟩
  · exact hx
  · exact hd d hlt

theorem bar_not_mem_text (address : Nat) : '|' ∉ text address := fun h =>
  forall_mem_text (p := (· ≠ '|')) (by decide) (by decide) address _ h rfl

theorem newline_not_mem_text (address : Nat) : '\n' ∉ text address := fun h =>
  forall_mem_text (p := (· ≠ '\n')) (by decide) (by decide) address _ h rfl

/-- **An address is read back.** -/
theorem read?_text {address : Nat} (h0 : 0 < address) (hb : address < bound) :
    read? (text address) = some address := by
  have hplain := forall_mem_text (p := fun c => ¬ Text.isBlank c) (by decide) (by decide) address
  have htrim : (text address).trim = text address :=
    Text.trim_eq_self (fun c hc => hplain c (List.mem_of_head? hc))
      fun c hc => hplain c (List.mem_of_getLast? hc)
  have hnumeral : Text.readNumeral 16 bound (Text.digits 16 address) = .ok address :=
    Text.readNumeral_digits (by decide) (by decide) hb
  have hhex : hexDigits? (text address) = some (Text.digits 16 address) := rfl
  simp only [read?, htrim, hhex, hnumeral, Except.toOption]
  exact Option.filter_eq_some_iff.2 ⟨rfl, by simpa using h0.ne'⟩

theorem canonical?_text {address : Nat} (h0 : 0 < address) (hb : address < bound) :
    canonical? (text address) = some (text address) := by
  rw [canonical?, read?_text h0 hb, Option.map_some]

end Address

namespace Record

/-! ## 3. Lines of seven fields -/

/-- The fields of a line of seven fields: those of the value may be several. -/
theorem fields_join_seven {name typeName own target frame pointee : Text} (hname : '|' ∉ name)
    (htype : '|' ∉ typeName) (hown : '|' ∉ own) (htarget : '|' ∉ target) (hframe : '|' ∉ frame)
    (hpointee : '|' ∉ pointee) (value : Text) :
    Text.fields '|' (Text.join ['|'] [name, typeName, own, value, target, frame, pointee]) =
      name :: typeName :: own :: (Text.fields '|' value ++ [target, frame, pointee]) := by
  rw [Text.fields_join '|' (List.cons_ne_nil _ _)]
  simp [Text.fields_of_not_mem, hname, htype, hown, htarget, hframe, hpointee]

/-- **A line of seven fields is read as these fields**, whatever stands in the value: the bars in
excess belong to it. -/
theorem ofLine_join {name typeName own target frame pointee : Text} (hname : '|' ∉ name)
    (htype : '|' ∉ typeName) (hown : '|' ∉ own) (htarget : '|' ∉ target) (hframe : '|' ∉ frame)
    (hpointee : '|' ∉ pointee) (value : Text) :
    ofLine (Text.join ['|'] [name, typeName, own, value, target, frame, pointee]) =
      ofFields (Text.join ['|'] [name, typeName, own, value, target, frame, pointee])
        name typeName own value target frame pointee := by
  have hfields := fields_join_seven hname htype hown htarget hframe hpointee value
  have hvalue := Text.join_fields '|' value
  have hne : (Text.fields '|' value).reverse ≠ [] :=
    fun h => Text.splitBy_ne_nil _ value (List.reverse_eq_nil_iff.1 h)
  obtain ⟨part, parts, hparts⟩ := List.exists_cons_of_ne_nil hne
  have hreverse : (Text.fields '|' value ++ [target, frame, pointee]).reverse =
      pointee :: frame :: target :: part :: parts := by
    simp [hparts]
  have hback : (part :: parts).reverse = Text.fields '|' value := by
    rw [← hparts, List.reverse_reverse]
  have hbar : "|".toList = ['|'] := rfl
  generalize Text.join ['|'] [name, typeName, own, value, target, frame, pointee] = line
    at hfields ⊢
  simp only [ofLine, hfields, hreverse, hback, hbar, hvalue]

/-! ## 4. What a line can hold -/

/-- A record whose type and frame fit between bars. -/
structure Plain (r : Record) : Prop where
  typeName : r.typeName.Plain
  frameLabel : r.frameLabel.Plain

/-- A record that is read of fields is made of them. -/
theorem ofFields_eq_ok {line name typeName own value target frame pointee : Text} {r : Record} :
    ofFields line name typeName own value target frame pointee = .ok r ↔ name ≠ [] ∧
      r = { name, typeName, ownAddress := own
            displayValue := Field.decode value
            pointeeAddress := if (Address.read? target).isSome then some target else none
            frameLabel := frame
            pointeeValue := if pointee.isEmpty then none else some (Field.decode pointee) } := by
  unfold ofFields
  split
  · next h =>
    obtain rfl := List.isEmpty_iff.1 h
    exact ⟨fun he => (nomatch he), fun he => absurd rfl he.1⟩
  · next h =>
    rw [Except.ok.injEq, eq_comm]
    exact ⟨fun he => ⟨fun hnil => h (List.isEmpty_iff.2 hnil), he⟩, And.right⟩

/-- **What is read of a line** is made of its fields: all but the values are fields themselves, and
the values hold nothing that is not in the line. -/
theorem exists_fields_of_ofLine {line : Text} {r : Record} (h : ofLine line = .ok r) :
    ∃ name typeName own value target frame pointee,
      ofFields line name typeName own value target frame pointee = .ok r ∧
      (name ∈ Text.fields '|' line ∧ typeName ∈ Text.fields '|' line ∧
        own ∈ Text.fields '|' line ∧ target ∈ Text.fields '|' line ∧
          frame ∈ Text.fields '|' line) ∧
      ∀ c ∈ value ++ pointee, c = '|' ∨ c ∈ line := by
  have hin : ∀ {part c}, part ∈ Text.fields '|' line → c ∈ part → c = '|' ∨ c ∈ line := by
    intro part c hpart hc
    by_cases hbar : c = '|'
    · exact .inl hbar
    · exact .inr ((Text.mem_iff_mem_fields hbar).2 ⟨part, hpart, hc⟩)
  simp only [ofLine] at h
  generalize Text.fields '|' line = parts at h hin ⊢
  split at h
  · next name typeName own rest =>
    have hrest : ∀ part ∈ rest.reverse, part ∈ name :: typeName :: own :: rest := fun part hp =>
      by simp [List.mem_reverse.1 hp]
    split at h
    · next frame target value heq =>
      rw [heq] at hrest
      refine ⟨_, _, _, _, _, _, _, h, ?_, fun c hc => ?_⟩
      · exact ⟨by simp, by simp, by simp, hrest target (by simp), hrest frame (by simp)⟩
      · exact hin (hrest value (by simp)) (by simpa using hc)
    · next pointee frame target value values heq =>
      rw [heq] at hrest
      refine ⟨_, _, _, _, _, _, _, h, ?_, fun c hc => ?_⟩
      · exact ⟨by simp, by simp, by simp, hrest target (by simp), hrest frame (by simp)⟩
      · rcases List.mem_append.1 hc with hc | hc
        · rcases Text.mem_join hc with hbar | ⟨part, hpart, hc⟩
          · exact .inl (List.mem_singleton.1 hbar)
          · have hmem := List.mem_reverse.1 hpart
            exact hin (hrest part (by simp only [List.mem_cons] at hmem ⊢; tauto)) hc
        · exact hin (hrest pointee (by simp)) hc
    · cases h
  · cases h

/-- **A line gives a type and a frame that fit between bars**, however it is read. -/
theorem ofLineLossy_plain {line : Text} (h : '\n' ∉ line) : Plain (ofLineLossy line) := by
  rw [ofLineLossy]
  cases hr : ofLine line with
  | error e =>
    have hunknown : Text.Plain "unknown".toList := by decide
    exact ⟨hunknown, hunknown⟩
  | ok r =>
    have hfree : ∀ part ∈ Text.fields '|' line, Text.Plain part := fun part hp =>
      ⟨Text.not_mem_of_mem_fields hp, fun hn =>
        h ((Text.mem_iff_mem_fields (by decide)).2 ⟨part, hp, hn⟩)⟩
    obtain ⟨_, _, _, _, _, _, _, hof, ⟨-, htype, -, -, hframe⟩, -⟩ := exists_fields_of_ofLine hr
    obtain ⟨-, rfl⟩ := ofFields_eq_ok.1 hof
    exact ⟨hfree _ htype, hfree _ hframe⟩

end Record

/-! ## 5. Values that come back unchanged -/

namespace Field

theorem decode_eq_nil_iff {t : Text} : decode t = [] ↔ t = [] := by
  fun_cases decode t <;> simp

/-- Reading puts no carriage return into a value. -/
theorem return_not_mem_decode {t : Text} (h : '\r' ∉ t) : '\r' ∉ decode t := by
  fun_induction decode t with
  | case1 t ih => simp_all
  | case2 t ih => simp_all
  | case3 t ih => simp_all
  | case4 c t _ _ _ ih =>
    rw [List.mem_cons, not_or] at h ⊢
    exact ⟨h.1, ih h.2⟩
  | case5 => exact h

theorem decode_encode_eq_self_iff (place : Place) (t : Text) :
    decode (encode place t) = t ↔ '\r' ∉ t := by
  rw [decode_encode, Text.withoutReturns, List.filter_eq_self]
  simp only [ne_eq, decide_not, Bool.not_eq_eq_eq_not, Bool.not_true, decide_eq_false_iff_not]
  exact ⟨fun h hr => h _ hr rfl, fun h c hc e => h (e ▸ hc)⟩

/-! ## 6. Texts that are made of units -/

/-- The text is made of the units in which values are written at this place. -/
inductive Written (place : Place) : Text → Prop
  | nil : Written place []
  | plain {c : Char} {t : Text} (hbackslash : c ≠ '\\') (hbreak : c ≠ '\n' ∧ c ≠ '\r')
      (hbar : c = '|' → place = .inner) (h : Written place t) : Written place (c :: t)
  | newline {t : Text} (h : Written place t) : Written place ('\\' :: 'n' :: t)
  | backslash {t : Text} (h : Written place t) : Written place ('\\' :: '\\' :: t)
  | bar {t : Text} (hlast : place = .last) (h : Written place t) :
      Written place ('\\' :: 'u' :: '0' :: '0' :: '7' :: 'c' :: t)

theorem encode_cons (place : Place) (c : Char) (t : Text) :
    encode place (c :: t) = encodeChar place c ++ encode place t := rfl

theorem encodeChar_of_plain {place : Place} {c : Char} (hbackslash : c ≠ '\\')
    (hbreak : c ≠ '\n' ∧ c ≠ '\r') (hbar : c = '|' → place = .inner) :
    encodeChar place c = [c] := by
  have hplain : ¬ (c = '|' ∧ place = .last) := by
    rintro ⟨hc, hlast⟩
    exact absurd ((hbar hc).symm.trans hlast) (by decide)
  rw [encodeChar, if_neg hbreak.1, if_neg hbackslash, if_neg hbreak.2, if_neg hplain]

/-- **What is written is made of units**, one for each character that is no carriage return. -/
theorem written_encode (place : Place) (t : Text) : Written place (encode place t) := by
  induction t with
  | nil => exact .nil
  | cons c t ih =>
    rw [encode_cons, encodeChar]
    split_ifs with hnewline hbackslash hreturn hbar
    · exact .newline ih
    · exact .backslash ih
    · exact ih
    · exact .bar hbar.2 ih
    · refine .plain hbackslash ⟨hnewline, hreturn⟩ (fun hc => ?_) ih
      cases place with
      | inner => rfl
      | last => exact absurd ⟨hc, rfl⟩ hbar

/-- **A text that is made of units is written again as it was read.**  The induction is on its
units: reading takes off one at a time. -/
theorem Written.encode_decode {place : Place} {s : Text} (h : Written place s) :
    encode place (decode s) = s := by
  induction h with
  | nil => rfl
  | plain hbackslash hbreak hbar _ ih =>
    rw [decode_cons hbackslash, encode_cons, encodeChar_of_plain hbackslash hbreak hbar, ih]
    rfl
  | newline _ ih =>
    rw [decode, encode_cons, ih]
    rfl
  | backslash _ ih =>
    rw [decode, encode_cons, ih]
    rfl
  | bar hlast _ ih =>
    subst hlast
    rw [decode, encode_cons, ih]
    rfl

/-- **Which texts are written again as they were read**: those that are made of units. -/
theorem encode_decode_eq_self_iff {place : Place} {s : Text} :
    encode place (decode s) = s ↔ Written place s :=
  ⟨fun h => h ▸ written_encode place (decode s), Written.encode_decode⟩

/-- An escaped bar is a unit in the last field only. -/
example : encode .last (decode "\\u007c") = "\\u007c" ∧ encode .inner (decode "\\u007c") = "|" := by
  decide

/-- What is made of units is what is written for some value. -/
theorem written_iff {place : Place} {s : Text} :
    Written place s ↔ s ∈ Set.range (encode place) := by
  constructor
  · exact fun h => ⟨decode s, h.encode_decode⟩
  · rintro ⟨t, rfl⟩
    exact written_encode place t

/-- **Two values are written alike exactly if they differ in carriage returns only.** -/
theorem encode_eq_encode_iff {place : Place} {s t : Text} :
    encode place s = encode place t ↔ s.withoutReturns = t.withoutReturns := by
  have hwritten : ∀ u : Text, encode place u.withoutReturns = encode place u := fun u => by
    rw [← decode_encode place u, (written_encode place u).encode_decode]
  constructor
  · intro h
    rw [← decode_encode place s, h, decode_encode]
  · intro h
    rw [← hwritten s, h, hwritten]

/-- **Escaping loses nothing but carriage returns.**  Wherever a field stands, what is written into
it holds no line break, and in the last field no bar.  The value is read back without its carriage
returns, whatever it spells; values without carriage returns are told apart, and so are no others;
and the texts that are written again as they were read are exactly those that some value is written
as, which are those made of units. -/
theorem encode_reversible (place : Place) :
    (∀ t, '\n' ∉ encode place t ∧ '\r' ∉ encode place t ∧ '|' ∉ encode .last t) ∧
      (∀ t, decode (encode place t) = t.filter (· ≠ '\r')) ∧
      Set.InjOn (encode place) {t | '\r' ∉ t} ∧
      (∀ s t, encode place s = encode place t ↔ s.filter (· ≠ '\r') = t.filter (· ≠ '\r')) ∧
      ∀ s, (encode place (decode s) = s ↔ s ∈ Set.range (encode place)) ∧
        (s ∈ Set.range (encode place) ↔ Written place s) := by
  refine ⟨fun t => ?_, decode_encode place, fun s hs t ht h => ?_, fun s t => encode_eq_encode_iff,
    fun s => ⟨encode_decode_eq_self_iff.trans written_iff, written_iff.symm⟩⟩
  · exact ⟨not_mem_encode (.inl rfl) place t, not_mem_encode (.inr rfl) place t,
      bar_not_mem_encode_last t⟩
  · calc s = decode (encode place s) := ((decode_encode_eq_self_iff place s).2 hs).symm
      _ = decode (encode place t) := congrArg decode h
      _ = t := (decode_encode_eq_self_iff place t).2 ht

end Field

namespace Record

/-! ## 7. The records of which a line says all -/

/-- A record of which its line says all. -/
structure Told (r : Record) : Prop where
  /-- There is a name. -/
  named : r.name ≠ []
  name : '|' ∉ r.name
  typeName : '|' ∉ r.typeName
  ownAddress : '|' ∉ r.ownAddress
  frameLabel : '|' ∉ r.frameLabel
  /-- A target spells an address. -/
  target : ∀ t ∈ r.pointeeAddress, '|' ∉ t ∧ (Address.read? t).isSome
  value : '\r' ∉ r.displayValue
  /-- The value of a target is not empty, as no value would be. -/
  targetValue : ∀ v ∈ r.pointeeValue, v ≠ [] ∧ '\r' ∉ v

/-- The line of a record is read as its written fields, if those that are written as they are hold
no bar. -/
theorem ofLine_line {r : Record} (hname : '|' ∉ r.name) (htype : '|' ∉ r.typeName)
    (hown : '|' ∉ r.ownAddress) (hframe : '|' ∉ r.frameLabel)
    (htarget : ∀ t ∈ r.pointeeAddress, '|' ∉ t) :
    ofLine r.line = ofFields r.line r.name r.typeName r.ownAddress
      (Field.encode .inner r.displayValue) (r.pointeeAddress.getD nullTarget) r.frameLabel
      ((r.pointeeValue.map (Field.encode .last)).getD []) := by
  refine ofLine_join hname htype hown ?_ hframe ?_ _
  · cases ht : r.pointeeAddress with
    | none => decide
    | some t => exact htarget t ht
  · cases r.pointeeValue with
    | none => exact List.not_mem_nil
    | some v => exact Field.bar_not_mem_encode_last v

theorem read?_nullTarget : Address.read? nullTarget = none := by decide

/-- **A record of which its line says all comes back.** -/
theorem Told.ofLine_line {r : Record} (h : r.Told) : ofLine r.line = .ok r := by
  have htarget : (if (Address.read? (r.pointeeAddress.getD nullTarget)).isSome then
      some (r.pointeeAddress.getD nullTarget) else none) = r.pointeeAddress := by
    cases ht : r.pointeeAddress with
    | none => simp [read?_nullTarget]
    | some t => simp [(h.target t ht).2]
  have hvalue : (if ((r.pointeeValue.map (Field.encode .last)).getD []).isEmpty then none
      else some (Field.decode ((r.pointeeValue.map (Field.encode .last)).getD []))) =
        r.pointeeValue := by
    cases hv : r.pointeeValue with
    | none => rfl
    | some v =>
      obtain ⟨hne, hreturn⟩ := h.targetValue v hv
      have hback := (Field.decode_encode_eq_self_iff .last v).2 hreturn
      have hwritten : Field.encode .last v ≠ [] := fun hnil => hne (by rw [← hback, hnil]; rfl)
      simp [hback, hwritten]
  rw [Record.ofLine_line h.name h.typeName h.ownAddress h.frameLabel fun t ht => (h.target t ht).1,
    ofFields, if_neg (by simpa using h.named), htarget, hvalue,
    (Field.decode_encode_eq_self_iff .inner _).2 h.value]

/-! ## 8. What is read is told -/

variable {line : Text} {r : Record}

/-- What is read of a line has a name, fits between bars, and its target spells an address. -/
theorem fits_of_ofLine (h : ofLine line = .ok r) :
    r.name ≠ [] ∧ '|' ∉ r.name ∧ '|' ∉ r.typeName ∧ '|' ∉ r.ownAddress ∧ '|' ∉ r.frameLabel ∧
      ∀ t ∈ r.pointeeAddress, '|' ∉ t ∧ (Address.read? t).isSome := by
  obtain ⟨name, typeName, own, value, target, frame, pointee, hof,
    ⟨hname, htype, hown, htarget, hframe⟩, -⟩ := exists_fields_of_ofLine h
  obtain ⟨hnamed, rfl⟩ := ofFields_eq_ok.1 hof
  refine ⟨hnamed, Text.not_mem_of_mem_fields hname, Text.not_mem_of_mem_fields htype,
    Text.not_mem_of_mem_fields hown, Text.not_mem_of_mem_fields hframe, fun t ht => ?_⟩
  obtain ⟨hspells, ht⟩ := Option.ite_none_right_eq_some.1 ht
  obtain rfl := Option.some.inj ht
  exact ⟨Text.not_mem_of_mem_fields htarget, hspells⟩

/-- A record that comes back from its line is told by it.  Once its fields are known to fit between
bars, the line can be read field by field. -/
theorem told_of_ofLine_line (h : ofLine r.line = .ok r) : r.Told := by
  obtain ⟨hnamed, hname, htype, hown, hframe, htarget⟩ := fits_of_ofLine h
  rw [ofLine_line hname htype hown hframe fun t ht => (htarget t ht).1] at h
  obtain ⟨-, hr⟩ := ofFields_eq_ok.1 h
  have hvalue : Field.decode (Field.encode .inner r.displayValue) = r.displayValue :=
    (congrArg displayValue hr).symm
  have htargetValue := congrArg pointeeValue hr
  refine ⟨hnamed, hname, htype, hown, hframe, htarget,
    (Field.decode_encode_eq_self_iff .inner _).1 hvalue, fun v hv => ?_⟩
  simp only [Option.mem_def.1 hv, Option.map_some, Option.getD_some] at htargetValue
  obtain ⟨hwritten, hback⟩ := Option.ite_none_left_eq_some.1 htargetValue.symm
  refine ⟨?_, (Field.decode_encode_eq_self_iff .last v).1 (Option.some.inj hback)⟩
  rintro rfl
  exact hwritten rfl

/-- What is read of a line without carriage returns is told by its own line. -/
theorem told_of_ofLine (hline : '\r' ∉ line) (h : ofLine line = .ok r) : r.Told := by
  obtain ⟨hnamed, hname, htype, hown, hframe, htarget⟩ := fits_of_ofLine h
  obtain ⟨_, _, _, value, _, _, pointee, hof, -, hchars⟩ := exists_fields_of_ofLine h
  have hreturn : '\r' ∉ value ++ pointee := fun hr =>
    (hchars _ hr).elim (by decide) hline
  rw [List.mem_append, not_or] at hreturn
  obtain ⟨-, rfl⟩ := ofFields_eq_ok.1 hof
  refine ⟨hnamed, hname, htype, hown, hframe, htarget,
    Field.return_not_mem_decode hreturn.1, fun v hv => ?_⟩
  obtain ⟨hwritten, hv⟩ := Option.ite_none_left_eq_some.1 hv
  obtain rfl := Option.some.inj hv
  refine ⟨fun hnil => hwritten ?_, Field.return_not_mem_decode hreturn.2⟩
  rw [Field.decode_eq_nil_iff.1 hnil]
  rfl

/-! ## 9. Reading a written record -/

/-- **A record comes back from its line exactly if the line tells all of it**, and what is read of
any line without carriage returns is such a record. -/
theorem ofLine_line_iff (line : Text) (r : Record) :
    (ofLine r.line = .ok r ↔ r.Told) ∧
      ('\r' ∉ line → ofLine line = .ok r → ofLine r.line = .ok r) :=
  ⟨⟨told_of_ofLine_line, Told.ofLine_line⟩,
    fun hline h => (told_of_ofLine hline h).ofLine_line⟩

/-- A value with a bar, an escaped newline and an escape that there is none of, and an escaped bar
in the value of the target: the record is written otherwise than it was read, and comes back. -/
theorem ofLine_line_iff_strayEscape :
    let line : Text := "p|Box *|0x8|a|b\\nc\\q|0x20|main|d\\u007c"
    let r : Record :=
      { name := "p", typeName := "Box *", ownAddress := "0x8", displayValue := "a|b\nc\\q"
        pointeeAddress := some "0x20", frameLabel := "main", pointeeValue := some "d|" }
    '\r' ∉ line ∧ ofLine line = .ok r ∧ r.line = "p|Box *|0x8|a|b\\nc\\\\q|0x20|main|d\\u007c" ∧
      ofLine r.line = .ok r ∧ r.Told := by
  intro line r
  have hreturn : '\r' ∉ line := by decide
  have hread : ofLine line = .ok r := by decide
  obtain ⟨hiff, hagain⟩ := ofLine_line_iff line r
  have hback := hagain hreturn hread
  exact ⟨hreturn, hread, by decide, hback, hiff.1 hback⟩

end Record

end Stepwise
