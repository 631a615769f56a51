import Mathlib.Data.Nat.Digits.Defs
import Stepwise.Proofs.Record

/-!
# Spellings of addresses

An address has many spellings: blanks around it, `0x` or `0X` and hexadecimal digits of either case,
or decimal digits, and zeros and one plus sign in front of the digits.  What is read is the value of
the digits, whatever its spelling, if it is a non-null 64-bit number.

Main statements:

* `Text.readNumeral_eq_ok_iff`: a numeral is read as the value of its digits;
* `Address.read?_eq_some_iff`: which texts spell an address;
* `Address.text_inj`: the canonical spelling of an address is its own.
-/

namespace Stepwise

namespace Text

/-! ## 1. Numerals -/

/-- The text is a row of digits of a radix, the most significant one first, with this value. -/
def IsNumeral (radix : Nat) (t : Text) (n : Nat) : Prop :=
  t ≠ [] ∧ ∃ ds : List Nat, t.map (digit? radix) = ds.map some ∧ Nat.ofDigits radix ds.reverse = n

theorem ofDigits_reverse (radix : Nat) (ds : List Nat) :
    Nat.ofDigits radix ds.reverse = ds.foldl (fun value d => value * radix + d) 0 := by
  rw [Nat.ofDigits_eq_foldr, List.foldr_reverse]
  congr 1
  funext value d
  rw [Nat.cast_id, Nat.mul_comm, Nat.add_comm]

theorem le_foldl_digits {radix : Nat} (hr : 0 < radix) (ds : List Nat) (acc : Nat) :
    acc ≤ ds.foldl (fun value d => value * radix + d) acc := by
  induction ds generalizing acc with
  | nil => exact Nat.le_refl acc
  | cons d ds ih =>
    have hstep : acc ≤ acc * radix + d :=
      Nat.le_trans (Nat.le_mul_of_pos_right acc hr) (Nat.le_add_right _ _)
    exact Nat.le_trans hstep (ih _)

/-- Digits are read as their value behind what was read before.  The bound is tested at every digit,
which is the same as testing the value. -/
theorem readDigits_eq_ok_iff {radix bound acc n : Nat} (hr : 0 < radix) (hacc : acc < bound)
    {t : Text} :
    readDigits radix bound acc t = .ok n ↔ n < bound ∧ ∃ ds : List Nat,
      t.map (digit? radix) = ds.map some ∧ ds.foldl (fun value d => value * radix + d) acc = n := by
  induction t generalizing acc with
  | nil =>
    simp only [readDigits, Except.ok.injEq, List.map_nil]
    constructor
    · rintro rfl
      exact ⟨hacc, [], rfl, rfl⟩
    · rintro ⟨-, ds, hds, rfl⟩
      rw [eq_comm, List.map_eq_nil_iff] at hds
      rw [hds]
      rfl
  | cons c t ih =>
    rw [readDigits]
    cases hd : digit? radix c with
    | none =>
      simp only [List.map_cons, hd, reduceCtorEq, false_iff, not_and, not_exists]
      rintro - ds hds
      cases ds <;> cases hds
    | some d =>
      -- the row of values behind the first one is that of the digits behind the first one
      have hrow : (∃ ds : List Nat, (c :: t).map (digit? radix) = ds.map some ∧
            ds.foldl (fun value d => value * radix + d) acc = n) ↔
          ∃ ds : List Nat, t.map (digit? radix) = ds.map some ∧
            ds.foldl (fun value d => value * radix + d) (acc * radix + d) = n := by
        constructor
        · rintro ⟨ds, hds, hn⟩
          cases ds with
          | nil => cases hds
          | cons d' ds =>
            rw [List.map_cons, List.map_cons, hd, List.cons.injEq, Option.some.injEq] at hds
            obtain ⟨rfl, hds⟩ := hds
            exact ⟨ds, hds, hn⟩
        · rintro ⟨ds, hds, hn⟩
          exact ⟨d :: ds, by rw [List.map_cons, List.map_cons, hd, hds], hn⟩
      rw [hrow]
      dsimp only
      split
      · next hlt => exact ih hlt
      · next hge =>
        simp only [reduceCtorEq, false_iff, not_and, not_exists]
        rintro hn ds - rfl
        exact hge (Nat.lt_of_le_of_lt (le_foldl_digits hr ds _) hn)

/-- Whether a text is nothing or a plus sign. -/
def IsSign (t : Text) : Prop := t = [] ∨ t = ['+']

theorem digit?_plus (radix : Nat) : digit? radix '+' = none := by
  simp [digit?]

/-- **A numeral is read as the value of its digits**, if that is below the bound. -/
theorem readNumeral_eq_ok_iff {radix bound n : Nat} (hr : 0 < radix) (hb : 0 < bound) {t : Text} :
    readNumeral radix bound t = .ok n ↔
      n < bound ∧ ∃ sign digits, t = sign ++ digits ∧ IsSign sign ∧ IsNumeral radix digits n := by
  have hdigits : ∀ {u : Text}, u ≠ [] →
      (readDigits radix bound 0 u = .ok n ↔ n < bound ∧ IsNumeral radix u n) := by
    intro u hu
    simp only [readDigits_eq_ok_iff hr hb, IsNumeral, ofDigits_reverse, ne_eq, hu, not_false_eq_true,
      true_and]
  unfold readNumeral
  split
  · simp only [reduceCtorEq, false_iff, not_and, not_exists]
    rintro - sign digits ht - hnumeral
    exact hnumeral.1 (List.append_eq_nil_iff.1 ht.symm).2
  · next u =>
    have hplus : ∀ {v : Text}, ¬ IsNumeral radix ('+' :: v) n := by
      rintro v ⟨-, ds, hds, -⟩
      rw [List.map_cons, digit?_plus] at hds
      cases ds <;> cases hds
    have hrest : (∃ sign digits, '+' :: u = sign ++ digits ∧ IsSign sign ∧
        IsNumeral radix digits n) ↔ IsNumeral radix u n := by
      constructor
      · rintro ⟨sign, digits, ht, rfl | rfl, hnumeral⟩
        · rw [List.nil_append] at ht
          exact absurd (ht ▸ hnumeral) hplus
        · rwa [(List.cons.inj ht).2]
      · intro hnumeral
        exact ⟨['+'], u, rfl, .inr rfl, hnumeral⟩
    rw [hrest]
    cases u with
    | nil => simp [IsNumeral]
    | cons c u => exact hdigits (List.cons_ne_nil c u)
  · next hnil hsign =>
    rw [hdigits hnil]
    refine and_congr_right fun _ => ⟨fun h => ⟨[], t, rfl, .inl rfl, h⟩, ?_⟩
    rintro ⟨sign, digits, rfl, rfl | rfl, hnumeral⟩
    · exact hnumeral
    · exact absurd rfl (hsign digits)

end Text

namespace Address

/-! ## 2. Addresses -/

/-- A mark in front of the digits of an address, and the radix that it announces. -/
def IsMark (mark : Text) (radix : Nat) : Prop :=
  (mark = "0x" ∨ mark = "0X") ∧ radix = 16 ∨ mark = [] ∧ radix = 10

/-- The text spells a non-null 64-bit number: behind a mark and a sign there are digits of that
value, and there may be blanks around it. -/
def Spells (t : Text) (n : Nat) : Prop :=
  0 < n ∧ n < 2 ^ 64 ∧ ∃ mark radix sign digits, IsMark mark radix ∧ Text.IsSign sign ∧
    t.trim = mark ++ (sign ++ digits) ∧ Text.IsNumeral radix digits n

/-- No decimal numeral starts like a hexadecimal one. -/
theorem hexDigits?_eq_none {sign digits : Text} (hsign : Text.IsSign sign) {n : Nat}
    (h : Text.IsNumeral 10 digits n) : hexDigits? (sign ++ digits) = none := by
  obtain ⟨-, ds, hds, -⟩ := h
  have hx : Text.digit? 10 'x' = none ∧ Text.digit? 10 'X' = none := by decide
  unfold hexDigits?
  split
  · next rest heq =>
    rcases hsign with rfl | rfl
    · rw [List.nil_append] at heq
      rw [heq, List.map_cons, List.map_cons, hx.1] at hds
      rcases ds with - | ⟨d, - | ⟨d', ds⟩⟩ <;> cases hds
    · cases heq
  · next rest heq =>
    rcases hsign with rfl | rfl
    · rw [List.nil_append] at heq
      rw [heq, List.map_cons, List.map_cons, hx.2] at hds
      rcases ds with - | ⟨d, - | ⟨d', ds⟩⟩ <;> cases hds
    · cases heq
  · rfl

/-- **Which texts spell an address**: those that are read as one. -/
theorem read?_eq_some_iff {t : Text} {n : Nat} : read? t = some n ↔ Spells t n := by
  have hb : 0 < bound := by decide
  have hbound : bound = 2 ^ 64 := by decide
  have hread : ∀ (radix : Nat) (u : Text), 0 < radix →
      ((Text.readNumeral radix bound u).toOption.filter (· ≠ 0) = some n ↔
        0 < n ∧ n < 2 ^ 64 ∧ ∃ sign digits, u = sign ++ digits ∧ Text.IsSign sign ∧
          Text.IsNumeral radix digits n) := by
    intro radix u hr
    rw [Option.filter_eq_some_iff, ← hbound, ← Text.readNumeral_eq_ok_iff hr hb]
    cases Text.readNumeral radix bound u with
    | error e => simp [Except.toOption]
    | ok m =>
      simp only [Except.toOption, Option.some.injEq, Except.ok.injEq, decide_eq_true_eq]
      constructor
      · rintro ⟨rfl, hn⟩
        exact ⟨Nat.pos_of_ne_zero hn, rfl⟩
      · rintro ⟨hn, rfl⟩
        exact ⟨rfl, Nat.ne_of_gt hn⟩
  unfold read?
  dsimp only
  cases hhex : hexDigits? t.trim with
  | some rest =>
    dsimp only
    rw [hread 16 rest (by decide), Spells]
    refine and_congr_right fun _ => and_congr_right fun _ => ?_
    constructor
    · rintro ⟨sign, digits, rfl, hsign, hnumeral⟩
      unfold hexDigits? at hhex
      split at hhex
      · next u ht =>
        obtain rfl := Option.some.inj hhex
        exact ⟨"0x", 16, sign, digits, .inl ⟨.inl rfl, rfl⟩, hsign, ht, hnumeral⟩
      · next u ht =>
        obtain rfl := Option.some.inj hhex
        exact ⟨"0X", 16, sign, digits, .inl ⟨.inr rfl, rfl⟩, hsign, ht, hnumeral⟩
      · cases hhex
    · rintro ⟨mark, radix, sign, digits, ⟨rfl | rfl, rfl⟩ | ⟨rfl, rfl⟩, hsign, ht, hnumeral⟩
      · rw [ht] at hhex
        exact ⟨sign, digits, (Option.some.inj hhex).symm, hsign, hnumeral⟩
      · rw [ht] at hhex
        exact ⟨sign, digits, (Option.some.inj hhex).symm, hsign, hnumeral⟩
      · rw [ht, List.nil_append, hexDigits?_eq_none hsign hnumeral] at hhex
        cases hhex
  | none =>
    dsimp only
    rw [hread 10 t.trim (by decide), Spells]
    refine and_congr_right fun _ => and_congr_right fun _ => ?_
    constructor
    · rintro ⟨sign, digits, ht, hsign, hnumeral⟩
      exact ⟨[], 10, sign, digits, .inr ⟨rfl, rfl⟩, hsign, ht, hnumeral⟩
    · rintro ⟨mark, radix, sign, digits, ⟨rfl | rfl, rfl⟩ | ⟨rfl, rfl⟩, hsign, ht, hnumeral⟩
      · rw [ht] at hhex
        cases hhex
      · rw [ht] at hhex
        cases hhex
      · exact ⟨sign, digits, ht, hsign, hnumeral⟩

/-- **The canonical spelling of an address is its own.** -/
theorem text_inj {m n : Nat} (hm : 0 < m ∧ m < 2 ^ 64) (hn : 0 < n ∧ n < 2 ^ 64) :
    text m = text n ↔ m = n := by
  have hbound : bound = 2 ^ 64 := by decide
  constructor
  · intro h
    have hread := congrArg read? h
    rw [read?_text hm.1 (hbound ▸ hm.2), read?_text hn.1 (hbound ▸ hn.2)] at hread
    exact Option.some.inj hread
  · rintro rfl
    rfl

end Address

end Stepwise
