import Mathlib.Data.List.Infix
import Mathlib.Data.List.Sort
import Stepwise.Breakpoints
import Stepwise.Proofs.Address

/-!
# What a list of lines denotes

A list of lines is read piece by piece, and what is read does not depend on how the pieces are
arranged: a text covers the lines that one of its pieces denotes, and the set that it is read as
holds the lines that it covers.

Main statements:

* `hits_toggle`, `toggle_toggle`: toggling turns the membership of one line round;
* `parsePiece_eq_ok_iff`: a piece is read as the lines that it denotes;
* `exists_parse_iff`, `hits_of_parse`: a list is read, as the lines that it covers, if every piece
  of it denotes some;
* `parse_text`: a set that is written is read back, if it can be read at all.
-/

namespace Stepwise.LineSet

/-! ## 1. Membership -/

theorem hits_iff {s : LineSet} {n : Nat} : s.hits n ↔ n ∈ s.lines := List.contains_iff_mem

/-- Sets that hit the same lines are equal. -/
theorem ext_hits {s t : LineSet} (h : ∀ n, s.hits n ↔ t.hits n) : s = t := by
  obtain ⟨xs, hx⟩ := s
  obtain ⟨ys, hy⟩ := t
  have hmem : ∀ n, n ∈ xs ↔ n ∈ ys := fun n => by simpa only [hits_iff] using h n
  obtain rfl := hx.eq_of_mem_iff hy hmem
  rfl

@[simp] theorem hits_empty {n : Nat} : ¬ empty.hits n := by simp [hits_iff, empty]

@[simp] theorem hits_union {s t : LineSet} {n : Nat} :
    (s.union t).hits n ↔ s.hits n ∨ t.hits n := by
  simp only [hits_iff, union, mem_merge]

@[simp] theorem hits_singleton {line n : Nat} : (singleton line).hits n ↔ n = line := by
  simp [hits_iff, singleton]

@[simp] theorem hits_insert {s : LineSet} {line n : Nat} :
    (s.insert line).hits n ↔ s.hits n ∨ n = line := by
  rw [insert, hits_union, hits_singleton]

@[simp] theorem hits_erase {s : LineSet} {line n : Nat} :
    (s.erase line).hits n ↔ s.hits n ∧ n ≠ line := by
  simp [hits_iff, erase]

@[simp] theorem hits_range {first last n : Nat} :
    (range first last).hits n ↔ first ≤ n ∧ n ≤ last := by
  rw [hits_iff, range, List.mem_range'_1]
  omega

theorem range_self (line : Nat) : range line line = singleton line :=
  ext_hits fun n => by
    rw [hits_range, hits_singleton]
    omega

/-- **Toggling turns the membership of one line round**, and leaves that of the others. -/
theorem hits_toggle {s : LineSet} {line n : Nat} :
    (s.toggle line).hits n = if n = line then !s.hits n else s.hits n := by
  rw [toggle, Bool.eq_iff_iff]
  by_cases hline : s.hits line = true
  · rw [if_pos hline, hits_erase]
    split
    · next h => simp [h, hline]
    · next h => simp [h]
  · rw [if_neg hline, hits_insert]
    split
    · next h => simp [h, hline]
    · next h => simp [h]

/-- Toggling a line twice gives the set back. -/
theorem toggle_toggle (s : LineSet) (line : Nat) : (s.toggle line).toggle line = s :=
  ext_hits fun n => by
    rw [hits_toggle, hits_toggle]
    split
    · rw [Bool.not_not]
    · rfl

/-! ## 2. Lines -/

/-- The text is a line number: there may be a plus sign, and behind it there are ASCII digits, of
which the first is the most significant, with a value from 1 to the greatest of 32 bits. -/
def IsLine (t : Text) (n : Nat) : Prop :=
  0 < n ∧ n < 2 ^ 32 ∧ ∃ sign digits, t = sign ++ digits ∧ Text.IsSign sign ∧ digits ≠ [] ∧
    (∀ c ∈ digits, '0' ≤ c ∧ c ≤ '9') ∧
      Nat.ofDigits 10 (digits.map fun c => c.toNat - '0'.toNat).reverse = n

/-- The decimal digits are the ASCII ones. -/
theorem digit?_ten_eq_some_iff {c : Char} {d : Nat} :
    Text.digit? 10 c = some d ↔ ('0' ≤ c ∧ c ≤ '9') ∧ c.toNat - '0'.toNat = d := by
  unfold Text.digit?
  dsimp only
  split
  · next hc =>
    have hvalue : c.toNat - '0'.toNat < 10 := by
      have hle : c.toNat ≤ '9'.toNat := hc.2
      have h9 : '9'.toNat = 57 := rfl
      have h0 : '0'.toNat = 48 := rfl
      omega
    rw [Option.filter_some, if_pos (decide_eq_true hvalue), Option.some.injEq]
    exact (and_iff_right hc).symm
  · next hc =>
    -- a letter is worth ten or more
    simp only [hc, false_and, iff_false, Option.filter_eq_some_iff, decide_eq_true_eq, not_and]
    intro hd
    split at hd
    · obtain rfl := Option.some.inj hd
      omega
    · split at hd
      · obtain rfl := Option.some.inj hd
        omega
      · cases hd

/-- A decimal numeral is a row of ASCII digits. -/
theorem isNumeral_ten_iff {t : Text} {n : Nat} :
    Text.IsNumeral 10 t n ↔ t ≠ [] ∧ (∀ c ∈ t, '0' ≤ c ∧ c ≤ '9') ∧
      Nat.ofDigits 10 (t.map fun c => c.toNat - '0'.toNat).reverse = n := by
  have hrow : ∀ (u : Text) (ds : List Nat), u.map (Text.digit? 10) = ds.map some ↔
      (∀ c ∈ u, '0' ≤ c ∧ c ≤ '9') ∧ (u.map fun c => c.toNat - '0'.toNat) = ds := by
    intro u
    induction u with
    | nil => rintro (_ | ⟨d, ds⟩) <;> simp
    | cons c u ih =>
      rintro (_ | ⟨d, ds⟩)
      · simp
      · rw [List.map_cons, List.map_cons, List.cons.injEq, digit?_ten_eq_some_iff, ih]
        simp only [List.mem_cons, forall_eq_or_imp, List.map_cons, List.cons.injEq]
        exact and_and_and_comm
  refine and_congr_right fun _ => ?_
  simp only [hrow, and_assoc, exists_and_left]
  simp

theorem isLine_iff {t : Text} {n : Nat} :
    IsLine t n ↔ 0 < n ∧ n < 2 ^ 32 ∧ ∃ sign digits,
      t = sign ++ digits ∧ Text.IsSign sign ∧ Text.IsNumeral 10 digits n := by
  simp only [IsLine, isNumeral_ten_iff]

theorem IsLine.dash_not_mem {t : Text} {n : Nat} (h : IsLine t n) : '-' ∉ t := by
  obtain ⟨-, -, sign, digits, rfl, hsign, -, hdigits, -⟩ := h
  intro hm
  rcases List.mem_append.1 hm with hm | hm
  · rcases hsign with rfl | rfl <;> simp at hm
  · exact absurd (hdigits _ hm) (by decide)

/-- A text without blanks is read as the line number that it is. -/
theorem parseLine_eq_ok_iff {t : Text} (hfree : ∀ c ∈ t, Text.isBlank c = false) {n : Nat} :
    parseLine t = .ok n ↔ IsLine t n := by
  have htrim : t.trim = t :=
    Text.trim_eq_self (fun c hc => by simp [hfree c (List.mem_of_mem_head? hc)])
      fun c hc => by simp [hfree c (List.mem_of_getLast? hc)]
  have hread : Text.readNat lineBound t = .ok n ↔ n < 2 ^ 32 ∧ ∃ sign digits,
      t = sign ++ digits ∧ Text.IsSign sign ∧ Text.IsNumeral 10 digits n :=
    Text.readNumeral_eq_ok_iff (by decide) (by decide)
  rw [isLine_iff, ← hread, parseLine, htrim]
  cases Text.readNat lineBound t with
  | error e => simp
  | ok m =>
    cases m with
    | zero =>
      simp only [reduceCtorEq, Except.ok.injEq, false_iff, not_and]
      rintro hn rfl
      exact absurd hn (Nat.lt_irrefl 0)
    | succ m =>
      simp only [Except.ok.injEq]
      constructor
      · rintro rfl
        exact ⟨Nat.succ_pos m, rfl⟩
      · exact fun h => h.2

/-! ## 3. Pieces -/

theorem bind_eq_ok {α β : Type} {x : Except ParseError α} {f : α → Except ParseError β} {b : β} :
    (x >>= f) = .ok b ↔ ∃ a, x = .ok a ∧ f a = .ok b := by
  cases x with
  | error e => simp [bind, Except.bind]
  | ok a => simp [bind, Except.bind]

/-- What a piece of a list denotes: a line, or the lines from one that stands in front of the first
dash to one that stands behind it and is not before it. -/
inductive Denotes : Text → Nat → Nat → Prop where
  | line {t : Text} {n : Nat} : IsLine t n → Denotes t n n
  | range {s t : Text} {first last : Nat} : '-' ∉ s → IsLine s first → IsLine t last →
      first ≤ last → Denotes (s ++ '-' :: t) first last

/-- **A piece is read as the lines that it denotes.** -/
theorem parsePiece_eq_ok_iff {piece : Text} (hfree : ∀ c ∈ piece, Text.isBlank c = false)
    {s : LineSet} :
    parsePiece piece = .ok s ↔ ∃ first last, Denotes piece first last ∧ s = range first last := by
  have hread : ∀ u, (∀ c ∈ u, c ∈ piece) → ∀ n, parseLine u = .ok n ↔ IsLine u n :=
    fun u hu n => parseLine_eq_ok_iff (fun c hc => hfree c (hu c hc))
  have hmark : String.toList "-" = ['-'] := rfl
  rw [parsePiece, hmark]
  cases hcut : Text.cut? ['-'] piece with
  | none =>
    have hdash : '-' ∉ piece := by
      simpa [List.singleton_infix_iff] using Text.cut?_eq_none_iff.1 hcut
    simp only [bind_eq_ok, hread piece fun c hc => hc]
    constructor
    · rintro ⟨n, hline, hs⟩
      obtain rfl := Except.ok.inj hs
      exact ⟨n, n, .line hline, (range_self n).symm⟩
    · rintro ⟨first, last, hden, rfl⟩
      cases hden with
      | line hline => exact ⟨first, hline, by rw [range_self]; rfl⟩
      | range => exact absurd (by simp) hdash
  | some p =>
    obtain ⟨head, rest⟩ := p
    obtain rfl := Text.eq_append_of_cut? hcut
    simp only [bind_eq_ok, hread head fun c hc => by simp [hc],
      hread rest fun c hc => by simp [hc]]
    constructor
    · rintro ⟨first, hfirst, last, hlast, hs⟩
      split at hs
      · next hle =>
        obtain rfl := Except.ok.inj hs
        have hjoin : head ++ '-' :: rest = head ++ ['-'] ++ rest := by simp
        exact ⟨first, last, hjoin ▸ .range hfirst.dash_not_mem hfirst hlast hle, rfl⟩
      · cases hs
    · rintro ⟨first, last, hden, rfl⟩
      generalize ht : head ++ ['-'] ++ rest = t at hden
      cases hden with
      | line hline => exact absurd (by simp [← ht]) hline.dash_not_mem
      | @range s u _ _ hdash hfirst hlast hle =>
        rw [ht, Text.cut?_singleton_append hdash] at hcut
        obtain ⟨rfl, rfl⟩ := Prod.mk.inj (Option.some.inj hcut)
        refine ⟨first, hfirst, last, hlast, ?_⟩
        rw [if_pos hle]
        rfl

/-! ## 4. Lists -/

/-- Whether a piece of the text denotes the line. -/
def Covers (t : Text) (n : Nat) : Prop :=
  ∃ piece first last, Text.IsPiece isSeparator t piece ∧ Denotes piece first last ∧
    first ≤ n ∧ n ≤ last

/-- A piece of a list is read as the lines that it denotes. -/
theorem parsePiece_of_isPiece {t piece : Text} (hp : Text.IsPiece isSeparator t piece)
    {s : LineSet} :
    parsePiece piece = .ok s ↔ ∃ first last, Denotes piece first last ∧ s = range first last := by
  refine parsePiece_eq_ok_iff fun c hc => ?_
  have hsep := hp.2.1 c hc
  rw [isSeparator, Bool.or_eq_false_iff] at hsep
  exact hsep.2

/-- Pieces that are all read are added to a set. -/
theorem exists_foldlM_union {pieces : List Text}
    (h : ∀ piece ∈ pieces, ∃ u, parsePiece piece = .ok u) (s : LineSet) :
    ∃ s', pieces.foldlM (fun s piece => return s.union (← parsePiece piece)) s = .ok s' := by
  induction pieces generalizing s with
  | nil => exact ⟨s, rfl⟩
  | cons piece pieces ih =>
    obtain ⟨u, hu⟩ := h piece List.mem_cons_self
    rw [List.foldlM_cons, hu]
    exact ih (fun p hp => h p (List.mem_cons_of_mem _ hp)) (s.union u)

/-- Pieces that are added to a set are all read, and what is added is their lines. -/
theorem hits_of_foldlM_union {pieces : List Text} {s s' : LineSet}
    (h : pieces.foldlM (fun s piece => return s.union (← parsePiece piece)) s = .ok s') :
    (∀ piece ∈ pieces, ∃ u, parsePiece piece = .ok u) ∧
      ∀ n, s'.hits n ↔ s.hits n ∨ ∃ piece ∈ pieces, ∃ u, parsePiece piece = .ok u ∧ u.hits n := by
  induction pieces generalizing s with
  | nil =>
    obtain rfl := Except.ok.inj h
    simp
  | cons piece pieces ih =>
    rw [List.foldlM_cons] at h
    obtain ⟨_, hadd, hrest⟩ := bind_eq_ok.1 h
    obtain ⟨u, hu, hunion⟩ := bind_eq_ok.1 hadd
    obtain rfl := Except.ok.inj hunion
    obtain ⟨hall, hhits⟩ := ih hrest
    refine ⟨?_, fun n => ?_⟩
    · simpa [hu] using hall
    · rw [hhits, hits_union]
      simp [hu, or_assoc]

/-- **A list is read if every piece of it denotes lines.** -/
theorem exists_parse_iff {t : Text} :
    (∃ s, parse t = .ok s) ↔
      ∀ piece, Text.IsPiece isSeparator t piece → ∃ first last, Denotes piece first last := by
  constructor
  · rintro ⟨s, hs⟩ piece hp
    obtain ⟨u, hu⟩ := (hits_of_foldlM_union hs).1 piece (Text.mem_pieces_iff.2 hp)
    obtain ⟨first, last, hden, -⟩ := (parsePiece_of_isPiece hp).1 hu
    exact ⟨first, last, hden⟩
  · intro hden
    refine exists_foldlM_union (fun piece hp => ?_) empty
    have hp := Text.mem_pieces_iff.1 hp
    obtain ⟨first, last, hden⟩ := hden piece hp
    exact ⟨_, (parsePiece_of_isPiece hp).2 ⟨first, last, hden, rfl⟩⟩

/-- **A list that is read is read as the lines that it covers.** -/
theorem hits_of_parse {t : Text} {s : LineSet} (h : parse t = .ok s) (n : Nat) :
    s.hits n ↔ Covers t n := by
  rw [(hits_of_foldlM_union h).2, or_iff_right hits_empty]
  constructor
  · rintro ⟨piece, hp, u, hu, hn⟩
    have hp := Text.mem_pieces_iff.1 hp
    obtain ⟨first, last, hden, rfl⟩ := (parsePiece_of_isPiece hp).1 hu
    exact ⟨piece, first, last, hp, hden, hits_range.1 hn⟩
  · rintro ⟨piece, first, last, hp, hden, hn⟩
    exact ⟨piece, Text.mem_pieces_iff.2 hp, _,
      (parsePiece_of_isPiece hp).2 ⟨first, last, hden, rfl⟩, hits_range.2 hn⟩

/-- What a list is read as. -/
theorem parse_eq_ok_iff {t : Text} {s : LineSet} :
    parse t = .ok s ↔
      (∀ piece, Text.IsPiece isSeparator t piece → ∃ first last, Denotes piece first last) ∧
        ∀ n, s.hits n ↔ Covers t n := by
  refine ⟨fun h => ⟨exists_parse_iff.1 ⟨s, h⟩, hits_of_parse h⟩, fun ⟨hden, hhits⟩ => ?_⟩
  obtain ⟨s', hs'⟩ := exists_parse_iff.2 hden
  rw [ext_hits fun n => (hhits n).trans (hits_of_parse hs' n).symm]
  exact hs'

/-! ## 5. Written sets -/

theorem not_mark_of_mem_ofNat {n : Nat} {c : Char} (hc : c ∈ Text.ofNat n) :
    isSeparator c = false ∧ c ≠ '-' := by
  have all : ∀ d < 16, isSeparator (Text.digitOf d) = false ∧ Text.digitOf d ≠ '-' := by decide
  obtain ⟨d, hd, rfl⟩ := Text.mem_digits (by decide) (by decide) hc
  exact all d hd

/-- A number is written as the line number that it is, if it is one. -/
theorem isLine_ofNat_iff {n m : Nat} :
    IsLine (Text.ofNat n) m ↔ m = n ∧ 0 < n ∧ n < 2 ^ 32 := by
  -- under a bound above both values, the digits are read as either of them
  have hown : Text.readNumeral 10 (m + n + 1) (Text.ofNat n) = .ok n :=
    Text.readNumeral_digits (by decide) (by decide) (by omega)
  have hread : n = m ↔ ∃ sign digits, Text.ofNat n = sign ++ digits ∧ Text.IsSign sign ∧
      Text.IsNumeral 10 digits m := by
    have h : Text.readNumeral 10 (m + n + 1) (Text.ofNat n) = .ok m ↔ m < m + n + 1 ∧
        ∃ sign digits, Text.ofNat n = sign ++ digits ∧ Text.IsSign sign ∧
          Text.IsNumeral 10 digits m :=
      Text.readNumeral_eq_ok_iff (by decide) (by omega)
    rw [hown, Except.ok.injEq] at h
    exact h.trans (and_iff_right (by omega))
  rw [isLine_iff, ← hread]
  constructor
  · rintro ⟨h0, hn, rfl⟩
    exact ⟨rfl, h0, hn⟩
  · rintro ⟨rfl, h0, hn⟩
    exact ⟨h0, hn, rfl⟩

/-- A number that is written denotes itself, if it is a line. -/
theorem denotes_ofNat_iff {n first last : Nat} :
    Denotes (Text.ofNat n) first last ↔ first = n ∧ last = n ∧ 0 < n ∧ n < 2 ^ 32 := by
  constructor
  · intro h
    generalize ht : Text.ofNat n = t at h
    cases h with
    | line hline =>
      obtain ⟨rfl, hn⟩ := isLine_ofNat_iff.1 (ht ▸ hline)
      exact ⟨rfl, rfl, hn⟩
    | range =>
      have hdash : '-' ∈ Text.ofNat n := by simp [ht]
      exact absurd rfl (not_mark_of_mem_ofNat hdash).2
  · rintro ⟨rfl, rfl, hn⟩
    exact .line (isLine_ofNat_iff.2 ⟨rfl, hn⟩)

theorem isPiece_text_iff {s : LineSet} {piece : Text} :
    Text.IsPiece isSeparator s.text piece ↔ ∃ n, s.hits n ∧ Text.ofNat n = piece := by
  have hpieces : s.text.pieces isSeparator = s.lines.map Text.ofNat := by
    refine Text.pieces_join (by decide) fun part hpart => ?_
    obtain ⟨n, -, rfl⟩ := List.mem_map.1 hpart
    exact ⟨Text.digits_ne_nil 10 n, fun c hc => (not_mark_of_mem_ofNat hc).1⟩
  simp only [← Text.mem_pieces_iff, hpieces, List.mem_map, hits_iff]

/-- **A set that is written is read back**, if all of its lines are 32-bit numbers other than 0. -/
theorem parse_text {s : LineSet} :
    parse s.text = .ok s ↔ ∀ n, s.hits n → 0 < n ∧ n < 2 ^ 32 := by
  have hden : (∀ piece, Text.IsPiece isSeparator s.text piece → ∃ first last,
      Denotes piece first last) ↔ ∀ n, s.hits n → 0 < n ∧ n < 2 ^ 32 := by
    simp [isPiece_text_iff, denotes_ofNat_iff]
  rw [parse_eq_ok_iff, hden]
  refine and_iff_left_of_imp fun hall n => ?_
  simp only [Covers, isPiece_text_iff]
  constructor
  · intro hn
    exact ⟨_, n, n, ⟨n, hn, rfl⟩, denotes_ofNat_iff.2 ⟨rfl, rfl, hall n hn⟩, le_rfl, le_rfl⟩
  · rintro ⟨_, first, last, ⟨m, hm, rfl⟩, h, hfirst, hlast⟩
    obtain ⟨rfl, rfl, -⟩ := denotes_ofNat_iff.1 h
    exact Nat.le_antisymm hlast hfirst ▸ hm

/-- **Lists of lines denote what they say.**  A list is read if every piece of it is a line number
or a range of line numbers, and as the lines of its pieces.  Texts with the same pieces, whatever
their order and number, are read alike, and lists that cover the same lines are read as one set.  A
set of line numbers that is written is read back, and toggling a line turns the membership of that
line round and of no other. -/
theorem lists_denote (t : Text) :
    ((∃ s, parse t = .ok s) ↔
      ∀ piece, Text.IsPiece isSeparator t piece → ∃ first last, Denotes piece first last) ∧
    (∀ s, parse t = .ok s → ∀ n, s.hits n ↔ Covers t n) ∧
    (∀ u, (∀ piece, Text.IsPiece isSeparator t piece ↔ Text.IsPiece isSeparator u piece) →
      ∀ s, parse t = .ok s ↔ parse u = .ok s) ∧
    (∀ u s s', parse t = .ok s → parse u = .ok s' → (s = s' ↔ ∀ n, Covers t n ↔ Covers u n)) ∧
    (∀ s : LineSet, parse s.text = .ok s ↔ ∀ n, s.hits n → 0 < n ∧ n < 2 ^ 32) ∧
    ∀ (s : LineSet) (line : Nat), (s.toggle line).toggle line = s ∧
      ∀ n, (s.toggle line).hits n = if n = line then !s.hits n else s.hits n := by
  refine ⟨exists_parse_iff, fun s hs => hits_of_parse hs, fun u hsame s => ?_,
    fun u s s' hs hs' => ?_, fun s => parse_text,
    fun s line => ⟨toggle_toggle s line, fun n => hits_toggle⟩⟩
  · have hcovers : ∀ n, Covers t n ↔ Covers u n := fun n => by simp only [Covers, hsame]
    simp only [parse_eq_ok_iff, hsame, hcovers]
  · simp only [← hits_of_parse hs, ← hits_of_parse hs']
    constructor
    · rintro rfl n
      exact Iff.rfl
    · exact ext_hits

/-- A list with a repeated line, ranges that overlap and a piece that is empty. -/
theorem lists_denote_overlapping : ∃ s, parse "9-12 +3,,10 3-3" = .ok s ∧
    s.lines = [3, 9, 10, 11, 12] ∧ (∀ n, s.hits n ↔ Covers "9-12 +3,,10 3-3" n) ∧
      parse s.text = .ok s := by
  have hread : parse "9-12 +3,,10 3-3" = .ok { lines := [3, 9, 10, 11, 12] } := by cbv
  obtain ⟨-, hcovers, -, -, hwritten, -⟩ := lists_denote "9-12 +3,,10 3-3"
  exact ⟨_, hread, rfl, hcovers _ hread, (hwritten _).2 (by simp [hits_iff])⟩

end Stepwise.LineSet
