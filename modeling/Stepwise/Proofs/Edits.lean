import Mathlib.Data.List.Induction
import Mathlib.Data.List.Sort
import Stepwise.Edit.Splice

/-!
# Edits that are put into a set

A set of edits is kept orderly: the ranges of its sites stand one behind the other, and only
insertions share an offset.  Adding an edit looks at the sites next to it only.  In an orderly set
that is enough to find every edit of the whole set that clashes with the new one.

A set into which only insertions are put never refuses one.  Its edits then stand in the order that
a stable sort gives them: by offset, at one offset by falling priority, and among equals as they
came.

Of any other edits, offered one by one, an edit that is refused leaves nothing behind, and so the
set holds the edits that were taken: those that clash with none that was taken before.  It stays
orderly whatever is offered to it, and what it will refuse next can be told from its edits alone.

Main definitions and statements:

* `EditSet.Orderly`, `Edit.Clashes`: what a set keeps up, and what it refuses;
* `EditSet.Orderly.add_cases`: what adding one edit does;
* `EditSet.addAll_eq_mergeSort`: adding insertions one by one is a stable sort;
* `EditSet.offerAll_orderly`: what becomes of a set that may refuse edits.
-/

namespace Stepwise

/-! ## 1. Stable sorts -/

section StableSort

variable {α : Type} {le : α → α → Bool}

/-- A sorted list is told by its classes of equals. -/
theorem eq_of_filter_eq (total : ∀ a b, (le a b || le b a) = true) {l l' : List α}
    (hl : l.Pairwise fun a b => le a b) (hl' : l'.Pairwise fun a b => le a b)
    (h : ∀ c, l.filter (fun a => le c a && le a c) = l'.filter fun a => le c a && le a c) :
    l = l' := by
  have hrefl : ∀ a, le a a = true := fun a => by simpa using total a a
  have hmem : ∀ a, a ∈ l ↔ a ∈ l' := fun a => by
    have := congrArg (a ∈ ·) (h a)
    simpa [hrefl] using this
  induction l generalizing l' with
  | nil =>
    cases l' with
    | nil => rfl
    | cons y l' => simpa using hmem y
  | cons x l ih =>
    cases l' with
    | nil => simpa using hmem x
    | cons y l' =>
      have hxy : le x y = true := by
        rcases List.mem_cons.1 ((hmem y).2 List.mem_cons_self) with rfl | hy
        · exact hrefl y
        · exact List.rel_of_pairwise_cons hl hy
      have hyx : le y x = true := by
        rcases List.mem_cons.1 ((hmem x).1 List.mem_cons_self) with rfl | hx
        · exact hrefl x
        · exact List.rel_of_pairwise_cons hl' hx
      -- both heads are of one class, and each is the first of it
      obtain ⟨rfl, -⟩ : x = y ∧ _ := by simpa [hrefl, hxy, hyx] using h x
      have htails : ∀ c, l.filter (fun a => le c a && le a c) =
          l'.filter fun a => le c a && le a c := fun c => by
        have := h c
        simp only [List.filter_cons] at this
        split at this
        · exact (List.cons.inj this).2
        · exact this
      refine congrArg (x :: ·) (ih hl.of_cons hl'.of_cons htails fun a => ?_)
      have := congrArg (a ∈ ·) (htails a)
      simpa [hrefl] using this

/-- A stable sort keeps every class of equals as it is. -/
theorem class_mergeSort (trans : ∀ a b c, le a b = true → le b c = true → le a c = true)
    (total : ∀ a b, (le a b || le b a) = true) (l : List α) (c : α) :
    (l.mergeSort le).filter (fun a => le c a && le a c) =
      l.filter fun a => le c a && le a c := by
  have hclass : (l.filter fun a => le c a && le a c).Pairwise fun a b => le a b := by
    refine List.pairwise_of_forall_mem_list fun a ha b hb => ?_
    simp only [List.mem_filter, Bool.and_eq_true] at ha hb
    exact trans a c b ha.2.2 hb.2.1
  have hsub := (List.sublist_mergeSort trans total hclass List.filter_sublist).filter
    fun a => le c a && le a c
  simp only [List.filter_filter, Bool.and_self] at hsub
  refine (hsub.eq_of_length ?_).symm
  exact ((List.mergeSort_perm l le).filter _).length_eq.symm

/-- A sorted list with the classes of another list is what sorting that list yields. -/
theorem eq_mergeSort (trans : ∀ a b c, le a b = true → le b c = true → le a c = true)
    (total : ∀ a b, (le a b || le b a) = true) {l l' : List α} (hl : l.Pairwise fun a b => le a b)
    (h : ∀ c, l.filter (fun a => le c a && le a c) = l'.filter fun a => le c a && le a c) :
    l = l'.mergeSort le :=
  eq_of_filter_eq total hl (List.pairwise_mergeSort trans total l') fun c =>
    (h c).trans (class_mergeSort trans total l' c).symm

/-- A stable sort of a part of a list is that part of the sorted list. -/
theorem filter_mergeSort (trans : ∀ a b c, le a b = true → le b c = true → le a c = true)
    (total : ∀ a b, (le a b || le b a) = true) (p : α → Bool) (l : List α) :
    (l.mergeSort le).filter p = (l.filter p).mergeSort le := by
  refine eq_mergeSort trans total ((List.pairwise_mergeSort trans total l).filter p) fun c => ?_
  rw [List.filter_comm, class_mergeSort trans total, List.filter_comm]

end StableSort

/-! ## 2. The order of edits -/

namespace Edit

/-- Whether an insertion may stand in front of another one. -/
def before (e f : Edit) : Bool :=
  e.start < f.start || (e.start = f.start && f.priority ≤ e.priority)

theorem before_iff {e f : Edit} :
    e.before f ↔ e.start < f.start ∨ e.start = f.start ∧ f.priority ≤ e.priority := by
  simp [before]

theorem before_trans (e f g : Edit) (h : e.before f = true) (h' : f.before g = true) :
    e.before g = true := by
  rw [before_iff] at h h' ⊢
  omega

theorem before_total (e f : Edit) : (e.before f || f.before e) = true := by
  rw [Bool.or_eq_true, before_iff, before_iff]
  omega

/-- An edit is put behind those of at least its priority. -/
theorem place_eq (e : Edit) {fs : List Edit} (h : fs.Pairwise fun f g => g.priority ≤ f.priority) :
    ∃ front back, fs = front ++ back ∧ e.place fs = front ++ e :: back ∧
      (∀ f ∈ front, e.priority ≤ f.priority) ∧ ∀ f ∈ back, f.priority < e.priority := by
  induction fs with
  | nil => exact ⟨[], [], rfl, rfl, by simp, by simp⟩
  | cons f fs ih =>
    obtain ⟨hf, hfs⟩ := List.pairwise_cons.1 h
    rw [place]
    split
    · next hlt =>
      refine ⟨[], f :: fs, rfl, rfl, by simp, fun g hg => ?_⟩
      rcases List.mem_cons.1 hg with rfl | hg
      · exact hlt
      · exact Nat.lt_of_le_of_lt (hf g hg) hlt
    · next hle =>
      obtain ⟨front, back, rfl, hplace, hfront, hback⟩ := ih hfs
      refine ⟨f :: front, back, rfl, congrArg (f :: ·) hplace, fun g hg => ?_, hback⟩
      rcases List.mem_cons.1 hg with rfl | hg
      · exact Nat.le_of_not_lt hle
      · exact hfront g hg

theorem mem_place {e f : Edit} {fs : List Edit} : f ∈ e.place fs ↔ f = e ∨ f ∈ fs := by
  induction fs with
  | nil => simp [place]
  | cons g fs ih =>
    rw [place]
    split
    · exact List.mem_cons
    · rw [List.mem_cons, ih, List.mem_cons]
      exact or_left_comm

theorem falling_place (e : Edit) {fs : List Edit}
    (h : fs.Pairwise fun f g => g.priority ≤ f.priority) :
    (e.place fs).Pairwise fun f g => g.priority ≤ f.priority := by
  obtain ⟨front, back, rfl, hplace, hfront, hback⟩ := place_eq e h
  rw [hplace, List.pairwise_append, List.pairwise_cons]
  obtain ⟨hf, hb, hfb⟩ := List.pairwise_append.1 h
  refine ⟨hf, ⟨fun g hg => Nat.le_of_lt (hback g hg), hb⟩, fun f hmem g hg => ?_⟩
  rcases List.mem_cons.1 hg with rfl | hg
  · exact hfront f hmem
  · exact hfb f hmem g hg

/-- Two edits clash if one starts inside of the range of the other, or if they start at one offset
and one of them replaces something. -/
def Clashes (e f : Edit) : Prop :=
  f.start < e.start ∧ e.start < f.stop ∨ e.start < f.start ∧ f.start < e.stop ∨
    f.start = e.start ∧ ¬ (e.stop = e.start ∧ f.stop = f.start)

instance (e f : Edit) : Decidable (e.Clashes f) := inferInstanceAs (Decidable (_ ∨ _ ∨ _))

theorem not_clashes_of_insertions {e f : Edit} (he : e.stop = e.start) (hf : f.stop = f.start) :
    ¬ e.Clashes f := by
  rw [Clashes]
  omega

end Edit

/-! ## 3. Orderly sets -/

/-- A site is orderly if its edits start at its offset, the text of the higher priority comes first,
and a range is replaced only if it is the only edit. -/
structure EditSite.Orderly (s : EditSite) : Prop where
  /-- There is an edit. -/
  nonempty : s.edits ≠ []
  /-- All edits start at the offset. -/
  start_eq : ∀ e ∈ s.edits, e.start = s.offset
  /-- No range is reversed. -/
  start_le_stop : ∀ e ∈ s.edits, e.start ≤ e.stop
  /-- The priorities fall. -/
  falling : s.edits.Pairwise fun e f => f.priority ≤ e.priority
  /-- Edits that share the offset are insertions. -/
  insertions : 1 < s.edits.length → ∀ e ∈ s.edits, e.stop = e.start

theorem EditSite.stop_le_iff {s : EditSite} (h : s.edits ≠ []) {n : Nat} :
    s.stop ≤ n ↔ ∀ e ∈ s.edits, e.stop ≤ n := by
  rw [stop]
  cases hmax : (s.edits.map Edit.stop).max? with
  | none => exact absurd (List.map_eq_nil_iff.1 (List.max?_eq_none_iff.1 hmax)) h
  | some m =>
    rw [Option.getD_some, List.max?_le_iff hmax]
    simp

namespace EditSet

/-- A set is orderly if its sites are, and if they stand one behind the other. -/
structure Orderly (s : EditSet) : Prop where
  /-- Every site is orderly. -/
  sites : ∀ site ∈ s.sites, site.Orderly
  /-- The offsets ascend. -/
  ascending : s.sites.Pairwise (·.offset < ·.offset)
  /-- No range reaches behind the offset of a later site. -/
  apart : s.sites.Pairwise (·.stop ≤ ·.offset)

theorem Orderly.empty : ({} : EditSet).Orderly := ⟨by simp, List.Pairwise.nil, List.Pairwise.nil⟩

/-- All edits in the order in which their texts are put in. -/
def edits (s : EditSet) : List Edit := s.sites.flatMap EditSite.edits

theorem mem_edits {s : EditSet} {e : Edit} : e ∈ s.edits ↔ ∃ site ∈ s.sites, e ∈ site.edits :=
  List.mem_flatMap

/-- An edit of an orderly set starts at the offset of its site. -/
theorem Orderly.exists_site {sites : List EditSite} (h : ∀ site ∈ sites, site.Orderly) {f : Edit}
    (hf : f ∈ sites.flatMap EditSite.edits) :
    ∃ site ∈ sites, f ∈ site.edits ∧ f.start = site.offset := by
  obtain ⟨site, hsite, hf⟩ := List.mem_flatMap.1 hf
  exact ⟨site, hsite, hf, (h site hsite).start_eq f hf⟩

/-! ## 4. Adding an edit -/

/-- The sites that are skipped when an edit is added lie in front of it, the others do not. -/
theorem offset_of_mem_sites {sites : List EditSite} (h : sites.Pairwise (·.offset < ·.offset))
    (n : Nat) :
    (∀ site ∈ sites.takeWhile (·.offset < n), site.offset < n) ∧
      ∀ site ∈ sites.dropWhile (·.offset < n), n ≤ site.offset := by
  induction sites with
  | nil => simp
  | cons site sites ih =>
    obtain ⟨hsite, hsites⟩ := List.pairwise_cons.1 h
    by_cases hlt : site.offset < n
    · simpa [hlt] using ih hsites
    · simp only [List.takeWhile_cons, List.dropWhile_cons, decide_eq_true_eq, if_neg hlt]
      refine ⟨by simp, fun t ht => ?_⟩
      rcases List.mem_cons.1 ht with rfl | ht
      · exact Nat.le_of_not_lt hlt
      · exact Nat.le_of_lt (Nat.lt_of_le_of_lt (Nat.le_of_not_lt hlt) (hsite t ht))

/-- The sites of a set around an offset: those in front of it, the one at it, if there is one, and
those behind it. -/
structure Around (s : EditSet) (n : Nat) (before here behind : List EditSite) : Prop where
  sites_eq : s.sites = before ++ here ++ behind
  before : ∀ site ∈ before, site.offset < n
  here : here = [] ∨ ∃ site, here = [site] ∧ site.offset = n
  behind : ∀ site ∈ behind, n < site.offset

/-- What is looked at when an edit is added: the last site in front of it, the site at its offset
and the first site behind it. -/
def Meets (e : Edit) (before here behind : List EditSite) : Prop :=
  (∃ site ∈ before.getLast?, ∃ f ∈ site.edits, e.start < f.stop) ∨
    (∃ site ∈ here, e.stop ≠ e.start ∨ ∃ f ∈ site.edits, f.stop ≠ e.start) ∨
    ∃ site ∈ behind.head?, site.offset < e.stop

instance (e : Edit) (before here behind : List EditSite) :
    Decidable (Meets e before here behind) := inferInstanceAs (Decidable (_ ∨ _ ∨ _))

/-- **What adding an edit does**, by the sites around it: it is refused if it meets one of them, and
else put in at its offset. -/
theorem exists_around {s : EditSet} (h : s.sites.Pairwise (·.offset < ·.offset)) (e : Edit) :
    ∃ before here behind, Around s e.start before here behind ∧
      s.add e = if Meets e before here behind then .error (.conflict e.start)
        else .ok ⟨before ++ ⟨e.start, e.place (here.flatMap EditSite.edits)⟩ :: behind⟩ := by
  obtain ⟨hbefore, hrest⟩ := offset_of_mem_sites h e.start
  obtain ⟨sites⟩ := s
  have hsites : sites.takeWhile (·.offset < e.start) ++ sites.dropWhile (·.offset < e.start) =
    sites := List.takeWhile_append_dropWhile
  -- the test of `add` on the sites in front
  have hreach : ∀ before : List EditSite,
      (before.getLast?.any fun site => site.edits.any (e.start < ·.stop)) = true ↔
        ∃ site ∈ before.getLast?, ∃ f ∈ site.edits, e.start < f.stop := by
    simp [Option.any_eq_true]
  rw [add]
  simp only [hreach]
  generalize sites.takeWhile (·.offset < e.start) = before at hbefore hsites ⊢
  generalize sites.dropWhile (·.offset < e.start) = rest at hrest hsites ⊢
  subst hsites
  cases rest with
  | nil =>
    refine ⟨before, [], [], ⟨by simp, hbefore, .inl rfl, by simp⟩, ?_⟩
    simp [Meets, Edit.place]
  | cons site sites =>
    have hlater : ∀ t ∈ sites, site.offset < t.offset := fun t =>
      List.rel_of_pairwise_cons (List.pairwise_append.1 h).2.1
    by_cases hat : site.offset = e.start
    · refine ⟨before, [site], sites, ⟨by simp, hbefore, .inr ⟨site, rfl, hat⟩,
        fun t ht => hat ▸ hlater t ht⟩, ?_⟩
      -- an edit that goes together with those at its offset is an insertion, which reaches nothing
      have hfar : (∃ t ∈ sites.head?, t.offset < e.stop) → e.stop ≠ e.start := by
        rintro ⟨t, ht, hlt⟩ hstop
        have := hlater t (List.mem_of_head? ht)
        omega
      have hmeets : Meets e before [site] sites ↔
          (∃ site ∈ before.getLast?, ∃ f ∈ site.edits, e.start < f.stop) ∨
            (e.stop ≠ e.start ∨ site.edits.any (·.stop ≠ e.start)) := by
        rw [Meets]
        simp only [List.mem_singleton, exists_eq_left, List.any_eq_true, decide_eq_true_eq]
        exact or_congr_right (or_iff_left_of_imp fun h => .inl (hfar h))
      simp [hat, hmeets, ite_or]
    · have hlate : e.start < site.offset :=
        Nat.lt_of_le_of_ne (hrest site List.mem_cons_self) (Ne.symm hat)
      refine ⟨before, [], site :: sites, ⟨by simp, hbefore, .inl rfl, ?_⟩, ?_⟩
      · exact List.forall_mem_cons.2 ⟨hlate, fun t ht => Nat.lt_trans hlate (hlater t ht)⟩
      · simp [Meets, hat, Edit.place, ite_or]

section Orderly

variable {s : EditSet} {e : Edit} {before here behind : List EditSite}

/-- The parts of an orderly set around an offset are orderly. -/
theorem Around.orderly (ha : Around s e.start before here behind) (h : s.Orderly) :
    (∀ site ∈ before, site.Orderly) ∧ (∀ site ∈ here, site.Orderly) ∧
      (∀ site ∈ behind, site.Orderly) := by
  have hsites := h.sites
  simp only [ha.sites_eq, List.mem_append] at hsites
  exact ⟨fun t ht => hsites t (.inl (.inl ht)), fun t ht => hsites t (.inl (.inr ht)),
    fun t ht => hsites t (.inr ht)⟩

theorem Around.edits_eq (ha : Around s e.start before here behind) :
    s.edits = before.flatMap EditSite.edits ++ here.flatMap EditSite.edits ++
      behind.flatMap EditSite.edits := by
  rw [edits, ha.sites_eq, List.flatMap_append, List.flatMap_append]

/-- Of the edits in front of an offset only those of the last site can reach behind it. -/
theorem Around.reach_iff (ha : Around s e.start before here behind) (h : s.Orderly) :
    (∃ site ∈ before.getLast?, ∃ f ∈ site.edits, e.start < f.stop) ↔
      ∃ f ∈ before.flatMap EditSite.edits, e.Clashes f := by
  have hbefore := (ha.orderly h).1
  refine ⟨?_, ?_⟩
  · rintro ⟨site, hlast, f, hf, hlt⟩
    have hsite := List.mem_of_getLast? hlast
    have hstart := (hbefore site hsite).start_eq f hf
    exact ⟨f, List.mem_flatMap.2 ⟨site, hsite, hf⟩, .inl ⟨hstart ▸ ha.before site hsite, hlt⟩⟩
  · rintro ⟨f, hf, hclash⟩
    obtain ⟨site, hsite, hmem, hstart⟩ := Orderly.exists_site hbefore hf
    have hfront := ha.before site hsite
    have hlt : e.start < f.stop := by
      rw [Edit.Clashes] at hclash
      omega
    have hne := List.ne_nil_of_mem hsite
    have hlast := List.getLast?_eq_some_getLast hne
    generalize before.getLast hne = last at hlast
    refine ⟨last, hlast, ?_⟩
    obtain ⟨front, rfl⟩ := List.getLast?_eq_some_iff.1 hlast
    rcases List.mem_append.1 hsite with hsite | hsite
    · -- a range of an earlier site ends in front of the last one
      have hapart := h.apart
      simp only [ha.sites_eq, List.pairwise_append] at hapart
      have hstop := hapart.1.1.2.2 site hsite last (List.mem_singleton_self _)
      have hne := (hbefore site (List.mem_append_left _ hsite)).nonempty
      have := (EditSite.stop_le_iff hne).1 hstop f hmem
      have := ha.before last (List.mem_append_right _ (List.mem_singleton_self _))
      omega
    · obtain rfl := List.mem_singleton.1 hsite
      exact ⟨f, hmem, hlt⟩

/-- Of the edits behind an offset those of the first site are reached first. -/
theorem Around.reached_iff (ha : Around s e.start before here behind) (h : s.Orderly) :
    (∃ site ∈ behind.head?, site.offset < e.stop) ↔
      ∃ f ∈ behind.flatMap EditSite.edits, e.Clashes f := by
  have hbehind := (ha.orderly h).2.2
  refine ⟨?_, ?_⟩
  · rintro ⟨site, hhead, hlt⟩
    have hsite := List.mem_of_head? hhead
    obtain ⟨f, hf⟩ := List.exists_mem_of_ne_nil _ (hbehind site hsite).nonempty
    have hstart := (hbehind site hsite).start_eq f hf
    have := ha.behind site hsite
    exact ⟨f, List.mem_flatMap.2 ⟨site, hsite, hf⟩, .inr (.inl (by omega))⟩
  · rintro ⟨f, hf, hclash⟩
    obtain ⟨site, hsite, hf, hstart⟩ := Orderly.exists_site hbehind hf
    have hback := ha.behind site hsite
    have hlt : f.start < e.stop := by
      rw [Edit.Clashes] at hclash
      omega
    cases behind with
    | nil => cases hsite
    | cons first rest =>
      refine ⟨first, rfl, ?_⟩
      have hascending := h.ascending
      simp only [ha.sites_eq, List.pairwise_append, List.pairwise_cons] at hascending
      rcases List.mem_cons.1 hsite with rfl | hsite
      · omega
      · have := hascending.2.1.1 site hsite
        omega

/-- At one offset only insertions go together. -/
theorem Around.shared_iff (ha : Around s e.start before here behind) (h : s.Orderly) :
    (∃ site ∈ here, e.stop ≠ e.start ∨ ∃ f ∈ site.edits, f.stop ≠ e.start) ↔
      ∃ f ∈ here.flatMap EditSite.edits, e.Clashes f := by
  have hhere := (ha.orderly h).2.1
  rcases ha.here with rfl | ⟨site, rfl, hat⟩
  · simp
  have hsite := hhere site (List.mem_singleton_self _)
  have hclash : ∀ f ∈ site.edits, e.Clashes f ↔ e.stop ≠ e.start ∨ f.stop ≠ e.start := by
    intro f hf
    have := hsite.start_eq f hf
    rw [Edit.Clashes]
    omega
  simp only [List.mem_singleton, exists_eq_left, List.flatMap_cons, List.flatMap_nil,
    List.append_nil]
  refine ⟨?_, ?_⟩
  · rintro (hstop | ⟨f, hf, hstop⟩)
    · obtain ⟨f, hf⟩ := List.exists_mem_of_ne_nil _ hsite.nonempty
      exact ⟨f, hf, (hclash f hf).2 (.inl hstop)⟩
    · exact ⟨f, hf, (hclash f hf).2 (.inr hstop)⟩
  · rintro ⟨f, hf, h⟩
    exact ((hclash f hf).1 h).imp_right fun hstop => ⟨f, hf, hstop⟩

/-- **Looking at the next sites is enough**: an edit meets one of them exactly if it clashes with
some edit of the whole set. -/
theorem Around.meets_iff (ha : Around s e.start before here behind) (h : s.Orderly) :
    Meets e before here behind ↔ ∃ f ∈ s.edits, e.Clashes f := by
  rw [Meets, ha.reach_iff h, ha.shared_iff h, ha.reached_iff h, ha.edits_eq]
  simp only [List.mem_append, or_and_right, exists_or, or_assoc]

/-- What a set becomes when an edit is added: the edit stands behind all edits that may stand in
front of it. -/
def Adds (e : Edit) (s s' : EditSet) : Prop :=
  ∃ front back, s.edits = front ++ back ∧ s'.edits = front ++ e :: back ∧
    (∀ f ∈ front, f.before e) ∧ ∀ f ∈ back, ¬ f.before e

theorem Around.falling (ha : Around s e.start before here behind) (h : s.Orderly) :
    (here.flatMap EditSite.edits).Pairwise fun f g => g.priority ≤ f.priority := by
  have hhere := (ha.orderly h).2.1
  rcases ha.here with rfl | ⟨site, rfl, -⟩
  · exact List.Pairwise.nil
  · simpa using (hhere site (List.mem_singleton_self _)).falling

/-- An edit that is put in stands behind all edits that may stand in front of it. -/
theorem Around.adds (ha : Around s e.start before here behind) (h : s.Orderly) :
    Adds e s ⟨before ++ ⟨e.start, e.place (here.flatMap EditSite.edits)⟩ :: behind⟩ := by
  obtain ⟨front, back, hhere, hplace, hfront, hback⟩ := Edit.place_eq e (ha.falling h)
  obtain ⟨hbefore, hsites, hbehind⟩ := ha.orderly h
  have hat : ∀ f ∈ front ++ back, f.start = e.start := by
    intro f hf
    obtain ⟨site, hsite, -, hstart⟩ := Orderly.exists_site hsites (hhere ▸ hf)
    rcases ha.here with rfl | ⟨site', rfl, hat⟩
    · cases hsite
    · obtain rfl := List.mem_singleton.1 hsite
      exact hstart.trans hat
  refine ⟨before.flatMap EditSite.edits ++ front, back ++ behind.flatMap EditSite.edits, ?_, ?_,
    fun f hf => ?_, fun f hf => ?_⟩
  · rw [ha.edits_eq, hhere]
    simp
  · simp [edits, hplace]
  · rw [Edit.before_iff]
    rcases List.mem_append.1 hf with hf | hf
    · obtain ⟨site, hsite, -, hstart⟩ := Orderly.exists_site hbefore hf
      exact .inl (hstart ▸ ha.before site hsite)
    · exact .inr ⟨hat f (List.mem_append_left _ hf), hfront f hf⟩
  · rw [Edit.before_iff]
    rcases List.mem_append.1 hf with hf | hf
    · have := hat f (List.mem_append_right _ hf)
      have := hback f hf
      omega
    · obtain ⟨site, hsite, -, hstart⟩ := Orderly.exists_site hbehind hf
      have := ha.behind site hsite
      omega

/-- The site of an edit that clashes with none at its offset is orderly. -/
theorem Around.site_orderly (ha : Around s e.start before here behind) (h : s.Orderly)
    (he : e.start ≤ e.stop) (hfree : ∀ site ∈ here, ∀ f ∈ site.edits, ¬ e.Clashes f) :
    EditSite.Orderly ⟨e.start, e.place (here.flatMap EditSite.edits)⟩ := by
  have hfalling := Edit.falling_place e (ha.falling h)
  rcases ha.here with rfl | ⟨site, rfl, hat⟩
  · exact ⟨by simp [Edit.place], by simp [Edit.place], by simpa [Edit.place] using he, hfalling,
      by simp [Edit.place]⟩
  have hsite := (ha.orderly h).2.1 site (List.mem_singleton_self _)
  simp only [List.flatMap_cons, List.flatMap_nil, List.append_nil] at hfalling ⊢
  have hold : ∀ f ∈ site.edits, f.start = e.start ∧ e.stop = e.start ∧ f.stop = f.start := by
    intro f hf
    have hclash := hfree site (List.mem_singleton_self _) f hf
    have := hsite.start_eq f hf
    rw [Edit.Clashes] at hclash
    omega
  obtain ⟨g, hg⟩ := List.exists_mem_of_ne_nil _ hsite.nonempty
  have hall : ∀ f ∈ e.place site.edits, f.start = e.start ∧ f.stop = f.start := by
    intro f hf
    rcases Edit.mem_place.1 hf with rfl | hf
    · exact ⟨rfl, (hold g hg).2.1⟩
    · exact ⟨(hold f hf).1, (hold f hf).2.2⟩
  exact ⟨List.ne_nil_of_mem (Edit.mem_place.2 (.inl rfl)), fun f hf => (hall f hf).1,
    fun f hf => Nat.le_of_eq (hall f hf).2.symm, hfalling, fun _ f hf => (hall f hf).2⟩

/-- An edit that clashes with none of a set keeps the set orderly. -/
theorem Around.orderly_add (ha : Around s e.start before here behind) (h : s.Orderly)
    (he : e.start ≤ e.stop) (hfree : ¬ ∃ f ∈ s.edits, e.Clashes f) :
    Orderly ⟨before ++ ⟨e.start, e.place (here.flatMap EditSite.edits)⟩ :: behind⟩ := by
  obtain ⟨hbefore, hhere, hbehind⟩ := ha.orderly h
  have hfree : ∀ site ∈ s.sites, ∀ f ∈ site.edits, ¬ e.Clashes f := fun site hsite f hf hclash =>
    hfree ⟨f, mem_edits.2 ⟨site, hsite, hf⟩, hclash⟩
  have hascending := h.ascending
  have hapart := h.apart
  simp only [ha.sites_eq, List.mem_append] at hfree
  simp only [ha.sites_eq, List.pairwise_append, List.mem_append] at hascending hapart
  have hne : e.place (here.flatMap EditSite.edits) ≠ [] :=
    List.ne_nil_of_mem (Edit.mem_place.2 (.inl rfl))
  refine ⟨fun site hsite => ?_, ?_, ?_⟩
  · rcases List.mem_append.1 hsite with hsite | hsite
    · exact hbefore site hsite
    rcases List.mem_cons.1 hsite with rfl | hsite
    · exact ha.site_orderly h he fun t ht f hf => hfree t (.inl (.inr ht)) f hf
    · exact hbehind site hsite
  · rw [List.pairwise_append, List.pairwise_cons]
    refine ⟨hascending.1.1, ⟨ha.behind, hascending.2.1⟩, fun site hsite t ht => ?_⟩
    rcases List.mem_cons.1 ht with rfl | ht
    · exact ha.before site hsite
    · exact hascending.2.2 site (.inl hsite) t ht
  · rw [List.pairwise_append, List.pairwise_cons]
    refine ⟨hapart.1.1, ⟨fun t ht => ?_, hapart.2.1⟩, fun site hsite t ht => ?_⟩
    · refine (EditSite.stop_le_iff hne).2 fun f hf => ?_
      rcases Edit.mem_place.1 hf with rfl | hf
      · obtain ⟨g, hg⟩ := List.exists_mem_of_ne_nil _ (hbehind t ht).nonempty
        have hclash := hfree t (.inr ht) g hg
        have := (hbehind t ht).start_eq g hg
        have := ha.behind t ht
        rw [Edit.Clashes] at hclash
        omega
      · obtain ⟨site, hsite, hf⟩ := List.mem_flatMap.1 hf
        exact (EditSite.stop_le_iff (hhere site hsite).nonempty).1
          (hapart.2.2 site (.inr hsite) t ht) f hf
    · rcases List.mem_cons.1 ht with rfl | ht
      · refine (EditSite.stop_le_iff (hbefore site hsite).nonempty).2 fun f hf => ?_
        have hclash := hfree site (.inl (.inl hsite)) f hf
        have := (hbefore site hsite).start_eq f hf
        have := ha.before site hsite
        rw [Edit.Clashes] at hclash
        change f.stop ≤ e.start
        omega
      · exact hapart.2.2 site (.inl hsite) t ht

/-- **Adding an edit to an orderly set.**  It is refused exactly if it clashes with an edit of the
set; else the set stays orderly and the edit stands behind all that may stand in front of it. -/
theorem Orderly.add_cases (h : s.Orderly) (he : e.start ≤ e.stop) :
    (∃ f ∈ s.edits, e.Clashes f) ∧ s.add e = .error (.conflict e.start) ∨
      (¬ ∃ f ∈ s.edits, e.Clashes f) ∧ ∃ t, s.add e = .ok t ∧ t.Orderly ∧ Adds e s t := by
  obtain ⟨before, here, behind, ha, hadd⟩ := exists_around h.ascending e
  by_cases hclash : ∃ f ∈ s.edits, e.Clashes f
  · rw [if_pos ((ha.meets_iff h).2 hclash)] at hadd
    exact .inl ⟨hclash, hadd⟩
  · rw [if_neg (mt (ha.meets_iff h).1 hclash)] at hadd
    exact .inr ⟨hclash, _, hadd, ha.orderly_add h he hclash, ha.adds h⟩

end Orderly

theorem Orderly.sorted {s : EditSet} (h : s.Orderly) : s.edits.Pairwise fun e f => e.before f := by
  rw [edits, List.pairwise_flatMap]
  refine ⟨fun site hsite => ?_, h.ascending.imp_of_mem fun {t u} ht hu htu e he f hf => ?_⟩
  · have ho := h.sites site hsite
    refine ho.falling.imp_of_mem fun {e f} he hf hef => Edit.before_iff.2 (.inr ⟨?_, hef⟩)
    exact (ho.start_eq e he).trans (ho.start_eq f hf).symm
  · rw [Edit.before_iff, (h.sites t ht).start_eq e he, (h.sites u hu).start_eq f hf]
    exact .inl htu

/-- In every class of equals an added edit is the last one. -/
theorem Adds.filter {e : Edit} {s s' : EditSet} (hadds : Adds e s s') (c : Edit) :
    s'.edits.filter (fun f => c.before f && f.before c) =
      (s.edits ++ [e]).filter fun f => c.before f && f.before c := by
  obtain ⟨front, back, hs, hs', -, hback⟩ := hadds
  rw [hs, hs']
  simp only [List.filter_append, List.filter_cons, List.filter_nil]
  split
  · next hc =>
    simp only [Bool.and_eq_true] at hc
    have hnone : back.filter (fun f => c.before f && f.before c) = [] := by
      rw [List.filter_eq_nil_iff]
      intro f hf hcf
      simp only [Bool.and_eq_true] at hcf
      exact hback f hf (Edit.before_trans f c e hcf.2 hc.1)
    simp [hnone]
  · simp

/-- What an added edit makes of a sorted list is what sorting the longer list yields. -/
theorem Adds.edits_eq {e : Edit} {s s' : EditSet} (hadds : Adds e s s') (h : s'.Orderly)
    {es : List Edit} (hs : s.edits = es.mergeSort Edit.before) :
    s'.edits = (es ++ [e]).mergeSort Edit.before := by
  refine eq_mergeSort Edit.before_trans Edit.before_total h.sorted fun c => ?_
  rw [hadds.filter c, hs, List.filter_append, List.filter_append,
    class_mergeSort Edit.before_trans Edit.before_total]

end EditSet

/-! ## 5. Sets of insertions -/

/-- The site inserts only: its edits replace nothing, and there is one. -/
structure EditSite.OnlyInserts (s : EditSite) : Prop where
  /-- The edits are empty ranges at the offset. -/
  inserts : ∀ e ∈ s.edits, e.start = s.offset ∧ e.stop = s.offset
  /-- There is an edit. -/
  nonempty : s.edits ≠ []

namespace EditSet

/-- The set inserts only. -/
structure OnlyInserts (s : EditSet) : Prop where
  /-- Every site inserts. -/
  inserts : ∀ site ∈ s.sites, site.OnlyInserts
  /-- The offsets ascend. -/
  ascending : s.sites.Pairwise (·.offset < ·.offset)
  /-- The edits are sorted. -/
  sorted : s.edits.Pairwise fun e f => e.before f

theorem Orderly.onlyInserts {s : EditSet} (h : s.Orderly) (he : ∀ e ∈ s.edits, e.stop = e.start) :
    s.OnlyInserts := by
  refine ⟨fun site hsite => ⟨fun e hmem => ?_, (h.sites site hsite).nonempty⟩, h.ascending,
    h.sorted⟩
  have hstart := (h.sites site hsite).start_eq e hmem
  exact ⟨hstart, (he e (mem_edits.2 ⟨site, hsite, hmem⟩)).trans hstart⟩

/-- Adding insertions in turn to an orderly set of insertions is never refused, and sorts them
in. -/
theorem Orderly.exists_addAll {s : EditSet} (h : s.Orderly) {es es' : List Edit}
    (hs : s.edits = es.mergeSort Edit.before) (he : ∀ e ∈ es ++ es', e.stop = e.start) :
    ∃ t, s.addAll es' = .ok t ∧ t.Orderly ∧ t.edits = (es ++ es').mergeSort Edit.before := by
  induction es' generalizing s es with
  | nil => exact ⟨s, rfl, h, by simpa using hs⟩
  | cons e es' ih =>
    have hins := he e (by simp)
    rcases h.add_cases (Nat.le_of_eq hins.symm) with ⟨⟨f, hf, hclash⟩, -⟩ | ⟨-, t, hadd, ht, hadds⟩
    · rw [hs, List.mem_mergeSort] at hf
      exact absurd hclash (Edit.not_clashes_of_insertions hins (he f (List.mem_append_left _ hf)))
    · obtain ⟨u, hall, hu, hedits⟩ := ih ht (hadds.edits_eq ht hs) (by simpa using he)
      refine ⟨u, ?_, hu, by simpa using hedits⟩
      rw [addAll, List.foldlM_cons, hadd]
      exact hall

/-- **Adding insertions is a stable sort** by offset and falling priority, and never fails. -/
theorem addAll_eq_mergeSort {es : List Edit} (he : ∀ e ∈ es, e.stop = e.start) :
    ∃ s, addAll {} es = .ok s ∧ s.OnlyInserts ∧ s.edits = es.mergeSort Edit.before := by
  have hnil : edits {} = [].mergeSort Edit.before := by simp [edits]
  obtain ⟨s, hall, hs, hedits⟩ := Orderly.empty.exists_addAll hnil (by simpa using he)
  refine ⟨s, hall, hs.onlyInserts fun e hmem => ?_, by simpa using hedits⟩
  rw [hedits, List.mem_mergeSort] at hmem
  exact he e (by simpa using hmem)

end EditSet

/-! ## 6. Edits that clash -/

/-- The edits of a list that are taken if they come in turn: those that clash with none that was
taken before. -/
def Edit.taken (es : List Edit) : List Edit :=
  es.foldl (fun kept e => if ∃ f ∈ kept, e.Clashes f then kept else kept ++ [e]) []

theorem Edit.taken_concat (es : List Edit) (e : Edit) :
    Edit.taken (es ++ [e]) =
      if ∃ f ∈ Edit.taken es, e.Clashes f then Edit.taken es else Edit.taken es ++ [e] := by
  rw [taken, List.foldl_append]
  rfl

namespace EditSet

/-- Offers an edit to a set: what becomes of the set, and the fault that is reported. -/
def offer (s : EditSet) (e : Edit) : EditSet × Option Fault :=
  match s.add e with
  | .ok t => (t, none)
  | .error fault => (s, some fault)

/-- The set after edits have been offered to it in turn, whichever of them it took. -/
def offerAll (s : EditSet) (es : List Edit) : EditSet := es.foldl (fun s e => (s.offer e).1) s

/-- **What offering an edit to an orderly set does.**  If it clashes with some edit of the set, a
conflict at its start is reported and the set stays as it is; else it becomes an edit of the set. -/
theorem Orderly.offer_cases {s : EditSet} (h : s.Orderly) {e : Edit} (he : e.start ≤ e.stop) :
    (∃ f ∈ s.edits, e.Clashes f) ∧ s.offer e = (s, some (.conflict e.start)) ∨
      (¬ ∃ f ∈ s.edits, e.Clashes f) ∧ ∃ t, s.offer e = (t, none) ∧ t.Orderly ∧ Adds e s t := by
  rcases h.add_cases he with ⟨hclash, hadd⟩ | ⟨hfree, t, hadd, ht, hadds⟩
  · exact .inl ⟨hclash, by rw [offer, hadd]⟩
  · exact .inr ⟨hfree, t, by rw [offer, hadd], ht, hadds⟩

/-- The edits of a set are those that it took, sorted.  The induction is on the last edit that was
offered. -/
theorem offerAll_eq {es : List Edit} (he : ∀ e ∈ es, e.start ≤ e.stop) :
    (offerAll {} es).Orderly ∧ (offerAll {} es).edits = (Edit.taken es).mergeSort Edit.before := by
  induction es using List.reverseRecOn with
  | nil => exact ⟨Orderly.empty, by simp [offerAll, edits, Edit.taken]⟩
  | append_singleton es e ih =>
    obtain ⟨horderly, hedits⟩ := ih fun f hf => he f (List.mem_append_left _ hf)
    have hlast : offerAll {} (es ++ [e]) = ((offerAll {} es).offer e).1 := by
      rw [offerAll, List.foldl_append]
      rfl
    have hmem : (∃ f ∈ (offerAll {} es).edits, e.Clashes f) ↔ ∃ f ∈ Edit.taken es, e.Clashes f := by
      simp only [hedits, List.mem_mergeSort]
    rw [hlast, Edit.taken_concat]
    rcases horderly.offer_cases (he e (by simp)) with
      ⟨hclash, hoffer⟩ | ⟨hfree, t, hoffer, ht, hadds⟩
    · rw [hoffer, if_pos (hmem.1 hclash)]
      exact ⟨horderly, hedits⟩
    · rw [hoffer, if_neg (mt hmem.2 hfree)]
      exact ⟨ht, hadds.edits_eq ht hedits⟩

/-- **A set is orderly whatever was offered to it.**  It holds the edits that it took, by offset, at
one offset by falling priority, and among equals as they came.  Of further edits it refuses exactly
those that clash with one of its edits, and is left as it was by them; so a set of insertions takes
every further insertion. -/
theorem offerAll_orderly {es : List Edit} (he : ∀ e ∈ es, e.start ≤ e.stop) :
    (offerAll {} es).Orderly ∧
      (offerAll {} es).edits = (Edit.taken es).mergeSort Edit.before ∧
      (∀ e : Edit, e.start ≤ e.stop →
        ((∃ f ∈ (offerAll {} es).edits, e.Clashes f) ∧
            (offerAll {} es).offer e = (offerAll {} es, some (.conflict e.start)) ∨
          (¬ ∃ f ∈ (offerAll {} es).edits, e.Clashes f) ∧
            ((offerAll {} es).offer e).2 = none)) ∧
      ((∀ f ∈ (offerAll {} es).edits, f.stop = f.start) →
        ∀ e : Edit, e.stop = e.start → ((offerAll {} es).offer e).2 = none) := by
  obtain ⟨horderly, hedits⟩ := offerAll_eq he
  have hoffer : ∀ e : Edit, e.start ≤ e.stop →
      ((∃ f ∈ (offerAll {} es).edits, e.Clashes f) ∧
          (offerAll {} es).offer e = (offerAll {} es, some (.conflict e.start)) ∨
        (¬ ∃ f ∈ (offerAll {} es).edits, e.Clashes f) ∧
          ((offerAll {} es).offer e).2 = none) := by
    intro e hle
    refine (horderly.offer_cases hle).imp_right ?_
    rintro ⟨hfree, t, ht, -, -⟩
    exact ⟨hfree, by rw [ht]⟩
  refine ⟨horderly, hedits, hoffer, fun hinserts e hins => ?_⟩
  rcases hoffer e (Nat.le_of_eq hins.symm) with ⟨⟨f, hf, hclash⟩, -⟩ | ⟨-, hnone⟩
  · exact absurd hclash (Edit.not_clashes_of_insertions hins (hinserts f hf))
  · exact hnone

/-- A range is replaced, three insertions come right behind it and a range that ends in front of it
is replaced; an insertion inside of it, a range that reaches into it and an insertion at its start
are refused. -/
theorem offerAll_orderly_mixed :
    let es : List Edit :=
      [⟨3, 6, 10, .plain "new"⟩, .insertion 6 63 (.step 1), .insertion 4 255 (.step 2),
        .insertion 6 127 (.tracker "x"), ⟨1, 4, 10, .plain "into"⟩, .insertion 6 63 (.step 3),
        ⟨1, 3, 10, .plain "front"⟩, .insertion 3 255 (.step 4)]
    let s := offerAll {} es
    (∀ e ∈ es, e.start ≤ e.stop) ∧ s.Orderly ∧ s.edits = (Edit.taken es).mergeSort Edit.before ∧
      Edit.taken es =
        [⟨3, 6, 10, .plain "new"⟩, .insertion 6 63 (.step 1), .insertion 6 127 (.tracker "x"),
          .insertion 6 63 (.step 3), ⟨1, 3, 10, .plain "front"⟩] ∧
      s.offer ⟨2, 7, 0, .plain "over"⟩ = (s, some (.conflict 2)) := by
  intro es s
  have hes : ∀ e ∈ es, e.start ≤ e.stop := by decide
  have hclash : ∃ f ∈ s.edits, Edit.Clashes ⟨2, 7, 0, .plain "over"⟩ f := by decide
  obtain ⟨horderly, hedits, hoffer, -⟩ := offerAll_orderly hes
  refine ⟨hes, horderly, hedits, by decide, ?_⟩
  rcases hoffer ⟨2, 7, 0, .plain "over"⟩ (by decide) with ⟨-, h⟩ | ⟨hfree, -⟩
  · exact h
  · exact absurd hclash hfree

end EditSet

end Stepwise
