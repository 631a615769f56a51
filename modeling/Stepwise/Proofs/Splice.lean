import Stepwise.Edit.Splice
import Stepwise.Proofs.Edits

/-!
# One pass over a source

Edits are applied from the last offset to the first.  If their ranges stand one behind the other,
this is one pass from the left, which copies the source and puts the text of every site in its
place.

Main statements:

* `EditSet.splice?_eq_some_iff`: applying a set is one pass over the source;
* `EditSet.OnlyInserts.exists_patches`: insertions at offsets of a source can be applied.
-/

namespace Stepwise

/-! ## 1. Offsets of a text -/

namespace Text

/-- Whether an offset is a place between two characters of a text, or one of its ends. -/
def IsOffset (t : Text) (n : Nat) : Prop := ∃ head rest, t = head ++ rest ∧ byteLength head = n

theorem IsOffset.le {t : Text} {n : Nat} (h : t.IsOffset n) : n ≤ byteLength t := by
  obtain ⟨head, rest, rfl, rfl⟩ := h
  rw [byteLength_append]
  exact Nat.le_add_right _ _

theorem eq_nil_of_byteLength {t : Text} (h : byteLength t = 0) : t = [] := by
  cases t with
  | nil => rfl
  | cons c t =>
    have := c.utf8Size_pos
    rw [byteLength] at h
    omega

/-- The offsets in the first of two texts are its own. -/
theorem isOffset_append_iff {t u : Text} {n : Nat} (hn : n ≤ byteLength t) :
    (t ++ u).IsOffset n ↔ t.IsOffset n := by
  refine ⟨?_, ?_⟩
  · rintro ⟨head, rest, heq, rfl⟩
    rcases List.append_eq_append_iff.1 heq with ⟨more, rfl, -⟩ | ⟨more, rfl, -⟩
    · rw [byteLength_append] at hn
      obtain rfl := eq_nil_of_byteLength (t := more) (by omega)
      exact ⟨t, [], by simp, by simp⟩
    · exact ⟨head, more, rfl, rfl⟩
  · rintro ⟨head, rest, rfl, rfl⟩
    exact ⟨head, rest ++ u, by simp, rfl⟩

/-- Two offsets cut a text in three. -/
theorem IsOffset.exists_between {t : Text} {m n : Nat} (hm : t.IsOffset m) (hn : t.IsOffset n)
    (hmn : m ≤ n) :
    ∃ head mid rest, t = head ++ mid ++ rest ∧ byteLength head = m ∧ m + byteLength mid = n := by
  obtain ⟨front, rest, rfl, rfl⟩ := hn
  obtain ⟨head, mid, rfl, rfl⟩ := (isOffset_append_iff hmn).1 hm
  exact ⟨head, mid, rest, rfl, rfl, (byteLength_append head mid).symm⟩

/-- A range of a text is a part of it with as many bytes in front of it and in it. -/
theorem exists_of_slice?_eq_some {t u : Text} {m n : Nat} (h : slice? m n t = some u) :
    ∃ head rest, t = head ++ u ++ rest ∧ byteLength head = m ∧ m + byteLength u = n := by
  rw [slice?] at h
  split at h
  · next hmn =>
    simp only [Option.bind_eq_some_iff, Option.map_eq_some_iff, Prod.exists, cutAt?_eq_some_iff] at h
    obtain ⟨head, rest, ⟨rfl, rfl⟩, mid, tail, ⟨rfl, hlen⟩, rfl⟩ := h
    exact ⟨head, tail, by simp, rfl, by omega⟩
  · cases h

/-- A range of a text starts and ends at offsets, and covers as many bytes as lie between them. -/
theorem slice?_eq_some {t u : Text} {m n : Nat} (h : slice? m n t = some u) :
    t.IsOffset m ∧ t.IsOffset n ∧ m + byteLength u = n := by
  obtain ⟨head, rest, rfl, rfl, hlen⟩ := exists_of_slice?_eq_some h
  exact ⟨⟨head, u ++ rest, by simp, rfl⟩,
    ⟨head ++ u, rest, rfl, by rw [byteLength_append, hlen]⟩, hlen⟩

end Text

/-! ## 2. One pass over the source -/

/-- A site in the source. -/
structure Patch where
  /-- The site. -/
  site : EditSite
  /-- What is replaced there. -/
  gone : Text
  /-- The source behind it up to the next site. -/
  kept : Text

namespace Patch

open Text

/-- The source from the first site on. -/
def plain (ps : List Patch) : Text := ps.flatMap fun p => p.gone ++ p.kept

/-- The edited source from the first site on. -/
def edited (ps : List Patch) : Text := ps.flatMap fun p => p.site.text ++ p.kept

/-- The first site is at an offset, and every other one where the source in front of it ends. -/
def Fits (n : Nat) : List Patch → Prop
  | [] => True
  | p :: ps =>
    p.site.offset = n ∧ p.site.stop = n + byteLength p.gone ∧
      Fits (n + byteLength (p.gone ++ p.kept)) ps

@[simp] theorem plain_nil : plain [] = [] := rfl

@[simp] theorem plain_cons (p : Patch) (ps : List Patch) :
    plain (p :: ps) = p.gone ++ p.kept ++ plain ps := rfl

theorem plain_eq {ps : List Patch} (h : ∀ p ∈ ps, p.gone = []) : plain ps = ps.flatMap kept := by
  rw [plain, List.flatMap_congr fun p hp => by rw [h p hp, List.nil_append]]

@[simp] theorem edited_nil : edited [] = [] := rfl

@[simp] theorem edited_cons (p : Patch) (ps : List Patch) :
    edited (p :: ps) = p.site.text ++ p.kept ++ edited ps := rfl

end Patch

namespace EditSite

open Text

/-- What a site replaces in a text. -/
theorem splice?_eq_some_iff {site : EditSite} {source out : Text} :
    site.splice? source = some out ↔ site.offset ≤ site.stop ∧ ∃ head gone rest,
      source = head ++ gone ++ rest ∧ byteLength head = site.offset ∧
        site.offset + byteLength gone = site.stop ∧ out = head ++ site.text ++ rest := by
  rw [splice?]
  split
  · next hle =>
    simp only [Option.bind_eq_some_iff, Option.map_eq_some_iff, Prod.exists, cutAt?_eq_some_iff]
    refine ⟨?_, ?_⟩
    · rintro ⟨head, rest, ⟨rfl, hhead⟩, gone, tail, ⟨rfl, hgone⟩, rfl⟩
      exact ⟨hle, head, gone, tail, by simp, hhead, by omega, rfl⟩
    · rintro ⟨-, head, gone, rest, rfl, hhead, hgone, rfl⟩
      exact ⟨head, gone ++ rest, ⟨by simp, hhead⟩, gone, rest, ⟨rfl, by omega⟩, rfl⟩
  · next hlt => simp [hlt]

end EditSite

namespace EditSet

open Text

theorem splice?_cons (site : EditSite) (sites : List EditSite) (source : Text) :
    splice? ⟨site :: sites⟩ source = (splice? ⟨sites⟩ source).bind site.splice? := by
  simp only [splice?, List.reverse_cons, List.foldlM_append, List.foldlM_cons, List.foldlM_nil,
    bind_pure]
  rfl

/-- **Applying sites that fit a source is one pass over it.** -/
theorem splice?_of_fits {ps : List Patch} {first : Text} (h : Patch.Fits (byteLength first) ps) :
    splice? ⟨ps.map Patch.site⟩ (first ++ Patch.plain ps) = some (first ++ Patch.edited ps) := by
  induction ps generalizing first with
  | nil => rfl
  | cons p ps ih =>
    obtain ⟨hoffset, hstop, hps⟩ := h
    have hrest := @ih (first ++ p.gone ++ p.kept) (by simpa [Nat.add_assoc] using hps)
    rw [List.map_cons, splice?_cons, Patch.plain_cons, ← List.append_assoc, ← List.append_assoc,
      hrest, Option.bind_some, EditSite.splice?_eq_some_iff]
    refine ⟨by omega, first, p.gone, p.kept ++ Patch.edited ps, ?_, hoffset.symm, by omega, ?_⟩
    · simp
    · simp

/-- A site in front of the patches of a source ends in the source in front of them. -/
theorem stop_le_of_fits {site : EditSite} {ps : List Patch} {first : Text}
    (h : Patch.Fits (byteLength first) ps)
    (hfront : ∀ t ∈ ps.map Patch.site, site.stop ≤ t.offset)
    (hle : site.stop ≤ byteLength (first ++ Patch.edited ps) ∨
      site.stop ≤ byteLength (first ++ Patch.plain ps)) :
    site.stop ≤ byteLength first := by
  cases ps with
  | nil => simpa using hle
  | cons p ps => exact h.1 ▸ hfront p.site (by simp)

/-- Ranges of a source one behind the other are patches of it. -/
theorem exists_patches {sites : List EditSite} {source : Text}
    (h : sites.Pairwise (·.stop ≤ ·.offset))
    (hrange : ∀ site ∈ sites, site.offset ≤ site.stop ∧ source.IsOffset site.offset ∧
      source.IsOffset site.stop) :
    ∃ first ps, ps.map Patch.site = sites ∧ Patch.Fits (byteLength first) ps ∧
      source = first ++ Patch.plain ps := by
  induction sites with
  | nil => exact ⟨source, [], rfl, trivial, by simp⟩
  | cons site sites ih =>
    obtain ⟨hsite, hsites⟩ := List.pairwise_cons.1 h
    obtain ⟨first, ps, rfl, hfits, rfl⟩ := ih hsites fun t ht => hrange t (List.mem_cons_of_mem _ ht)
    obtain ⟨hle, hoffset, hstop⟩ := hrange site List.mem_cons_self
    have hlen := stop_le_of_fits hfits hsite (.inr hstop.le)
    obtain ⟨head, gone, kept, rfl, hhead, hgone⟩ :=
      ((isOffset_append_iff (Nat.le_trans hle hlen)).1 hoffset).exists_between
        ((isOffset_append_iff hlen).1 hstop) hle
    refine ⟨head, ⟨site, gone, kept⟩ :: ps, rfl, ⟨hhead.symm, by simp [hhead, hgone], ?_⟩, by simp⟩
    simpa [Nat.add_assoc] using hfits

/-- Only ranges of the source are ever replaced. -/
theorem isOffset_of_splice? {sites : List EditSite} {source out : Text}
    (h : sites.Pairwise (·.stop ≤ ·.offset)) (hout : splice? ⟨sites⟩ source = some out) :
    ∀ site ∈ sites, site.offset ≤ site.stop ∧ source.IsOffset site.offset ∧
      source.IsOffset site.stop := by
  induction sites generalizing out with
  | nil => simp
  | cons site sites ih =>
    obtain ⟨hsite, hsites⟩ := List.pairwise_cons.1 h
    rw [splice?_cons, Option.bind_eq_some_iff] at hout
    obtain ⟨mid, hmid, hout⟩ := hout
    have hrange := ih hsites hmid
    obtain ⟨first, ps, rfl, hfits, rfl⟩ := exists_patches hsites hrange
    obtain rfl : first ++ Patch.edited ps = mid := by
      rw [splice?_of_fits hfits] at hmid
      exact Option.some.inj hmid
    obtain ⟨hle, head, gone, rest, heq, hhead, hgone, -⟩ := EditSite.splice?_eq_some_iff.1 hout
    have hoffset : (first ++ Patch.edited ps).IsOffset site.offset :=
      ⟨head, gone ++ rest, by rw [heq, List.append_assoc], hhead⟩
    have hstop : (first ++ Patch.edited ps).IsOffset site.stop :=
      ⟨head ++ gone, rest, heq, by rw [byteLength_append, hhead, hgone]⟩
    have hlen := stop_le_of_fits hfits hsite (.inl hstop.le)
    intro t ht
    rcases List.mem_cons.1 ht with rfl | ht
    · refine ⟨hle, ?_, ?_⟩
      · rw [isOffset_append_iff (Nat.le_trans hle hlen)] at hoffset ⊢
        exact hoffset
      · rw [isOffset_append_iff hlen] at hstop ⊢
        exact hstop
    · exact hrange t ht

/-- **Applying a set is one pass over the source**, if its ranges stand one behind the other. -/
theorem splice?_eq_some_iff {s : EditSet} {source out : Text}
    (h : s.sites.Pairwise (·.stop ≤ ·.offset)) :
    s.splice? source = some out ↔ ∃ first ps, ps.map Patch.site = s.sites ∧
      Patch.Fits (byteLength first) ps ∧ source = first ++ Patch.plain ps ∧
        out = first ++ Patch.edited ps := by
  refine ⟨fun hout => ?_, ?_⟩
  · obtain ⟨first, ps, hps, hfits, rfl⟩ := exists_patches h (isOffset_of_splice? h hout)
    obtain ⟨sites⟩ := s
    obtain rfl : _ = sites := hps
    rw [splice?_of_fits hfits] at hout
    exact ⟨first, ps, rfl, hfits, rfl, (Option.some.inj hout).symm⟩
  · rintro ⟨first, ps, hps, hfits, rfl, rfl⟩
    obtain ⟨sites⟩ := s
    obtain rfl : _ = sites := hps
    exact splice?_of_fits hfits

end EditSet

/-! ## 3. Sets that insert only -/

/-- Nothing is replaced at the site. -/
theorem EditSite.OnlyInserts.stop_eq {s : EditSite} (h : s.OnlyInserts) : s.stop = s.offset := by
  have hstops : ∀ n ∈ s.edits.map Edit.stop, n = s.offset := by
    intro n hn
    obtain ⟨e, he, rfl⟩ := List.mem_map.1 hn
    exact (h.inserts e he).2
  rw [stop]
  cases hmax : (s.edits.map Edit.stop).max? with
  | none => rfl
  | some n => exact hstops n (List.max?_mem hmax)

namespace EditSet

theorem OnlyInserts.pairwise {s : EditSet} (h : s.OnlyInserts) :
    s.sites.Pairwise (·.stop ≤ ·.offset) := by
  refine h.ascending.imp_of_mem fun {a b} ha _ hab => ?_
  rw [(h.inserts a ha).stop_eq]
  exact Nat.le_of_lt hab

/-- Nothing of the source goes. -/
theorem OnlyInserts.gone_eq_nil {s : EditSet} (h : s.OnlyInserts) {ps : List Patch} {n : Nat}
    (hps : ps.map Patch.site = s.sites) (hfits : Patch.Fits n ps) : ∀ p ∈ ps, p.gone = [] := by
  have hsites : ∀ p ∈ ps, p.site.OnlyInserts := fun p hp =>
    h.inserts p.site (hps ▸ List.mem_map_of_mem hp)
  clear hps
  induction ps generalizing n with
  | nil => simp
  | cons p ps ih =>
    obtain ⟨hoffset, hstop, hfits⟩ := hfits
    intro q hq
    rcases List.mem_cons.1 hq with rfl | hq
    · have := (hsites q List.mem_cons_self).stop_eq
      exact Text.eq_nil_of_byteLength (by omega)
    · exact ih hfits (fun p hp => hsites p (List.mem_cons_of_mem _ hp)) q hq

/-- **Insertions at offsets of a source** can be applied. -/
theorem OnlyInserts.exists_patches {s : EditSet} (h : s.OnlyInserts) {source : Text}
    (hoffset : ∀ e ∈ s.edits, source.IsOffset e.start) :
    ∃ first ps, ps.map Patch.site = s.sites ∧ Patch.Fits (Text.byteLength first) ps ∧
      source = first ++ Patch.plain ps ∧ s.splice? source = some (first ++ Patch.edited ps) := by
  have hrange : ∀ site ∈ s.sites, site.offset ≤ site.stop ∧ source.IsOffset site.offset ∧
      source.IsOffset site.stop := by
    intro site hsite
    have hinserts := h.inserts site hsite
    obtain ⟨e, he⟩ := List.exists_mem_of_ne_nil _ hinserts.nonempty
    have hat := hoffset e (mem_edits.2 ⟨site, hsite, he⟩)
    rw [(hinserts.inserts e he).1] at hat
    rw [hinserts.stop_eq]
    exact ⟨Nat.le_refl _, hat, hat⟩
  obtain ⟨first, ps, hps, hfits, hsource⟩ := EditSet.exists_patches h.pairwise hrange
  exact ⟨first, ps, hps, hfits, hsource,
    (splice?_eq_some_iff h.pairwise).2 ⟨first, ps, hps, hfits, hsource, rfl⟩⟩

end EditSet

end Stepwise
