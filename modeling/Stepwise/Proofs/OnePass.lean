import Stepwise.Proofs.Splice

/-!
# Splicing in place and in one pass

The edits of a set are applied in place, from the highest offset to the lowest.  The pass that is
defined here goes the other way and changes nothing in place: it copies the source up to the next
offset that has edits, puts in what the edits there say, with a blank between them, and goes on
behind the range that they replace.  It looks at the edits as they are sorted, by offset, at one
offset by falling priority, and among equals as they came, and knows nothing of sites.

Main definitions and statements:

* `Edit.onePass?`: the pass;
* `EditSet.edits_of_addAll`: what a row of accepted edits makes of a set;
* `EditSet.eq_of_edits_eq`: an orderly set is told by its edits;
* `EditSet.splice?_eq_onePass?`: both ways yield the same text, and for insertions it only matters in
  which order those of one offset and one priority came.
-/

namespace Stepwise

/-! ## 1. The pass -/

namespace Text

/-- The text between two offsets, if it is known what stands around it. -/
theorem slice?_append (front mid rest : Text) :
    slice? (byteLength front) (byteLength (front ++ mid)) (front ++ mid ++ rest) = some mid := by
  have hle : byteLength front ≤ byteLength (front ++ mid) := by
    rw [byteLength_append]
    exact Nat.le_add_right _ _
  have hlen : byteLength (front ++ mid) - byteLength front = byteLength mid := by
    rw [byteLength_append]
    exact Nat.add_sub_cancel_left _ _
  rw [slice?, if_pos hle, hlen, List.append_assoc, cutAt?_append]
  simp only [Option.bind_some, cutAt?_append, Option.map_some]

theorem isOffset_iff {t : Text} {n : Nat} : t.IsOffset n ↔ (cutAt? n t).isSome := by
  simp only [IsOffset, Option.isSome_iff_exists, Prod.exists, cutAt?_eq_some_iff]

instance (t : Text) (n : Nat) : Decidable (t.IsOffset n) := decidable_of_iff _ isOffset_iff.symm

end Text

namespace Edit

/-- The range of an edit lies in a source and cuts none of its characters. -/
structure InRange (source : Text) (e : Edit) : Prop where
  /-- It is not reversed. -/
  start_le_stop : e.start ≤ e.stop
  /-- It starts at an offset. -/
  isOffset_start : source.IsOffset e.start
  /-- It ends at one. -/
  isOffset_stop : source.IsOffset e.stop

instance (source : Text) (e : Edit) : Decidable (e.InRange source) :=
  decidable_of_iff (e.start ≤ e.stop ∧ source.IsOffset e.start ∧ source.IsOffset e.stop)
    ⟨fun ⟨hle, hstart, hstop⟩ => ⟨hle, hstart, hstop⟩,
      fun h => ⟨h.start_le_stop, h.isOffset_start, h.isOffset_stop⟩⟩

/-- The edits at one offset in front of others. -/
theorem span_start {es es' : List Edit} {offset : Nat} (h : ∀ e ∈ es, e.start = offset)
    (h' : ∀ e ∈ es', e.start ≠ offset) :
    (es ++ es').takeWhile (·.start = offset) = es ∧
      (es ++ es').dropWhile (·.start = offset) = es' := by
  have hall : ∀ e ∈ es, decide (e.start = offset) = true := fun e he => decide_eq_true (h e he)
  rw [List.takeWhile_append_of_pos hall, List.dropWhile_append_of_pos hall]
  cases es' with
  | nil => simp
  | cons e es' =>
    have hne := h' e List.mem_cons_self
    constructor <;> simp [hne]

/-- The source from an offset on with sorted edits applied, in one pass from the left.  Edits that
share an offset stand in a row; they replace what the first of them does. -/
def onePass? (source : Text) (offset : Nat) : List Edit → Option Text
  | [] => Text.slice? offset (Text.byteLength source) source
  | e :: es =>
    (Text.slice? offset e.start source).bind fun kept =>
      (onePass? source e.stop (es.dropWhile (·.start = e.start))).map fun rest =>
        kept ++ Text.join " " ((e :: es.takeWhile (·.start = e.start)).map (·.content.text)) ++ rest
termination_by es => es.length
decreasing_by
  have := (List.dropWhile_suffix (fun f : Edit => decide (f.start = e.start)) (l := es)).length_le
  simp only [List.length_cons]
  omega

end Edit

/-- At a site all ranges end where the range of the site does: a range is replaced only by an edit
that is alone. -/
theorem EditSite.Orderly.stop_eq {site : EditSite} (h : site.Orderly) {e : Edit}
    (he : e ∈ site.edits) : e.stop = site.stop := by
  refine Nat.le_antisymm ((EditSite.stop_le_iff h.nonempty).1 (Nat.le_refl _) e he) ?_
  refine (EditSite.stop_le_iff h.nonempty).2 fun f hf => ?_
  by_cases hlen : 1 < site.edits.length
  · rw [h.insertions hlen e he, h.insertions hlen f hf, h.start_eq e he, h.start_eq f hf]
  · obtain ⟨g, hg⟩ : ∃ g, site.edits = [g] := by
      rw [← List.length_eq_one_iff]
      have := List.length_pos_iff.2 h.nonempty
      omega
    rw [hg, List.mem_singleton] at he hf
    rw [he, hf]

/-- The pass over the edits of a site and of the sites behind it. -/
theorem EditSite.Orderly.onePass?_append {site : EditSite} (h : site.Orderly) {es : List Edit}
    (hes : ∀ e ∈ es, e.start ≠ site.offset) (source : Text) (offset : Nat) :
    Edit.onePass? source offset (site.edits ++ es) =
      (Text.slice? offset site.offset source).bind fun kept =>
        (Edit.onePass? source site.stop es).map fun rest => kept ++ site.text ++ rest := by
  have hstart := h.start_eq
  have hstop := @EditSite.Orderly.stop_eq site h
  have htext : site.text = Text.join " " (site.edits.map (·.content.text)) := rfl
  cases hedits : site.edits with
  | nil => exact absurd hedits h.nonempty
  | cons e more =>
    rw [hedits] at hstart hstop htext
    have he := hstart e List.mem_cons_self
    obtain ⟨htake, hdrop⟩ := @Edit.span_start more es e.start
      (fun f hf => (hstart f (List.mem_cons_of_mem _ hf)).trans he.symm)
      (fun f hf => he ▸ hes f hf)
    rw [List.cons_append, Edit.onePass?, htake, hdrop, he, hstop List.mem_cons_self, htext]

namespace EditSet

/-! ## 2. What a set is told by -/

theorem Orderly.start_ne {site : EditSite} {sites : List EditSite}
    (h : Orderly ⟨site :: sites⟩) : ∀ e ∈ sites.flatMap EditSite.edits, e.start ≠ site.offset := by
  intro e he
  obtain ⟨t, ht, -, hstart⟩ := exists_site (fun t ht => h.sites t (List.mem_cons_of_mem _ ht)) he
  have := List.rel_of_pairwise_cons h.ascending ht
  omega

theorem Orderly.tail {site : EditSite} {sites : List EditSite} (h : Orderly ⟨site :: sites⟩) :
    Orderly ⟨sites⟩ :=
  ⟨fun t ht => h.sites t (List.mem_cons_of_mem _ ht), h.ascending.of_cons, h.apart.of_cons⟩

theorem Orderly.exists_edits_eq {site : EditSite} {sites : List EditSite}
    (h : Orderly ⟨site :: sites⟩) :
    ∃ e es, site.edits = e :: es ∧ e.start = site.offset := by
  have hsite := h.sites site List.mem_cons_self
  obtain ⟨e, es, hedits⟩ := List.exists_cons_of_ne_nil hsite.nonempty
  exact ⟨e, es, hedits, hsite.start_eq e (hedits ▸ List.mem_cons_self)⟩

/-- **An orderly set is told by its edits.**  The induction is on its sites: the first one holds the
edits that start where the first edit does. -/
theorem eq_of_edits_eq {s t : EditSet} (hs : s.Orderly) (ht : t.Orderly) (h : s.edits = t.edits) :
    s = t := by
  obtain ⟨sites⟩ := s
  obtain ⟨sites'⟩ := t
  induction sites generalizing sites' with
  | nil =>
    cases sites' with
    | nil => rfl
    | cons site' sites' =>
      obtain ⟨e, es, hedits, -⟩ := ht.exists_edits_eq
      simp [edits, hedits] at h
  | cons site sites ih =>
    obtain ⟨e, es, hedits, hstart⟩ := hs.exists_edits_eq
    cases sites' with
    | nil => simp [edits, hedits] at h
    | cons site' sites' =>
      obtain ⟨e', es', hedits', hstart'⟩ := ht.exists_edits_eq
      rw [edits, edits, List.flatMap_cons, List.flatMap_cons] at h
      have hoffset : site.offset = site'.offset := by
        rw [hedits, hedits'] at h
        rw [← hstart, ← hstart', (List.cons.inj h).1]
      have hsite := (hs.sites site List.mem_cons_self).start_eq
      have hsite' := (ht.sites site' List.mem_cons_self).start_eq
      obtain ⟨htake, hdrop⟩ := Edit.span_start hsite hs.start_ne
      obtain ⟨htake', hdrop'⟩ := Edit.span_start hsite' ht.start_ne
      rw [h, hoffset] at htake hdrop
      obtain rfl : sites = sites' :=
        congrArg EditSet.sites (ih hs.tail sites' ht.tail (hdrop.symm.trans hdrop'))
      have heq : site = site' := by
        cases site
        cases site'
        simp only [EditSite.mk.injEq]
        exact ⟨hoffset, htake.symm.trans htake'⟩
      rw [heq]

/-- Adding edits in turn, none of which is refused, keeps a set orderly and sorts them in. -/
theorem Orderly.of_addAll {s t : EditSet} (h : s.Orderly) {es es' : List Edit}
    (hs : s.edits = es.mergeSort Edit.before) (he : ∀ e ∈ es', e.start ≤ e.stop)
    (hall : s.addAll es' = .ok t) : t.Orderly ∧ t.edits = (es ++ es').mergeSort Edit.before := by
  induction es' generalizing s es with
  | nil =>
    obtain rfl : s = t := Except.ok.inj hall
    exact ⟨h, by simpa using hs⟩
  | cons e es' ih =>
    rw [addAll, List.foldlM_cons] at hall
    rcases h.add_cases (he e List.mem_cons_self) with ⟨-, hadd⟩ | ⟨-, u, hadd, hu, hadds⟩
    · rw [hadd] at hall
      cases hall
    · rw [hadd] at hall
      have hrest := ih hu (hadds.edits_eq hu hs) (fun f hf => he f (List.mem_cons_of_mem _ hf)) hall
      simpa using hrest

/-- **What a row of accepted edits makes of a set**: it is orderly and holds them sorted. -/
theorem edits_of_addAll {es : List Edit} {s : EditSet} (he : ∀ e ∈ es, e.start ≤ e.stop)
    (hall : addAll {} es = .ok s) : s.Orderly ∧ s.edits = es.mergeSort Edit.before := by
  have hnil : edits {} = [].mergeSort Edit.before := by simp [edits]
  simpa using Orderly.empty.of_addAll hnil he hall

/-! ## 3. Both ways -/

/-- The pass over the sites that fit a source, from any offset in front of the first one. -/
theorem Orderly.onePass?_of_fits {ps : List Patch} (h : Orderly ⟨ps.map Patch.site⟩)
    {front first : Text} (hfits : Patch.Fits (Text.byteLength (front ++ first)) ps) :
    Edit.onePass? (front ++ first ++ Patch.plain ps) (Text.byteLength front)
      (edits ⟨ps.map Patch.site⟩) = some (first ++ Patch.edited ps) := by
  induction ps generalizing front first with
  | nil =>
    have hall := Text.slice?_append front first []
    rw [List.append_nil] at hall
    rw [Patch.plain_nil, Patch.edited_nil, List.append_nil, List.append_nil]
    simpa [edits, Edit.onePass?] using hall
  | cons p ps ih =>
    obtain ⟨hoffset, hstop, hps⟩ := hfits
    -- behind the site the pass goes on in front of what is kept there
    have hrest := @ih h.tail (front ++ first ++ p.gone) p.kept
      (by simpa [Nat.add_assoc] using hps)
    have hsource : front ++ first ++ Patch.plain (p :: ps) =
        front ++ first ++ p.gone ++ p.kept ++ Patch.plain ps := by simp
    have hlen : p.site.stop = Text.byteLength (front ++ first ++ p.gone) := by
      rw [hstop, ← Text.byteLength_append]
    have hkept : Text.slice? (Text.byteLength front) p.site.offset
        (front ++ first ++ p.gone ++ p.kept ++ Patch.plain ps) = some first := by
      rw [hoffset]
      simpa using Text.slice?_append front first (p.gone ++ (p.kept ++ Patch.plain ps))
    rw [edits] at hrest
    rw [edits, List.map_cons, List.flatMap_cons,
      (h.sites p.site List.mem_cons_self).onePass?_append h.start_ne, hsource, hkept, hlen,
      Option.bind_some, hrest, Option.map_some, Patch.edited_cons, List.append_assoc,
      List.append_assoc]

/-- **Applying an orderly set in place is one pass over the source.** -/
theorem Orderly.splice?_eq {s : EditSet} (h : s.Orderly) {source : Text}
    (hrange : ∀ e ∈ s.edits, e.InRange source) :
    ∃ out, s.splice? source = some out ∧ Edit.onePass? source 0 s.edits = some out := by
  have hsites : ∀ site ∈ s.sites, site.offset ≤ site.stop ∧ source.IsOffset site.offset ∧
      source.IsOffset site.stop := by
    intro site hsite
    obtain ⟨e, he⟩ := List.exists_mem_of_ne_nil _ (h.sites site hsite).nonempty
    obtain ⟨hle, hstart, hstop⟩ := hrange e (mem_edits.2 ⟨site, hsite, he⟩)
    rw [(h.sites site hsite).start_eq e he] at hle hstart
    rw [(h.sites site hsite).stop_eq he] at hle hstop
    exact ⟨hle, hstart, hstop⟩
  obtain ⟨first, ps, hps, hfits, hsource⟩ := exists_patches h.apart hsites
  obtain ⟨sites⟩ := s
  obtain rfl : _ = sites := hps
  subst hsource
  refine ⟨first ++ Patch.edited ps, splice?_of_fits hfits, ?_⟩
  have hpass := @Orderly.onePass?_of_fits ps h [] first (by simpa using hfits)
  simpa [Text.byteLength] using hpass

/-- The insertions of one offset and one priority are a class of the order of edits. -/
theorem filter_class_eq {es es' : List Edit}
    (h : ∀ offset priority, es.filter (fun e => e.start = offset ∧ e.priority = priority) =
      es'.filter fun e => e.start = offset ∧ e.priority = priority) (c : Edit) :
    es.filter (fun e => c.before e && e.before c) =
      es'.filter fun e => c.before e && e.before c := by
  have hclass : ∀ e : Edit, (c.before e && e.before c) =
      decide (e.start = c.start ∧ e.priority = c.priority) := by
    intro e
    rw [Bool.eq_iff_iff, Bool.and_eq_true, Edit.before_iff, Edit.before_iff, decide_eq_true_eq]
    omega
  simp only [hclass]
  exact h c.start c.priority

/-- **Splicing in place is one pass over the source.**  Whatever row of edits a set was made of, all
of them accepted: if their ranges lie in a source and cut no character of it, then replacing them
from the last offset to the first succeeds and yields what the pass from the left does.

So of two rows of insertions with the same edits, in which those of one offset and one priority come
in the same order, the sets are equal and with them the texts that they yield. -/
theorem splice?_eq_onePass? :
    (∀ (es : List Edit) (s : EditSet) (source : Text), addAll {} es = .ok s →
      (∀ e ∈ es, e.InRange source) →
      ∃ out, s.splice? source = some out ∧
        Edit.onePass? source 0 (es.mergeSort Edit.before) = some out) ∧
    ∀ es es' : List Edit, (∀ e ∈ es, e.stop = e.start) →
      (∀ offset priority, es.filter (fun e => e.start = offset ∧ e.priority = priority) =
        es'.filter fun e => e.start = offset ∧ e.priority = priority) →
      ∃ s, addAll {} es = .ok s ∧ addAll {} es' = .ok s := by
  constructor
  · intro es s source hall hrange
    obtain ⟨horderly, hedits⟩ := edits_of_addAll (fun e he => (hrange e he).start_le_stop) hall
    have hrange' : ∀ e ∈ s.edits, e.InRange source := by
      intro e he
      rw [hedits, List.mem_mergeSort] at he
      exact hrange e he
    rw [← hedits]
    exact horderly.splice?_eq hrange'
  · intro es es' hins hsame
    have hins' : ∀ e ∈ es', e.stop = e.start := by
      intro e he
      refine hins e ?_
      have hmem : e ∈ es'.filter fun f => f.start = e.start ∧ f.priority = e.priority :=
        List.mem_filter.2 ⟨he, by simp⟩
      rw [← hsame] at hmem
      exact (List.mem_filter.1 hmem).1
    obtain ⟨s, hall, -, hedits⟩ := addAll_eq_mergeSort hins
    obtain ⟨t, hall', -, hedits'⟩ := addAll_eq_mergeSort hins'
    have hs := (edits_of_addAll (fun e he => Nat.le_of_eq (hins e he).symm) hall).1
    have ht := (edits_of_addAll (fun e he => Nat.le_of_eq (hins' e he).symm) hall').1
    have hsorted : es.mergeSort Edit.before = es'.mergeSort Edit.before := by
      refine eq_mergeSort Edit.before_trans Edit.before_total
        (List.pairwise_mergeSort Edit.before_trans Edit.before_total es) fun c => ?_
      rw [class_mergeSort Edit.before_trans Edit.before_total]
      exact filter_class_eq hsame c
    obtain rfl : s = t := eq_of_edits_eq hs ht (by rw [hedits, hedits', hsorted])
    exact ⟨s, hall, hall'⟩

/-- Two ranges are replaced, the first of them a character of two bytes; three insertions meet behind
a character of three bytes, two of them of one priority.  The insertions alone may come in another
order. -/
theorem splice?_eq_onePass?_mixed :
    let source : Text := "aé€bcd"
    let insertions : List Edit := [.insertion 6 63 (.plain "s"), .insertion 0 31 (.step 7),
      .insertion 6 127 (.tracker "x"), .insertion 6 63 (.plain "t")]
    let shuffled : List Edit := [.insertion 6 127 (.tracker "x"), .insertion 6 63 (.plain "s"),
      .insertion 6 63 (.plain "t"), .insertion 0 31 (.step 7)]
    let es : List Edit := ⟨7, 9, 10, .plain []⟩ :: (insertions ++ [⟨1, 3, 10, .plain "E"⟩])
    let out : Text := "DEBUG_STEP(7); aE€ Tracer _dbg_x(\"x\", x); s tb"
    (∃ s, addAll {} es = .ok s ∧ (∀ e ∈ es, e.InRange source) ∧ s.splice? source = some out ∧
      Edit.onePass? source 0 (es.mergeSort Edit.before) = some out) ∧
    (∀ e ∈ insertions, e.stop = e.start) ∧
    ∃ s, addAll {} insertions = .ok s ∧ addAll {} shuffled = .ok s := by
  intro source insertions shuffled es out
  have hrange : ∀ e ∈ es, e.InRange source := by decide +kernel
  have hins : ∀ e ∈ insertions, e.stop = e.start := by decide
  have hsame : ∀ offset priority,
      insertions.filter (fun e => e.start = offset ∧ e.priority = priority) =
        shuffled.filter fun e => e.start = offset ∧ e.priority = priority := by
    intro offset priority
    by_cases hat : offset = 6 ∧ priority = 63
    · obtain ⟨rfl, rfl⟩ := hat
      decide
    · simp only [insertions, shuffled, Edit.insertion, List.filter_cons, List.filter_nil,
        decide_eq_true_eq]
      grind
  obtain ⟨s, hall⟩ : ∃ s, addAll {} es = .ok s := ⟨_, rfl⟩
  have hout : ((addAll {} es).toOption.bind fun s => s.splice? source) = some out := by
    decide +kernel
  rw [hall] at hout
  obtain ⟨_, hsplice, hpass⟩ := splice?_eq_onePass?.1 es s source hall hrange
  obtain rfl := Option.some.inj (hsplice.symm.trans hout)
  exact ⟨⟨s, hall, hrange, hout, hpass⟩, hins,
    splice?_eq_onePass?.2 insertions shuffled hins hsame⟩

end EditSet

end Stepwise
