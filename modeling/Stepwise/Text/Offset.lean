import Stepwise.Text.Basic

/-!
# Byte offsets

Positions in a source are byte offsets into its UTF-8 form.  An offset that falls inside a
character, or behind the end, is no position: cutting there fails.

Main statements: `cutAt?_eq_some_iff`, a cut yields exactly the two texts of which the first has
as many bytes as the offset says, and `slice?`, the text between two offsets.
-/

namespace Stepwise.Text

/-- The number of bytes of the text in UTF-8. -/
def byteLength : Text → Nat
  | [] => 0
  | c :: t => c.utf8Size + byteLength t

/-- The text before and behind a byte offset. -/
def cutAt? : Nat → Text → Option (Text × Text)
  | 0, t => some ([], t)
  | _ + 1, [] => none
  | n + 1, c :: t =>
    if c.utf8Size ≤ n + 1 then
      (cutAt? (n + 1 - c.utf8Size) t).map fun (head, rest) => (c :: head, rest)
    else none

/-- The text between two byte offsets. -/
def slice? (start stop : Nat) (t : Text) : Option Text :=
  if start ≤ stop then
    (cutAt? start t).bind fun (_, rest) => (cutAt? (stop - start) rest).map Prod.fst
  else none

@[simp]
theorem byteLength_append (t u : Text) : byteLength (t ++ u) = byteLength t + byteLength u := by
  induction t with
  | nil => simp [byteLength]
  | cons c t ih => simp [byteLength, ih, Nat.add_assoc]

/-- Cutting at the length of a first part finds that part. -/
theorem cutAt?_append (t u : Text) : cutAt? (byteLength t) (t ++ u) = some (t, u) := by
  induction t with
  | nil => simp [byteLength, cutAt?]
  | cons c t ih =>
    have hc := c.utf8Size_pos
    obtain ⟨n, hn⟩ : ∃ n, c.utf8Size + byteLength t = n + 1 :=
      ⟨c.utf8Size + byteLength t - 1, by omega⟩
    have hrest : n + 1 - c.utf8Size = byteLength t := by omega
    simp only [byteLength, hn, List.cons_append, cutAt?, hrest, ih]
    simp only [if_pos (show c.utf8Size ≤ n + 1 by omega), Option.map_some]

/-- A cut loses nothing, and its first part ends at the offset. -/
theorem cutAt?_eq_some_iff {n : Nat} {t head rest : Text} :
    cutAt? n t = some (head, rest) ↔ t = head ++ rest ∧ byteLength head = n := by
  refine ⟨fun h => ?_, fun ⟨ht, hn⟩ => ht ▸ hn ▸ cutAt?_append head rest⟩
  induction t generalizing n head with
  | nil =>
    cases n with
    | zero =>
      simp only [cutAt?, Option.some.injEq, Prod.mk.injEq] at h
      obtain ⟨rfl, rfl⟩ := h
      exact ⟨rfl, rfl⟩
    | succ n => simp [cutAt?] at h
  | cons c t ih =>
    cases n with
    | zero =>
      simp only [cutAt?, Option.some.injEq, Prod.mk.injEq] at h
      obtain ⟨rfl, rfl⟩ := h
      exact ⟨rfl, rfl⟩
    | succ n =>
      simp only [cutAt?] at h
      split at h
      · next hc =>
        obtain ⟨⟨a, b⟩, hab, heq⟩ := Option.map_eq_some_iff.1 h
        simp only [Prod.mk.injEq] at heq
        obtain ⟨rfl, rfl⟩ := heq
        obtain ⟨rfl, hlen⟩ := ih hab
        exact ⟨rfl, by simp only [byteLength]; omega⟩
      · cases h

end Stepwise.Text
