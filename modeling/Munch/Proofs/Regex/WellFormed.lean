import Munch.Proofs.Regex.Parses

/-!
# What every tree is like

In the tree of a pattern the counts of a repetition are in order, and an alternation has several
branches. Trees in general need not be so, and what their expressions are is of no interest.

* `repetition_ordered`: a repetition operator takes at least as many at most as at least.
* `Parses.isWellFormed`, `isWellFormed_of_parse`: sequences, and whole patterns.
-/

namespace Munch.Regex

mutual

/-- Whether counts are in order and alternations have several branches. -/
def Tree.isWellFormed : Tree → Bool
  | .repetition _ min max _ body => max.all (min ≤ ·) && body.isWellFormed
  | .group _ _ body => body.isWellFormed
  | .concat _ items => Tree.areWellFormed items
  | .alternation _ branches => 2 ≤ branches.length && Tree.areWellFormed branches
  | _ => true

/-- The same for several trees. -/
def Tree.areWellFormed : List Tree → Bool
  | [] => true
  | tree :: trees => tree.isWellFormed && Tree.areWellFormed trees

end

theorem Tree.areWellFormed_iff {trees : List Tree} :
    Tree.areWellFormed trees ↔ ∀ tree ∈ trees, tree.isWellFormed := by
  induction trees with
  | nil => simp [Tree.areWellFormed]
  | cons tree trees ih => simp [Tree.areWellFormed, ih]

/-- Whether all that was read so far is well-formed. -/
def Partial.IsWellFormed (p : Partial) : Prop :=
  (∀ tree ∈ p.items, tree.isWellFormed) ∧ ∀ tree ∈ p.branches, tree.isWellFormed

section Partial

variable {p : Partial}

theorem Partial.IsWellFormed.branch (h : p.IsWellFormed) (rest : List Char) :
    (p.branch rest).isWellFormed := by
  unfold Partial.branch
  dsimp only
  split
  next => rfl
  next item hitems => exact h.1 item (by simp [hitems])
  next => exact Tree.areWellFormed_iff.2 fun tree htree => h.1 tree (List.mem_reverse.1 htree)

theorem Partial.IsWellFormed.finish (h : p.IsWellFormed) (rest : List Char) :
    (p.finish rest).isWellFormed := by
  unfold Partial.finish
  split
  · exact h.branch rest
  next branches hne =>
    rw [Tree.isWellFormed, Bool.and_eq_true, decide_eq_true_eq, List.length_reverse,
      Tree.areWellFormed_iff]
    have := List.length_pos_iff.2 hne
    refine ⟨by rw [List.length_cons]; omega, fun tree htree => ?_⟩
    rcases List.mem_cons.1 (List.mem_reverse.1 htree) with rfl | htree
    · exact h.branch rest
    · exact h.2 tree htree

theorem Partial.IsWellFormed.push (h : p.IsWellFormed) {item : Tree} (hitem : item.isWellFormed) :
    (p.push item).IsWellFormed :=
  ⟨List.forall_mem_cons.2 ⟨hitem, h.1⟩, h.2⟩

theorem Partial.IsWellFormed.nextBranch (h : p.IsWellFormed) (rest : List Char) :
    (p.nextBranch rest).IsWellFormed :=
  ⟨nofun, List.forall_mem_cons.2 ⟨h.branch rest, h.2⟩⟩

theorem Partial.IsWellFormed.popOperand (h : p.IsWellFormed) {rest : List Char} {body : Tree}
    {p' : Partial} (hpop : p.popOperand rest = .ok (body, p')) :
    body.isWellFormed ∧ p'.IsWellFormed := by
  unfold Partial.popOperand at hpop
  split at hpop
  · cases hpop
  · cases hpop
  next item items _ hitems =>
    cases hpop
    have hall := h.1
    rw [hitems, List.forall_mem_cons] at hall
    exact ⟨hall.1, hall.2, h.2⟩

end Partial

theorem isWellFormed_of_bracketClass {verbose : Bool} {cs rest : List Char} {item : Tree}
    (h : bracketClass verbose cs = .ok (item, rest)) : item.isWellFormed := by
  obtain ⟨opening, -, h⟩ := Except.bind_eq_ok_iff.1 h
  obtain ⟨⟨set, rest⟩, -, h⟩ := Except.bind_eq_ok_iff.1 h
  dsimp only at h
  split at h <;> cases h <;> rfl

/-- A repetition operator whose counts are not in order is a fault. -/
theorem repetition_ordered {verbose : Bool} {cs rest : List Char} {count : Count}
    (h : repetition verbose cs = .ok (count, rest)) : count.max.all (count.min ≤ ·) := by
  unfold repetition at h
  dsimp only at h
  split at h
  · cases h
    rfl
  · cases h
    rfl
  · cases h
    rfl
  · obtain ⟨⟨⟨min, max⟩, rest'⟩, -, h⟩ := Except.bind_eq_ok_iff.1 h
    dsimp only at h
    split at h
    · cases h
    next hordered =>
      cases h
      cases max with
      | none => rfl
      | some max => simpa using hordered

theorem Parses.isWellFormed {opened : Option Extent} {p : Partial} {r after : Reader} {tree : Tree}
    (h : Parses opened p r tree after) (hp : p.IsWellFormed) : tree.isWellFormed := by
  have hbegin : ∀ rest, (Partial.begin rest).IsWellFormed := fun _ => ⟨nofun, nofun⟩
  induction h with
  | done => exact hp.finish []
  | close => exact hp.finish _
  | branch _ _ ih => exact ih (hp.nextBranch _)
  | directive _ _ _ ih => exact ih (hp.push rfl)
  | capture _ _ _ _ ihbody ih => exact ih (hp.push (ihbody (hbegin _)))
  | plain _ _ _ _ ihbody ih => exact ih (hp.push (ihbody (hbegin _)))
  | bracket _ hitem _ ih => exact ih (hp.push (isWellFormed_of_bracketClass hitem))
  | repetition _ _ hpop hcount _ ih =>
    obtain ⟨hbody, hp⟩ := hp.popOperand hpop
    refine ih (hp.push ?_)
    rw [Tree.isWellFormed, Bool.and_eq_true]
    exact ⟨repetition_ordered hcount, hbody⟩
  | atom _ _ _ _ ih => exact ih (hp.push rfl)

end Munch.Regex
