import Mathlib.Data.List.Forall2
import Munch.Proofs.Regex.Branches
import Munch.Proofs.Regex.Laws

/-!
# The walkers of sequences and choices

However an expression is put together of others, its walker is made of theirs: that of a sequence
reads by its parts one after the other (`walker_factors`, `walker_ofFactors`), that of a choice by
one of its branches (`guard_branches`, `walker_ofBranches`).

What has been taken out in front of a choice can be put back (`Distributes`) if it is rigid, which
is to say that it can be read in one way only (`distributes_walker`). Else it can make a difference:
a branch after which one cannot go on is left before the next way to read its beginning is tried,
not after it.
-/

namespace Munch.Regex

namespace Walker

/-! ## Lists of walkers -/

/-- One after the other. -/
def seqs : List Walker → Walker
  | [] => empty
  | A :: As => seq A (seqs As)

/-- The first that comes to something. -/
def oneOf : List Walker → Walker
  | [] => fail
  | A :: As => orElse A (oneOf As)

variable {A B : Walker} {again : Bool}

theorem seqs_append (As Bs : List Walker) :
    Alike again (seqs (As ++ Bs)) (seq (seqs As) (seqs Bs)) := by
  induction As with
  | nil => exact (empty_seq _).symm
  | cons A As ih => exact ((Alike.refl A).seq ih).trans (seq_assoc _ _ _).symm

theorem oneOf_append (As Bs : List Walker) :
    Alike again (oneOf (As ++ Bs)) (orElse (oneOf As) (oneOf Bs)) := by
  induction As with
  | nil => exact (fail_orElse _).symm
  | cons A As ih => exact ((Alike.refl A).orElse ih).trans (orElse_assoc _ _ _).symm

theorem Alike.oneOf {As Bs : List Walker} (h : List.Forall₂ (Alike again) As Bs) :
    Alike again (oneOf As) (Walker.oneOf Bs) := by
  induction h with
  | nil => exact .refl _
  | cons h _ ih => exact h.orElse ih

theorem guard_oneOf_congr {As Bs : List Walker}
    (h : List.Forall₂ (fun A B => Alike again (guard A) (guard B)) As Bs) :
    Alike again (guard (oneOf As)) (guard (oneOf Bs)) := by
  induction h with
  | nil => exact .refl _
  | cons h _ ih => exact guard_orElse_congr h ih

/-! ## What can be taken out in front of a choice -/

/-- Whether a walker in front of a choice can as well stand in front of what is chosen from. -/
def Distributes (again : Bool) (A : Walker) : Prop :=
  ∀ Bs, Alike again (seq A (guard (oneOf Bs))) (guard (oneOf (Bs.map (seq A))))

theorem distributes_empty : Distributes again empty := by
  intro Bs
  refine (empty_seq _).trans (Alike.oneOf ?_).guard
  rw [List.forall₂_map_right_iff]
  exact List.forall₂_same.2 fun B _ => (empty_seq B).symm

theorem chars_oneOf (set : CharSet) (Bs : List Walker) :
    Alike again (seq (chars set) (oneOf Bs)) (oneOf (Bs.map (seq (chars set)))) := by
  induction Bs with
  | nil => exact chars_fail set
  | cons B Bs ih => exact (chars_orElse set B _).trans ((Alike.refl _).orElse ih)

theorem test_oneOf (l : Look) (Bs : List Walker) :
    Alike again (seq (test l) (oneOf Bs)) (oneOf (Bs.map (seq (test l)))) := by
  induction Bs with
  | nil => exact test_fail l
  | cons B Bs ih => exact (test_orElse l B _).trans ((Alike.refl _).orElse ih)

theorem distributes_chars (set : CharSet) : Distributes again (chars set) := by
  intro Bs
  calc
    Alike again _ (seq (chars set) (oneOf Bs)) := chars_guard set _
    Alike again _ (guard (seq (chars set) (oneOf Bs))) := (guard_chars_seq set _).symm
    Alike again _ (guard (oneOf (Bs.map (seq (chars set))))) := (chars_oneOf set Bs).guard

theorem distributes_look (l : Look) : Distributes again (guard (test l)) := by
  intro Bs
  have hone : ∀ B, Alike again (guard (seq (test l) B)) (guard (seq (guard (test l)) B)) := fun B =>
    ((guard_seq (test l) B).guard.trans (guard_guard _)).symm
  calc
    Alike again _ (guard (seq (test l) (guard (oneOf Bs)))) := guard_seq (test l) _
    Alike again _ (guard (seq (test l) (oneOf Bs))) := guard_test_guard l _
    Alike again _ (guard (oneOf (Bs.map (seq (test l))))) := (test_oneOf l Bs).guard
    Alike again _ (guard (oneOf (Bs.map (seq (guard (test l)))))) := by
      refine guard_oneOf_congr ?_
      rw [List.forall₂_map_left_iff, List.forall₂_map_right_iff]
      exact List.forall₂_same.2 fun B _ => hone B

theorem Distributes.seq (hA : Distributes again A) (hB : Distributes again B) :
    Distributes again (seq A B) := by
  intro Bs
  calc
    Alike again _ (Walker.seq A (Walker.seq B (guard (oneOf Bs)))) := seq_assoc A B _
    Alike again _ (Walker.seq A (guard (oneOf (Bs.map (Walker.seq B))))) :=
      (Alike.refl A).seq (hB Bs)
    Alike again _ (guard (oneOf ((Bs.map (Walker.seq B)).map (Walker.seq A)))) := hA _
    Alike again _ (guard (oneOf (Bs.map (Walker.seq (Walker.seq A B))))) := by
      rw [List.map_map]
      refine (Alike.oneOf ?_).guard
      rw [List.forall₂_map_left_iff, List.forall₂_map_right_iff]
      exact List.forall₂_same.2 fun C _ => (seq_assoc A B C).symm

theorem Distributes.seqs {As : List Walker} (h : ∀ A ∈ As, Distributes again A) :
    Distributes again (seqs As) := by
  induction As with
  | nil => exact distributes_empty
  | cons A As ih =>
    rw [List.forall_mem_cons] at h
    exact h.1.seq (ih h.2)

theorem Distributes.copies (h : Distributes again A) (n : Nat) :
    Distributes again (copies A n) := by
  induction n with
  | zero => exact distributes_empty
  | succ n ih => exact ih.seq h

end Walker

namespace Expr

open Walker

variable {again : Bool}

/-- Whether an expression can be read in one way at most: it neither chooses nor repeats a number of
times that is left open. -/
def isRigid : Expr → Bool
  | iterate min max _ body => max = some min && body.isRigid
  | capture _ _ body => body.isRigid
  | seq a b => a.isRigid && b.isRigid
  | alt _ _ => false
  | _ => true

theorem distributes_walker {e : Expr} (h : e.isRigid) : Distributes again e.walker := by
  induction e with
  | empty => exact distributes_empty
  | chars set _ => exact distributes_chars set
  | look l => exact distributes_look l
  | iterate min max greedy body ih =>
    rw [isRigid, Bool.and_eq_true, decide_eq_true_eq] at h
    obtain ⟨rfl, h⟩ := h
    have hrest : Distributes again (Walker.upTo greedy body.walker (min - min)) := by
      rw [Nat.sub_self]
      exact distributes_empty
    cases min <;> exact ((ih h).copies _).seq hrest
  | capture index name body ih => exact ih h
  | seq a b iha ihb =>
    rw [isRigid, Bool.and_eq_true] at h
    exact (iha h.1).seq (ihb h.2)
  | alt => cases h

/-! ## Sequences -/

theorem walker_append (es fs : List Expr) : Alike again (seqs ((es ++ fs).map walker))
    (.seq (seqs (es.map walker)) (seqs (fs.map walker))) := by
  rw [List.map_append]
  exact seqs_append _ _

theorem walker_factors (e : Expr) : Alike again (seqs (e.factors.map walker)) e.walker := by
  induction e with
  | empty => exact .refl _
  | seq a b iha ihb =>
    exact (walker_append _ _).trans (iha.seq ihb)
  | chars | look | iterate | capture | alt => exact seq_empty _

theorem walker_ofFactors (es : List Expr) :
    Alike again (ofFactors es).walker (seqs (es.map walker)) := by
  induction es with
  | nil => exact .refl _
  | cons e es ih =>
    cases es with
    | nil => exact (seq_empty _).symm
    | cons d ds => exact (Alike.refl _).seq ih

/-! ## Choices -/

theorem guard_branches (e : Expr) :
    Alike again (guard (oneOf (e.branches.map walker))) (guard e.walker) := by
  induction e with
  | alt a b iha ihb =>
    rw [branches, List.map_append]
    calc
      Alike again _ (guard (orElse (oneOf (a.branches.map walker))
          (oneOf (b.branches.map walker)))) := (oneOf_append _ _).guard
      Alike again _ (guard (orElse a.walker b.walker)) := guard_orElse_congr iha ihb
      Alike again _ (guard (alt a b).walker) := (guard_guard _).symm
  | empty | chars | look | iterate | capture | seq => exact (orElse_fail _).guard

/-- The branches of branches can be chosen from at once. -/
theorem guard_flatMap_branches (es : List Expr) :
    Alike again (guard (oneOf ((es.flatMap branches).map walker)))
      (guard (oneOf (es.map walker))) := by
  induction es with
  | nil => exact .refl _
  | cons e es ih =>
    rw [List.flatMap_cons, List.map_append]
    exact (oneOf_append _ _).guard.trans (guard_orElse_congr (guard_branches e) ih)

theorem guard_ofAlternatives (es : List Expr) :
    Alike again (guard (ofBranches.ofAlternatives es).walker) (guard (oneOf (es.map walker))) := by
  induction es with
  | nil => exact chars_empty.guard
  | cons e es ih =>
    cases es with
    | nil => exact (orElse_fail _).symm.guard
    | cons d ds => exact (guard_guard _).trans (guard_orElse_congr (.refl _) ih)

theorem walker_ofAlternatives {es : List Expr} (h : 2 ≤ es.length) :
    Alike again (ofBranches.ofAlternatives es).walker (guard (oneOf (es.map walker))) := by
  match es with
  | d :: e :: es => exact (guard_guard _).symm.trans (guard_ofAlternatives (d :: e :: es))

theorem walker_chars_unions (sets : List CharSet) :
    Alike again (Walker.chars (CharSet.unions sets)) (oneOf (sets.map Walker.chars)) := by
  induction sets with
  | nil => exact chars_empty
  | cons set sets ih => exact (chars_union _ _).symm.trans ((Alike.refl _).orElse ih)

theorem walker_ofBranches {es : List Expr} (h : 2 ≤ es.length) :
    Alike again (ofBranches es).walker (guard (oneOf (es.map walker))) := by
  unfold ofBranches
  split
  next set hset =>
    obtain ⟨ss, rfl, rfl⟩ := eq_map_chars_of_union? hset
    have hmap : (ss.map (·.1)).map Walker.chars =
        (ss.map fun s => chars s.1 s.2).map walker := by
      rw [List.map_map, List.map_map]
      rfl
    rw [← hmap]
    exact (guard_chars _).symm.trans (walker_chars_unions _).guard
  · exact walker_ofAlternatives h

/-- What is left to choose from, when something has been taken out in front. -/
theorem walker_ofBranches_rests {es : List Expr} (h : 2 ≤ es.length) :
    Alike again (ofBranches ((rests es).flatMap branches)).walker
      (guard (oneOf ((rests es).map walker))) :=
  (walker_ofBranches (two_le_length_rests h)).trans (guard_flatMap_branches _)

end Expr

end Munch.Regex
