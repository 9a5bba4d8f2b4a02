import Mathlib.Tactic.Common
import Munch.Proofs.Except
import Munch.Regex.Expr.OfTree
import Munch.Regex.Tree.Parse

/-!
# Normal forms

The expression of a tree is in normal form: taken apart into the parts of a sequence and put
together again it is itself. So a branch of a pattern means the sequence of its items, however many
there are.

* `Expr.IsNormal`: what is put together of its own parts.
* `Expr.sharedParts_isPrefix`: each of several sequences begins with the parts that they share.
* `Tree.isNormal_toExpr`: expressions of trees are normal.
* `Partial.toExpr_branch`: a branch means the sequence of its items.
-/

namespace Munch.Regex

namespace Expr

/-- An expression that is one part of a sequence. -/
def IsFactor (e : Expr) : Prop := e.factors = [e]

/-- An expression that is put together of its parts. -/
def IsNormal (e : Expr) : Prop := ofFactors e.factors = e

theorem isFactor_of_mem_factors {e part : Expr} (h : part ∈ e.factors) : part.IsFactor := by
  induction e with
  | empty => cases h
  | seq a b iha ihb =>
    rw [factors, List.mem_append] at h
    exact h.elim iha ihb
  | chars | look | iterate | capture | alt =>
    obtain rfl := List.mem_singleton.1 h
    rfl

theorem factors_ofFactors {es : List Expr} (h : ∀ e ∈ es, e.IsFactor) :
    (ofFactors es).factors = es := by
  induction es with
  | nil => rfl
  | cons e es ih =>
    have hes := ih fun d hd => h d (List.mem_cons_of_mem e hd)
    cases es with
    | nil => exact h e List.mem_cons_self
    | cons d ds =>
      change e.factors ++ (ofFactors (d :: ds)).factors = _
      rw [h e List.mem_cons_self, hes, List.singleton_append]

theorem isNormal_ofFactors {es : List Expr} (h : ∀ e ∈ es, e.IsFactor) :
    (ofFactors es).IsNormal := by
  rw [IsNormal, factors_ofFactors h]

theorem isFactor_of_mem_flatMap {es : List Expr} {part : Expr} (h : part ∈ es.flatMap factors) :
    part.IsFactor := by
  obtain ⟨e, -, hpart⟩ := List.mem_flatMap.1 h
  exact isFactor_of_mem_factors hpart

theorem isNormal_sequence (es : List Expr) : (sequence es).IsNormal :=
  isNormal_ofFactors fun _ => isFactor_of_mem_flatMap

theorem factors_sequence (es : List Expr) : (sequence es).factors = es.flatMap factors :=
  factors_ofFactors fun _ => isFactor_of_mem_flatMap

theorem IsNormal.sequence_singleton {e : Expr} (h : e.IsNormal) : sequence [e] = e := by
  rw [sequence, List.flatMap_singleton]
  exact h

/-! ## Choices -/

theorem flatten_parts (es : List Expr) : (parts es).flatten = es := by
  induction es with
  | nil => rfl
  | cons e es ih =>
    rw [parts]
    split
    next h =>
      rw [h] at ih
      rw [← ih]
      rfl
    next p ps h =>
      rw [h] at ih
      split <;> rw [← ih] <;> rfl

theorem commonPrefix_prefix {α : Type} [DecidableEq α] (as bs : List α) :
    commonPrefix as bs <+: as ∧ commonPrefix as bs <+: bs := by
  induction as generalizing bs with
  | nil => simp [commonPrefix]
  | cons a as ih =>
    cases bs with
    | nil => simp [commonPrefix]
    | cons b bs =>
      rw [commonPrefix]
      split
      next h =>
        rw [← h, List.cons_prefix_cons, List.cons_prefix_cons]
        exact ⟨⟨rfl, (ih bs).1⟩, rfl, (ih bs).2⟩
      · exact ⟨List.nil_prefix, List.nil_prefix⟩

theorem foldl_commonPrefix_prefix {α : Type} [DecidableEq α] (first : List α)
    (others : List (List α)) :
    others.foldl commonPrefix first <+: first ∧
      ∀ s ∈ others, others.foldl commonPrefix first <+: s := by
  induction others generalizing first with
  | nil => simp
  | cons s others ih =>
    obtain ⟨hfirst, hothers⟩ := ih (commonPrefix first s)
    obtain ⟨hl, hr⟩ := commonPrefix_prefix first s
    rw [List.foldl_cons, List.forall_mem_cons]
    exact ⟨hfirst.trans hl, hfirst.trans hr, hothers⟩

/-- Each of several sequences begins with the parts that they share. -/
theorem sharedParts_isPrefix {sequences : List (List (List Expr))} {s : List (List Expr)}
    (h : s ∈ sequences) : sharedParts sequences <+: s := by
  unfold sharedParts
  split
  next first second others =>
    split
    · exact List.nil_prefix
    · obtain ⟨hfirst, hothers⟩ := foldl_commonPrefix_prefix first (second :: others)
      rcases List.mem_cons.1 h with rfl | h
      · exact hfirst
      · exact hothers s h
  · exact List.nil_prefix

/-- Several sequences share only what they are made of. -/
theorem mem_of_mem_sharedParts {es : List Expr} {part : Expr}
    (h : part ∈ (sharedParts (es.map fun e => parts e.factors)).flatten) :
    ∃ e ∈ es, part ∈ e.factors := by
  cases es with
  | nil => cases h
  | cons e es =>
    refine ⟨e, List.mem_cons_self, ?_⟩
    obtain ⟨rest, hrest⟩ : sharedParts ((e :: es).map fun e => parts e.factors) <+:
        parts e.factors := sharedParts_isPrefix (List.mem_map_of_mem List.mem_cons_self)
    rw [← flatten_parts e.factors, ← hrest, List.flatten_append]
    exact List.mem_append_left _ h

theorem isNormal_choice (es : List Expr) : (choice es).IsNormal := by
  refine isNormal_ofFactors fun part hpart => ?_
  rcases List.mem_append.1 hpart with hpart | hpart
  · obtain ⟨e, -, hpart⟩ := mem_of_mem_sharedParts hpart
    exact isFactor_of_mem_factors hpart
  · exact isFactor_of_mem_factors hpart

theorem IsNormal.repeated {body : Expr} (h : body.IsNormal) (min : Nat) (max : Option Nat)
    (greedy : Bool) : (repeated min max greedy body).IsNormal := by
  unfold Expr.repeated
  generalize (if body.maxLength = some 0 then _ else _ : Nat × Option Nat) = counts
  obtain ⟨min, max⟩ := counts
  dsimp only
  split_ifs
  · exact rfl
  · exact h
  · exact rfl

end Expr

/-! ## Trees -/

/-- An atom reads one character or is a condition on a place. -/
theorem Mode.eq_of_atom {m : Mode} {a : Atom} {e : Expr} (h : m.atom a = .ok e) :
    (∃ set asBytes, e = .chars set asBytes) ∨ ∃ l, e = .look l := by
  cases a with
  | assertion extent kind =>
    cases h
    exact .inr ⟨_, rfl⟩
  | literal | letterClass | property | dot =>
    obtain ⟨set, -, h⟩ := Except.bind_eq_ok_iff.1 h
    cases h
    exact .inl ⟨set, _, rfl⟩

/-- The expression of a tree is in normal form. -/
theorem Tree.isNormal_toExpr {m m' : Mode} {e : Expr} :
    ∀ {tree : Tree}, tree.toExpr m = .ok (e, m') → e.IsNormal
  | .empty _, h => by
    cases h
    rfl
  | .flags _ _, h => by
    cases h
    rfl
  | .atom a, h => by
    obtain ⟨e, ha, h⟩ := Except.bind_eq_ok_iff.1 h
    cases h
    obtain ⟨set, _, rfl⟩ | ⟨l, rfl⟩ := Mode.eq_of_atom ha <;> rfl
  | .bracketed _ _ _, h => by
    obtain ⟨set, -, h⟩ := Except.bind_eq_ok_iff.1 h
    obtain ⟨set', -, h⟩ := Except.bind_eq_ok_iff.1 h
    cases h
    rfl
  | .repetition _ _ _ _ body, h => by
    obtain ⟨⟨e, m⟩, hbody, h⟩ := Except.bind_eq_ok_iff.1 h
    cases h
    exact (isNormal_toExpr hbody).repeated ..
  | .group _ (.capture _ _) body, h => by
    obtain ⟨⟨e, m⟩, -, h⟩ := Except.bind_eq_ok_iff.1 h
    cases h
    rfl
  | .group _ (.plain _) body, h => by
    obtain ⟨⟨e, m⟩, hbody, h⟩ := Except.bind_eq_ok_iff.1 h
    cases h
    exact isNormal_toExpr hbody
  | .concat _ items, h => by
    obtain ⟨⟨es, m⟩, -, h⟩ := Except.bind_eq_ok_iff.1 h
    cases h
    exact Expr.isNormal_sequence es
  | .alternation _ branches, h => by
    obtain ⟨⟨es, m⟩, -, h⟩ := Except.bind_eq_ok_iff.1 h
    cases h
    exact Expr.isNormal_choice es

theorem Tree.toExprs_singleton (m : Mode) (tree : Tree) :
    Tree.toExprs m [tree] = (tree.toExpr m).map fun (e, m) => ([e], m) := by
  rw [Tree.toExprs]
  cases tree.toExpr m with
  | error fault => rfl
  | ok r => rfl

/-- A branch means the sequence of its items. -/
theorem Partial.toExpr_branch (p : Partial) (rest : List Char) (m : Mode) :
    (p.branch rest).toExpr m =
      (Tree.toExprs m p.items.reverse).map fun (es, m) => (.sequence es, m) := by
  unfold branch
  dsimp only
  split
  next h =>
    rw [h]
    rfl
  next item h =>
    rw [h, List.reverse_singleton, Tree.toExprs_singleton]
    cases hitem : item.toExpr m with
    | error fault => rfl
    | ok r =>
      obtain ⟨e, m'⟩ := r
      change _ = Except.ok (Expr.sequence [e], m')
      rw [(Tree.isNormal_toExpr hitem).sequence_singleton]
  next items _ _ =>
    rw [Tree.toExpr]
    cases Tree.toExprs m items.reverse <;> rfl

end Munch.Regex
