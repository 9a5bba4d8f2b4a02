import Mathlib.Data.List.DropRight
import Munch.Proofs.Regex.Names
import Munch.Proofs.Regex.Order

/-!
# Expressions with groups and without

A `Twin` of an expression is one without groups that reads the same. Groups keep apart what would
else be taken together: the parts of a sequence within a group, the characters and the beginnings
that branches have in common. So twins are built in the same way, but need not look alike.

* `Parallel`: the parts of two such sequences. They are the same up to a part with groups, or up to
  rigid parts in front of it; from there on they are only known to read the same.
* `Twin.sequence`, `Twin.repeated`, `Twin.choice`: how twins are built of twins. Two things must be
  asked for. What the branches of a choice share only without their groups keeps the order in which
  they are tried (`Harmless`); and groups do not hide whether a round of an unbounded repetition
  reads something (`SameRounds`).
-/

namespace Munch.Regex.Expr

open Walker

/-! ## Sequences side by side -/

/-- The parts of a sequence and those of one without groups. -/
inductive Parallel (again : Bool) : List Expr → List Expr → Prop
  | nil : Parallel again [] []
  | same {e es es'} (h : Parallel again es es') : Parallel again (e :: es) (e :: es')
  /-- Some parts, one of them with groups, for others that read the same. -/
  | block {rigid e more gs es es'} (hrigid : ∀ r ∈ rigid, isRigid r) (he : captures e ≠ [])
      (halike : Alike again (seqs ((rigid ++ e :: more).map walker)) (seqs (gs.map walker)))
      (h : Parallel again es es') : Parallel again ((rigid ++ e :: more) ++ es) (gs ++ es')

namespace Parallel

variable {es es' fs fs' : List Expr} {again : Bool}

theorem refl (es : List Expr) : Parallel again es es := by
  induction es with
  | nil => exact .nil
  | cons e es ih => exact .same ih

theorem weaken {again' : Bool} (hagain : again → again') (h : Parallel again' es es') :
    Parallel again es es' := by
  induction h with
  | nil => exact .nil
  | same _ ih => exact .same ih
  | block hrigid he halike _ ih => exact .block hrigid he (halike.weaken hagain) ih

theorem append (h : Parallel again es es') (h' : Parallel again fs fs') :
    Parallel again (es ++ fs) (es' ++ fs') := by
  induction h with
  | nil => exact h'
  | same _ ih => exact .same ih
  | block hrigid he halike _ ih =>
    rw [List.append_assoc _ _ fs, List.append_assoc _ _ fs']
    exact .block hrigid he halike ih

/-- One part with groups for others. -/
theorem single {e : Expr} {gs : List Expr} (he : e.captures ≠ [])
    (halike : Alike again e.walker (seqs (gs.map walker))) : Parallel again [e] gs := by
  have : Parallel again (([] ++ e :: []) ++ []) (gs ++ []) :=
    block nofun he ((seq_empty _).trans halike) nil
  rwa [List.append_nil, List.append_nil] at this

theorem walker (h : Parallel again es es') :
    Alike again (seqs (es.map Expr.walker)) (seqs (es'.map Expr.walker)) := by
  induction h with
  | nil => exact .refl _
  | same _ ih => exact (Alike.refl _).seq ih
  | block _ _ halike _ ih =>
    exact ((walker_append _ _).trans (halike.seq ih)).trans (walker_append _ _).symm

theorem eq_of_captures (h : Parallel again es es') (hes : ∀ e ∈ es, e.captures = []) :
    es = es' := by
  induction h with
  | nil => rfl
  | same _ ih => rw [ih fun e he => hes e (List.mem_cons_of_mem _ he)]
  | block _ he => exact absurd (hes _ (by simp)) he

/-- What is the same at the beginning can be left out, if it ends with a part that is not rigid. -/
theorem cancel {front : List Expr} (h : Parallel again (front ++ es) (front ++ es'))
    (hfront : ∀ e ∈ front, e.captures = [])
    (hlast : ∀ hne : front ≠ [], ¬ (front.getLast hne).isRigid) :
    Alike again (seqs (es.map Expr.walker)) (seqs (es'.map Expr.walker)) := by
  induction front with
  | nil => exact h.walker
  | cons x front ih =>
    generalize hfs : x :: front ++ es = fs at h
    generalize hfs' : x :: front ++ es' = fs' at h
    cases h with
    | nil => cases hfs
    | same h =>
      obtain ⟨rfl, rfl⟩ := List.cons.inj hfs
      obtain ⟨-, rfl⟩ := List.cons.inj hfs'
      rw [List.forall_mem_cons] at hfront
      refine ih h hfront.2 fun hne => ?_
      have := hlast (List.cons_ne_nil x front)
      rwa [List.getLast_cons hne] at this
    | block hrigid he =>
      have hlast := hlast (List.cons_ne_nil x front)
      rw [List.append_assoc, List.append_eq_append_iff] at hfs
      rcases hfs with ⟨rest, hrest, -⟩ | ⟨rest, hrest, hrest'⟩
      · exact absurd (hrigid _ (hrest ▸ List.mem_append_left _ (List.getLast_mem _))) hlast
      · cases rest with
        | nil =>
          rw [List.append_nil] at hrest
          exact absurd (hrigid _ (hrest ▸ List.getLast_mem _)) hlast
        | cons y rest =>
          obtain ⟨rfl, -⟩ := List.cons.inj hrest'
          exact absurd (hfront _ (hrest ▸ by simp)) he

end Parallel

/-! ## Groups of an expression and its parts -/

section Captures

variable {g : Nat × Option String} {es : List Expr} {e : Expr}

/-- What has only groups of expressions that have none has none. -/
theorem captures_eq_nil (hes : ∀ d ∈ es, d.captures = [])
    (h : ∀ g ∈ e.captures, ∃ d ∈ es, g ∈ d.captures) : e.captures = [] := by
  refine List.eq_nil_iff_forall_not_mem.2 fun g hg => ?_
  obtain ⟨d, hd, hg⟩ := h g hg
  rw [hes d hd] at hg
  cases hg

theorem captures_eq_nil_iff_factors : e.captures = [] ↔ ∀ part ∈ e.factors, part.captures = [] := by
  refine ⟨fun h part hpart => ?_, fun h => captures_eq_nil h fun _ => mem_captures_factors.1⟩
  exact List.eq_nil_of_subset_nil (h ▸ fun _ hg => mem_captures_factors.2 ⟨part, hpart, hg⟩)

theorem captures_eq_nil_iff_branches : e.captures = [] ↔ ∀ b ∈ e.branches, b.captures = [] := by
  refine ⟨fun h b hb => ?_, fun h => captures_eq_nil h fun _ => mem_captures_branches.1⟩
  exact List.eq_nil_of_subset_nil (h ▸ fun _ hg => mem_captures_branches.2 ⟨b, hb, hg⟩)

theorem mem_captures_ofAlternatives_of_mem (he : e ∈ es) (h : g ∈ e.captures) :
    g ∈ (ofBranches.ofAlternatives es).captures := by
  induction es with
  | nil => cases he
  | cons d es ih =>
    cases es with
    | nil =>
      rw [List.mem_singleton] at he
      exact he ▸ h
    | cons f fs =>
      change g ∈ d.captures ++ _
      rw [List.mem_append]
      rcases List.mem_cons.1 he with rfl | he
      · exact .inl h
      · exact .inr (ih he)

theorem mem_captures_ofBranches_of_mem (he : e ∈ es) (h : g ∈ e.captures) :
    g ∈ (ofBranches es).captures := by
  unfold ofBranches
  split
  next set hset =>
    -- Characters have no groups.
    obtain ⟨ss, rfl, -⟩ := eq_map_chars_of_union? hset
    obtain ⟨s, -, rfl⟩ := List.mem_map.1 he
    cases h
  · exact mem_captures_ofAlternatives_of_mem he h

/-- A choice keeps the groups of its branches. -/
theorem mem_captures_choice_of_mem (he : e ∈ es) (h : g ∈ e.captures) :
    g ∈ (choice es).captures := by
  obtain ⟨b, hb, hg⟩ := mem_captures_branches.1 h
  obtain ⟨part, hpart, hg⟩ := mem_captures_factors.1 hg
  have hb := List.mem_flatMap.2 ⟨e, he, hb⟩
  obtain ⟨rest, hrest⟩ := sharedBeginning_isPrefix hb
  rw [choice_eq, mem_captures_ofFactors]
  rw [← hrest] at hpart
  rcases List.mem_append.1 hpart with hpart | hpart
  · exact ⟨part, List.mem_append_left _ hpart, hg⟩
  · have hmem : g ∈ (ofFactors (b.factors.drop (sharedBeginning es).length)).captures := by
      rw [← hrest, List.drop_left, mem_captures_ofFactors]
      exact ⟨part, hpart, hg⟩
    obtain ⟨c, hc, hg⟩ := mem_captures_branches.1 hmem
    have hrests : c ∈ (rests es).flatMap branches :=
      List.mem_flatMap.2 ⟨_, List.mem_map_of_mem hb, hc⟩
    obtain ⟨d, hd, hg⟩ := mem_captures_factors.1 (mem_captures_ofBranches_of_mem hrests hg)
    exact ⟨d, List.mem_append_right _ hd, hg⟩

end Captures

/-! ## What is taken out without groups -/

/-- The part of what is taken out in front of a choice up to the last part that is not rigid. -/
def openBeginning (es : List Expr) : List Expr := (sharedBeginning es).rdropWhile isRigid

/-- What the branches of a choice are behind their first parts. -/
def behind (n : Nat) (es : List Expr) : List (List Expr) :=
  (es.flatMap branches).map fun b => b.factors.drop n

/-- What more is taken out in front of a choice when its groups are gone, up to the last part that
is not rigid. -/
def moreShared (es es' : List Expr) : List Expr :=
  ((sharedBeginning es').drop (openBeginning es).length).rdropWhile isRigid

/-- What the branches without groups go on with behind that. -/
def leftBehind (es es' : List Expr) : List (List Expr) :=
  behind (openBeginning es ++ moreShared es es').length es'

/-- Whether a choice reads the same without its groups: what more is taken out in front of it keeps
the order of the branches, and if one may come again, each branch reads something in it or behind
it. -/
structure Harmless (again : Bool) (es es' : List Expr) : Prop where
  begins : openBeginning es <+: sharedBeginning es'
  ordered : KeepsOrder (moreShared es es') (leftBehind es es')
  reads : again → moreShared es es' ≠ [] →
    ∀ b ∈ leftBehind es es', (moreShared es es' ++ b).all canBeEmpty = false

/-- What is taken out in front of a choice without groups. -/
theorem Harmless.exists_rigid {again : Bool} {es es' : List Expr} (h : Harmless again es es') :
    ∃ rigid, sharedBeginning es' = openBeginning es ++ moreShared es es' ++ rigid ∧
      ∀ e ∈ rigid, e.isRigid := by
  obtain ⟨rest, hrest⟩ := h.begins
  have hmore : moreShared es es' = rest.rdropWhile isRigid := by
    rw [moreShared, ← hrest, List.drop_left]
  refine ⟨rest.rtakeWhile isRigid, ?_, fun _ => List.mem_rtakeWhile_imp⟩
  rw [hmore, List.append_assoc, List.rdropWhile_append_rtakeWhile, hrest]

/-- Whether it makes no difference that rounds are without their groups: it is known of both or of
neither that they read something, or they do and one does not come again. -/
def SameRounds (again : Bool) (body body' : Expr) : Prop :=
  body.minLength.any (0 < ·) = body'.minLength.any (0 < ·) ∨
    again = false ∧ body.canBeEmpty = false ∧ body'.canBeEmpty = false

instance (again : Bool) (body body' : Expr) : Decidable (SameRounds again body body') :=
  inferInstanceAs (Decidable (_ ∨ _))

/-! ## Twins -/

/-- An expression and one without groups that reads the same. -/
structure Twin (again : Bool) (e e' : Expr) : Prop where
  parallel : Parallel again e.factors e'.factors
  idle : e.IsIdle ↔ e'.IsIdle
  settled : e.IsSettled
  settled' : e'.IsSettled
  plain : e'.captures = []

namespace Twin

variable {e e' body body' : Expr} {es es' : List Expr} {again : Bool}

theorem weaken {again' : Bool} (hagain : again → again') (h : Twin again' e e') :
    Twin again e e' :=
  ⟨h.parallel.weaken hagain, h.idle, h.settled, h.settled', h.plain⟩

theorem walker (h : Twin again e e') : Alike again e.walker e'.walker :=
  ((walker_factors e).symm.trans h.parallel.walker).trans (walker_factors e')

/-- What has no groups is its own twin. -/
theorem refl (hs : e.IsSettled) (he : e.captures = []) : Twin again e e :=
  ⟨.refl _, .rfl, hs, hs, he⟩

theorem leaf (hn : e.IsNormal) (hb : e.branches = [e]) (he : e.captures = []) :
    Twin again e e :=
  .refl (hn.isSettled hb) he

theorem eq_of_captures (h : Twin again e e') (he : e.captures = []) : e = e' := by
  have hfactors := h.parallel.eq_of_captures (captures_eq_nil_iff_factors.1 he)
  have hnormal : ofFactors e.factors = e := h.settled.isNormal
  have hnormal' : ofFactors e'.factors = e' := h.settled'.isNormal
  rw [← hnormal, ← hnormal', hfactors]

theorem capture (h : Twin again body body') (index : Nat) (name : Option String) :
    Twin again (.capture index name body) body' where
  parallel := .single nofun (h.walker.trans (walker_factors body').symm)
  idle := h.idle
  settled := IsNormal.isSettled rfl rfl
  settled' := h.settled'
  plain := h.plain

theorem settled_of_forall₂ (h : List.Forall₂ (Twin again) es es') :
    (∀ e ∈ es, e.IsSettled) ∧ ∀ e ∈ es', e.IsSettled := by
  induction h with
  | nil => exact ⟨nofun, nofun⟩
  | cons h _ ih =>
    rw [List.forall_mem_cons, List.forall_mem_cons]
    exact ⟨⟨h.settled, ih.1⟩, h.settled', ih.2⟩

theorem plain_of_forall₂ (h : List.Forall₂ (Twin again) es es') : ∀ e ∈ es', e.captures = [] := by
  induction h with
  | nil => exact nofun
  | cons h _ ih => exact List.forall_mem_cons.2 ⟨h.plain, ih⟩

theorem idle_of_forall₂ (h : List.Forall₂ (Twin again) es es') :
    (∀ e ∈ es, e.IsIdle) ↔ ∀ e ∈ es', e.IsIdle := by
  induction h with
  | nil => simp
  | cons h _ ih => rw [List.forall_mem_cons, List.forall_mem_cons, h.idle, ih]

theorem eq_of_forall₂ (h : List.Forall₂ (Twin again) es es') (hes : ∀ e ∈ es, e.captures = []) :
    es = es' := by
  induction h with
  | nil => rfl
  | cons h _ ih =>
    rw [List.forall_mem_cons] at hes
    rw [h.eq_of_captures hes.1, ih hes.2]

theorem sequence (h : List.Forall₂ (Twin again) es es') :
    Twin again (sequence es) (Expr.sequence es') where
  parallel := by
    rw [factors_sequence, factors_sequence]
    induction h with
    | nil => exact .nil
    | cons h _ ih => exact h.parallel.append ih
  idle := by rw [isIdle_sequence, isIdle_sequence, idle_of_forall₂ h]
  settled := .sequence (settled_of_forall₂ h).1
  settled' := .sequence (settled_of_forall₂ h).2
  plain := captures_eq_nil (plain_of_forall₂ h) fun _ => mem_captures_sequence

/-! ### Repetitions -/

theorem walker_rounds {greedy : Bool} (hempty : body.canBeEmpty = false) :
    Alike false (iterate 0 none greedy body).walker (Walker.star greedy body.walker) := by
  rw [Expr.walker]
  split
  · exact (renews_walker hempty).loop_star greedy
  · exact .refl _

theorem walker_iterate {min : Nat} {max : Option Nat} {greedy : Bool}
    (h : Alike (again || max.isNone) body.walker body'.walker)
    (hrounds : min = 0 → max = none → SameRounds again body body') :
    Alike again (iterate min max greedy body).walker (iterate min max greedy body').walker := by
  have hagain : Alike again body.walker body'.walker := h.weaken fun ha => by simp [ha]
  cases max with
  | some max => cases min <;> exact (hagain.copies _).seq (hagain.upTo _)
  | none =>
    rw [Option.isNone_none, Bool.or_true] at h
    cases min with
    | succ n => exact (hagain.copies n).seq h.plus
    | zero =>
      rcases hrounds rfl rfl with hreads | ⟨rfl, hempty, hempty'⟩
      · rw [Expr.walker, Expr.walker, hreads]
        split
        · exact h.loop
        · exact h.star
      · exact ((walker_rounds hempty).trans h.star).trans (walker_rounds hempty').symm

theorem parallel_iterate {min : Nat} {max : Option Nat} {greedy : Bool}
    (h : Twin (again || max.isNone) body body')
    (hrounds : min = 0 → max = none → SameRounds again body body') :
    Parallel again [iterate min max greedy body] [iterate min max greedy body'] := by
  by_cases he : body.captures = []
  · rw [h.eq_of_captures he]
    exact .refl _
  · exact .single he ((walker_iterate h.walker hrounds).trans (seq_empty _).symm)

/-- What is repeated without a bound is come to again. -/
theorem repeated {min : Nat} {max : Option Nat} (h : Twin (again || max.isNone) body body')
    (hcounts : ∀ n ∈ max, min ≤ n) (greedy : Bool)
    (hrounds : min = 0 → max = none → SameRounds again body body') :
    Twin again (repeated min max greedy body) (Expr.repeated min max greedy body') where
  parallel := by
    have hmax : body.maxLength = some 0 ↔ body'.maxLength = some 0 := h.idle
    have hagain : Twin again body body' := h.weaken fun ha => by simp [ha]
    unfold Expr.repeated
    by_cases hidle : body.maxLength = some 0
    · rw [if_pos hidle, if_pos (hmax.1 hidle)]
      dsimp only
      split_ifs
      · exact .refl _
      · exact hagain.parallel
      · refine parallel_iterate (hagain.weaken fun ha => ?_) fun _ hnone => nomatch hnone
        rwa [Option.isNone_some, Bool.or_false] at ha
    · rw [if_neg hidle, if_neg (mt hmax.2 hidle)]
      dsimp only
      split_ifs
      · exact .refl _
      · exact hagain.parallel
      · exact h.parallel_iterate hrounds
  idle := by rw [isIdle_repeated hcounts, isIdle_repeated hcounts, h.idle]
  settled := h.settled.repeated ..
  settled' := h.settled'.repeated ..
  plain := List.eq_nil_of_subset_nil (h.plain ▸ fun _ => mem_captures_repeated)

/-! ### Choices -/

/-- A choice from a place on in what has been taken out, if that is rigid from there on. -/
theorem walker_rigid {front rigid : List Expr} (hes : 2 ≤ es.length)
    (hshared : sharedBeginning es = front ++ rigid) (hrigid : ∀ e ∈ rigid, e.isRigid) :
    Alike again (seqs ((rigid ++ [ofBranches ((rests es).flatMap branches)]).map Expr.walker))
      (guard (oneOf ((behind front.length es).map fun b => seqs (b.map Expr.walker)))) := by
  have hdistributes : Distributes again (seqs (rigid.map Expr.walker)) :=
    .seqs (List.forall_mem_map.2 fun e he => distributes_walker (hrigid e he))
  have hrests : Alike again (seqs ([ofBranches ((rests es).flatMap branches)].map Expr.walker))
      (guard (oneOf ((rests es).map Expr.walker))) :=
    (seq_empty _).trans (walker_ofBranches_rests hes)
  refine (walker_append _ _).trans
    ((((Alike.refl _).seq hrests).trans (hdistributes _)).trans (Alike.oneOf ?_).guard)
  rw [rests, behind, List.map_map, List.map_map, List.map_map, List.forall₂_map_left_iff,
    List.forall₂_map_right_iff, List.forall₂_same]
  intro b hb
  obtain ⟨rest, hrest⟩ := sharedBeginning_isPrefix hb
  have hrest' : b.factors.drop front.length = rigid ++ rest := by
    rw [← hrest, hshared, List.append_assoc, List.drop_left]
  dsimp only [Function.comp_apply]
  rw [hrest', ← hrest, List.drop_left]
  exact ((Alike.refl _).seq (walker_ofFactors rest)).trans (walker_append rigid rest).symm

/-- The same if in front of that stands what keeps the order of the branches. -/
theorem walker_open {front more rigid : List Expr} (hes : 2 ≤ es.length)
    (hshared : sharedBeginning es = front ++ more ++ rigid) (hrigid : ∀ e ∈ rigid, e.isRigid)
    (horder : KeepsOrder more (behind (front ++ more).length es))
    (hreads : again → more ≠ [] →
      ∀ b ∈ behind (front ++ more).length es, (more ++ b).all canBeEmpty = false) :
    Alike again
      (seqs ((more ++ rigid ++ [ofBranches ((rests es).flatMap branches)]).map Expr.walker))
      (guard (oneOf ((behind front.length es).map fun b => seqs (b.map Expr.walker)))) := by
  have hbehind : Alike again
      (seqs ((rigid ++ [ofBranches ((rests es).flatMap branches)]).map Expr.walker))
      (guard (oneOf ((behind (front ++ more).length es).map fun b =>
        seqs (b.map Expr.walker)))) := walker_rigid hes hshared hrigid
  by_cases hnil : more = []
  · rw [hnil, List.append_nil] at hbehind
    rwa [hnil]
  have hall : behind front.length es = (behind (front ++ more).length es).map (more ++ ·) := by
    rw [behind, behind, List.map_map]
    refine List.map_congr_left fun b hb => ?_
    obtain ⟨rest, hrest⟩ := sharedBeginning_isPrefix hb
    dsimp only [Function.comp_apply]
    rw [← hrest, hshared, List.append_assoc _ rigid, List.drop_left, List.append_assoc front,
      List.drop_left]
  rw [List.append_assoc, hall, List.map_map]
  exact ((walker_append _ _).trans ((Alike.refl _).seq hbehind)).trans
    (distribute horder fun ha => hreads ha hnil)

/-- What follows a common beginning in several sequences and in those without groups. -/
theorem tails_of_forall₂ {front : List Expr} (h : List.Forall₂ (Twin again) es es')
    (hfront : ∀ e ∈ es, front <+: e.factors) (hfront' : ∀ e ∈ es', front <+: e.factors)
    (hlast : ∀ hne : front ≠ [], ¬ (front.getLast hne).isRigid) :
    List.Forall₂ (Alike again)
      (es.map fun e => seqs ((e.factors.drop front.length).map Expr.walker))
      (es'.map fun e => seqs ((e.factors.drop front.length).map Expr.walker)) := by
  induction h with
  | nil => exact .nil
  | @cons e e' _ _ h _ ih =>
    rw [List.forall_mem_cons] at hfront hfront'
    refine .cons ?_ (ih hfront.2 hfront'.2)
    obtain ⟨rest, hrest⟩ := hfront.1
    obtain ⟨rest', hrest'⟩ := hfront'.1
    have hparallel := h.parallel
    rw [← hrest, ← hrest'] at hparallel
    dsimp only
    rw [← hrest, ← hrest', List.drop_left, List.drop_left]
    refine hparallel.cancel (fun part hpart => ?_) hlast
    exact captures_eq_nil_iff_factors.1 h.plain part (hrest' ▸ List.mem_append_left _ hpart)

/-- The choices read the same behind a beginning that both have taken out. -/
theorem behind_of_forall₂ {front tail tail' : List Expr} (h : List.Forall₂ (Twin again) es es')
    (hshared : sharedBeginning es = front ++ tail) (hshared' : sharedBeginning es' = front ++ tail')
    (hlast : ∀ hne : front ≠ [], ¬ (front.getLast hne).isRigid) :
    Alike again (guard (oneOf ((behind front.length es).map fun b => seqs (b.map Expr.walker))))
      (guard (oneOf ((behind front.length es').map fun b => seqs (b.map Expr.walker)))) := by
  rw [behind, behind, List.map_map, List.map_map]
  by_cases hfront : front = []
  · have hall : ∀ fs : List Expr, Alike again
        (guard (oneOf ((fs.flatMap branches).map
          ((fun b => seqs (b.map Expr.walker)) ∘ fun b => b.factors.drop front.length))))
        (guard (oneOf (fs.map Expr.walker))) := by
      intro fs
      refine (Alike.oneOf ?_).guard.trans (guard_flatMap_branches fs)
      rw [hfront, List.forall₂_map_left_iff, List.forall₂_map_right_iff, List.forall₂_same]
      exact fun b _ => walker_factors b
    refine ((hall es).trans (Alike.oneOf ?_).guard).trans (hall es').symm
    rw [List.forall₂_map_left_iff, List.forall₂_map_right_iff]
    exact h.imp fun _ _ h => h.walker
  · -- Branches with a common beginning are no choices, so they correspond one by one.
    have hflat : ∀ {fs tail : List Expr}, (∀ e ∈ fs, e.IsSettled) →
        sharedBeginning fs = front ++ tail → fs.flatMap branches = fs := by
      intro fs tail hfs hshared
      refine flatMap_branches fun e he => (hfs e he).branches_eq he ?_
      simp [hshared, hfront]
    have hbegins : ∀ {fs tail : List Expr}, fs.flatMap branches = fs →
        sharedBeginning fs = front ++ tail → ∀ e ∈ fs, front <+: e.factors := by
      intro fs tail hflat hshared e he
      have := sharedBeginning_isPrefix (hflat.symm ▸ he : e ∈ fs.flatMap branches)
      rw [hshared] at this
      exact (List.prefix_append front tail).trans this
    have hflat₁ := hflat (settled_of_forall₂ h).1 hshared
    have hflat₂ := hflat (settled_of_forall₂ h).2 hshared'
    rw [hflat₁, hflat₂]
    exact (Alike.oneOf (tails_of_forall₂ h (hbegins hflat₁ hshared) (hbegins hflat₂ hshared')
      hlast)).guard

/-- What is taken out in front of a choice without groups has none. -/
theorem captures_sharedBeginning (h : ∀ e ∈ es, e.captures = []) (hes : 2 ≤ es.length) :
    ∀ part ∈ sharedBeginning es, part.captures = [] := by
  intro part hpart
  obtain ⟨b, hb⟩ := exists_mem_flatMap_branches hes
  obtain ⟨e, he, hbranch⟩ := List.mem_flatMap.1 hb
  have hnone : b.captures = [] := captures_eq_nil_iff_branches.1 (h e he) b hbranch
  exact captures_eq_nil_iff_factors.1 hnone part ((sharedBeginning_isPrefix hb).subset hpart)

/-- A part with groups, if there is one behind rigid parts. -/
theorem parallel_of_tail {tail gs : List Expr} {e : Expr} (htail : ∀ e ∈ tail, e.isRigid)
    (hne : ∃ part ∈ tail ++ [e], part.captures ≠ [])
    (halike : Alike again (seqs ((tail ++ [e]).map Expr.walker)) (seqs (gs.map Expr.walker))) :
    Parallel again (tail ++ [e]) gs := by
  obtain ⟨part, hpart, hne⟩ := hne
  obtain ⟨rigid, more, hsplit, hrigid⟩ :
      ∃ rigid more, tail ++ [e] = rigid ++ part :: more ∧ ∀ r ∈ rigid, r.isRigid := by
    rcases List.mem_append.1 hpart with hpart | hpart
    · obtain ⟨rigid, more, rfl⟩ := List.append_of_mem hpart
      exact ⟨rigid, more ++ [e], by simp, fun r hr => htail r (List.mem_append_left _ hr)⟩
    · exact ⟨tail, [], by rw [List.mem_singleton.1 hpart], htail⟩
  rw [hsplit] at halike ⊢
  have := Parallel.block hrigid hne halike .nil
  rwa [List.append_nil, List.append_nil] at this

theorem choice (h : List.Forall₂ (Twin again) es es') (hes : 2 ≤ es.length)
    (hharmless : Harmless again es es') : Twin again (choice es) (Expr.choice es') where
  parallel := by
    obtain ⟨rigid, hshared', hrigid⟩ := hharmless.exists_rigid
    have hes' : 2 ≤ es'.length := h.length_eq ▸ hes
    have hshared : sharedBeginning es =
        openBeginning es ++ (sharedBeginning es).rtakeWhile isRigid :=
      List.rdropWhile_append_rtakeWhile.symm
    have hlast : ∀ hne : openBeginning es ≠ [], ¬ ((openBeginning es).getLast hne).isRigid :=
      List.rdropWhile_last_not _ _
    have halike := ((walker_rigid hes hshared fun _ => List.mem_rtakeWhile_imp).trans
      (behind_of_forall₂ h hshared (List.append_assoc _ _ _ ▸ hshared') hlast)).trans
        (walker_open hes' hshared' hrigid hharmless.ordered hharmless.reads).symm
    by_cases hgroups : ∃ part ∈ (sharedBeginning es).rtakeWhile isRigid ++
        [ofBranches ((rests es).flatMap branches)], part.captures ≠ []
    · rw [factors_choice hes, factors_choice hes', hshared, hshared']
      simp only [List.append_assoc] at halike ⊢
      exact (Parallel.refl _).append
        (parallel_of_tail (fun _ => List.mem_rtakeWhile_imp) hgroups halike)
    · -- Without groups the expressions are the same.
      have hfront := captures_sharedBeginning (plain_of_forall₂ h) hes'
      rw [hshared', List.append_assoc] at hfront
      have hnone : (Expr.choice es).captures = [] := by
        rw [captures_eq_nil_iff_factors, factors_choice hes, hshared, List.append_assoc]
        intro part hpart
        rcases List.mem_append.1 hpart with hpart | hpart
        · exact hfront part (List.mem_append_left _ hpart)
        · by_contra hne
          exact hgroups ⟨part, hpart, hne⟩
      have hsame : es = es' := eq_of_forall₂ h fun e he =>
        List.eq_nil_of_subset_nil (hnone ▸ fun _ => mem_captures_choice_of_mem he)
      rw [hsame]
      exact .refl _
  idle := by
    have hes' : 2 ≤ es'.length := h.length_eq ▸ hes
    rw [isIdle_choice hes, isIdle_choice hes', idle_of_forall₂ h]
  settled := .choice (settled_of_forall₂ h).1 hes
  settled' := .choice (settled_of_forall₂ h).2 (h.length_eq ▸ hes)
  plain := captures_eq_nil (plain_of_forall₂ h) fun _ => mem_captures_choice

end Twin

end Munch.Regex.Expr
