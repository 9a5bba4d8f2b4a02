import Munch.Proofs.Regex.Normal

/-!
# Choices taken apart

`Expr.choice` takes the beginning that all branches share out in front of the choice.

* `choice_eq`, `factors_choice`: what has been taken out (`sharedBeginning`), then what is left to
  choose from (`rests`).
* `IsSettled`: expressions whose branches, if they are a choice, share no beginning any more. So the
  branches of a choice that share one are no choices themselves (`IsSettled.branches_eq`).
* `IsIdle`: expressions that match the empty text alone, which repetitions are told.
-/

namespace Munch.Regex.Expr

/-! ## Branches -/

theorem branches_ne_nil (e : Expr) : e.branches ≠ [] := by
  induction e with
  | alt a b iha ihb => simp [branches, iha]
  | empty | chars | look | iterate | capture | seq => exact nofun

theorem length_le_flatMap_branches (es : List Expr) :
    es.length ≤ (es.flatMap branches).length := by
  induction es with
  | nil => exact Nat.le_refl _
  | cons e es ih =>
    have := List.length_pos_iff.2 (branches_ne_nil e)
    rw [List.flatMap_cons, List.length_append, List.length_cons]
    omega

theorem exists_mem_flatMap_branches {es : List Expr} (h : 2 ≤ es.length) :
    ∃ b, b ∈ es.flatMap branches := by
  have := length_le_flatMap_branches es
  exact List.exists_mem_of_length_pos (by omega)

theorem branches_of_mem_branches {e b : Expr} (h : b ∈ e.branches) : b.branches = [b] := by
  induction e with
  | alt c d ihc ihd => exact (List.mem_append.1 h).elim ihc ihd
  | empty | chars | look | iterate | capture | seq =>
    obtain rfl := List.mem_singleton.1 h
    rfl

theorem flatMap_branches {es : List Expr} (h : ∀ e ∈ es, e.branches = [e]) :
    es.flatMap branches = es := by
  induction es with
  | nil => rfl
  | cons e es ih =>
    rw [List.forall_mem_cons] at h
    rw [List.flatMap_cons, h.1, ih h.2, List.singleton_append]

/-- An expression is its only branch, or it is a choice between several. -/
theorem branches_eq_or (e : Expr) :
    e.branches = [e] ∨ (∃ a b, e = alt a b) ∧ 2 ≤ e.branches.length := by
  cases e with
  | alt a b =>
    have ha := List.length_pos_iff.2 (branches_ne_nil a)
    have hb := List.length_pos_iff.2 (branches_ne_nil b)
    refine .inr ⟨⟨a, b, rfl⟩, ?_⟩
    rw [branches, List.length_append]
    omega
  | empty | chars | look | iterate | capture | seq => exact .inl rfl

/-! ## Shared parts -/

theorem ne_nil_of_mem_parts {es p : List Expr} (h : p ∈ parts es) : p ≠ [] := by
  induction es with
  | nil => cases h
  | cons e es ih =>
    rw [parts] at h
    split at h
    · rw [List.mem_singleton.1 h]
      exact List.cons_ne_nil _ _
    next hparts =>
      rw [hparts] at ih
      split at h
      · rcases List.mem_cons.1 h with rfl | h
        · exact List.cons_ne_nil _ _
        · exact ih (List.mem_cons_of_mem _ h)
      · rcases List.mem_cons.1 h with rfl | h
        · exact List.cons_ne_nil _ _
        · exact ih h

theorem singleton_prefix_commonPrefix {α : Type} [DecidableEq α] {x : α} {as bs : List α}
    (ha : [x] <+: as) (hb : [x] <+: bs) : [x] <+: commonPrefix as bs := by
  obtain ⟨as, rfl⟩ := ha
  obtain ⟨bs, rfl⟩ := hb
  exact ⟨commonPrefix as bs, by simp [commonPrefix]⟩

theorem singleton_prefix_foldl {α : Type} [DecidableEq α] {x : α} {first : List α}
    {others : List (List α)} (hfirst : [x] <+: first) (h : ∀ s ∈ others, [x] <+: s) :
    [x] <+: others.foldl commonPrefix first := by
  induction others generalizing first with
  | nil => exact hfirst
  | cons s others ih =>
    rw [List.forall_mem_cons] at h
    exact ih (singleton_prefix_commonPrefix hfirst h.1) h.2

/-- Several sequences of several parts share some if they all begin with one and the same. -/
theorem sharedParts_ne_nil_iff {ss : List (List (List Expr))} : sharedParts ss ≠ [] ↔
    2 ≤ ss.length ∧ (∀ s ∈ ss, 2 ≤ s.length) ∧ ∃ p, ∀ s ∈ ss, [p] <+: s := by
  constructor
  · intro h
    obtain ⟨p, rest, hp⟩ := List.exists_cons_of_ne_nil h
    have hbegins : ∀ s ∈ ss, [p] <+: s := fun s hs =>
      (hp ▸ ⟨rest, rfl⟩ : [p] <+: sharedParts ss).trans (sharedParts_isPrefix hs)
    unfold sharedParts at h
    split at h
    next first second others =>
      split at h
      · exact absurd rfl h
      next hlength =>
        simp only [List.any_eq_true, decide_eq_true_eq, not_exists, not_and, Nat.not_lt] at hlength
        exact ⟨by simp, hlength, p, hbegins⟩
    · exact absurd rfl h
  · rintro ⟨hss, hlength, p, hp⟩ h
    match ss with
    | first :: second :: others =>
      dsimp only [sharedParts] at h
      rw [if_neg] at h
      · have hbegins := singleton_prefix_foldl (hp first (by simp))
          fun s (hs : s ∈ second :: others) => hp s (List.mem_cons_of_mem _ hs)
        rw [h] at hbegins
        cases List.prefix_nil.1 hbegins
      · simp only [List.any_eq_true, decide_eq_true_eq, not_exists, not_and, Nat.not_lt]
        exact hlength

/-- What is taken out in front of a choice. -/
def sharedBeginning (es : List Expr) : List Expr :=
  (sharedParts ((es.flatMap branches).map fun e => parts e.factors)).flatten

/-- What is left to choose from. -/
def rests (es : List Expr) : List Expr :=
  (es.flatMap branches).map fun e => ofFactors (e.factors.drop (sharedBeginning es).length)

theorem sharedBeginning_isPrefix {es : List Expr} {e : Expr} (h : e ∈ es.flatMap branches) :
    sharedBeginning es <+: e.factors := by
  obtain ⟨rest, hrest⟩ :=
    sharedParts_isPrefix (List.mem_map_of_mem (f := fun e => parts e.factors) h)
  refine ⟨rest.flatten, ?_⟩
  rw [← flatten_parts e.factors, ← hrest, List.flatten_append]
  rfl

theorem sharedBeginning_ne_nil_iff {es : List Expr} : sharedBeginning es ≠ [] ↔
    sharedParts ((es.flatMap branches).map fun e => parts e.factors) ≠ [] := by
  rw [not_iff_not]
  refine ⟨fun h => ?_, fun h => by rw [sharedBeginning, h]; rfl⟩
  by_contra hne
  obtain ⟨p, rest, hp⟩ := List.exists_cons_of_ne_nil hne
  rw [sharedBeginning, hp, List.flatten_cons, List.append_eq_nil_iff] at h
  obtain ⟨b, hb⟩ := List.exists_mem_of_length_pos (l := es.flatMap branches) (by
    have := (sharedParts_ne_nil_iff.1 hne).1
    rw [List.length_map] at this
    omega)
  have hbegins := sharedParts_isPrefix (List.mem_map_of_mem (f := fun e => parts e.factors) hb)
  rw [hp] at hbegins
  exact ne_nil_of_mem_parts (hbegins.subset List.mem_cons_self) h.1

/-- What is taken out and what is left. -/
theorem choice_eq (es : List Expr) : choice es =
    ofFactors (sharedBeginning es ++ (ofBranches ((rests es).flatMap branches)).factors) := by
  have hrests : ((es.flatMap branches).map fun e => parts e.factors).map (fun s => ofFactors
      (s.drop (sharedParts ((es.flatMap branches).map fun e => parts e.factors)).length).flatten) =
      rests es := by
    rw [List.map_map, rests]
    refine List.map_congr_left fun e he => congrArg ofFactors ?_
    obtain ⟨rest, hrest⟩ :=
      sharedParts_isPrefix (List.mem_map_of_mem (f := fun e => parts e.factors) he)
    dsimp only [Function.comp_apply]
    rw [← hrest, List.drop_left, ← flatten_parts e.factors, ← hrest, List.flatten_append]
    exact List.drop_left.symm
  rw [← hrests]
  rfl

theorem length_rests (es : List Expr) : (rests es).length = (es.flatMap branches).length :=
  List.length_map _

theorem two_le_length_rests {es : List Expr} (h : 2 ≤ es.length) :
    2 ≤ ((rests es).flatMap branches).length := by
  have := length_le_flatMap_branches es
  have := length_le_flatMap_branches (rests es)
  rw [length_rests] at this
  omega

theorem eq_map_chars {es : List Expr} {sets : List CharSet} (h : es.mapM charSet? = some sets) :
    ∃ ss : List (CharSet × Bool), es = ss.map (fun s => chars s.1 s.2) ∧ sets = ss.map (·.1) := by
  induction es generalizing sets with
  | nil =>
    cases h
    exact ⟨[], rfl, rfl⟩
  | cons e es ih =>
    rw [List.mapM_cons] at h
    obtain ⟨set, hset, h⟩ := Option.bind_eq_some_iff.1 h
    obtain ⟨sets, hsets, h⟩ := Option.bind_eq_some_iff.1 h
    cases h
    obtain ⟨ss, rfl, rfl⟩ := ih hsets
    cases e with
    | chars set asBytes =>
      cases hset
      exact ⟨(set, asBytes) :: ss, rfl, rfl⟩
    | empty | look | iterate | capture | seq | alt => cases hset

/-- What is chosen from is a set each time. -/
theorem eq_map_chars_of_union? {es : List Expr} {set : CharSet} (h : union? es = some set) :
    ∃ ss : List (CharSet × Bool),
      es = ss.map (fun s => chars s.1 s.2) ∧ set = CharSet.unions (ss.map (·.1)) := by
  unfold union? at h
  split at h
  · obtain ⟨sets, hsets, rfl⟩ := Option.map_eq_some_iff.1 h
    obtain ⟨ss, hes, rfl⟩ := eq_map_chars hsets
    exact ⟨ss, hes, rfl⟩
  · cases h

/-- A choice between several is a choice or, if it is one between characters, a set. -/
theorem ofBranches_eq {es : List Expr} (h : 2 ≤ es.length) :
    (∃ set, ofBranches es = chars set) ∨ (∃ a b, ofBranches es = alt a b) ∧
      ofBranches es = ofBranches.ofAlternatives es := by
  unfold ofBranches
  split
  next sets _ => exact .inl ⟨_, rfl⟩
  · match es with
    | d :: e :: es => exact .inr ⟨⟨_, _, rfl⟩, rfl⟩

theorem factors_choice {es : List Expr} (h : 2 ≤ es.length) : (choice es).factors =
    sharedBeginning es ++ [ofBranches ((rests es).flatMap branches)] := by
  have hone : (ofBranches ((rests es).flatMap branches)).factors =
      [ofBranches ((rests es).flatMap branches)] := by
    rcases ofBranches_eq (two_le_length_rests h) with ⟨set, hset⟩ | ⟨⟨a, b, halt⟩, -⟩
    · rw [hset]
      rfl
    · rw [halt]
      rfl
  rw [choice_eq, hone, factors_ofFactors]
  intro e he
  rcases List.mem_append.1 he with he | he
  · obtain ⟨part, hpart, he⟩ := mem_of_mem_sharedParts he
    exact isFactor_of_mem_factors he
  · rw [List.mem_singleton.1 he]
    exact hone

/-! ## Settled expressions -/

/-- Whether what is taken apart as a choice is in normal form and has no beginning in common. -/
def IsSettled (e : Expr) : Prop := (∀ b ∈ e.branches, b.IsNormal) ∧ sharedBeginning [e] = []

theorem IsNormal.isSettled {e : Expr} (hn : e.IsNormal) (h : e.branches = [e]) : e.IsSettled := by
  refine ⟨by simpa [h] using hn, ?_⟩
  rw [sharedBeginning, List.flatMap_singleton, h]
  rfl

theorem IsSettled.isNormal {e : Expr} (h : e.IsSettled) : e.IsNormal := by
  rcases branches_eq_or e with hb | ⟨⟨a, b, rfl⟩, -⟩
  · exact h.1 e (by simp [hb])
  · rfl

/-- Where branches share a beginning, none of them is a choice. -/
theorem IsSettled.branches_eq {es : List Expr} {e : Expr} (h : e.IsSettled) (he : e ∈ es)
    (hes : sharedBeginning es ≠ []) : e.branches = [e] := by
  rcases branches_eq_or e with hb | ⟨-, hlength⟩
  · exact hb
  obtain ⟨-, hparts, p, hp⟩ := sharedParts_ne_nil_iff.1 (sharedBeginning_ne_nil_iff.1 hes)
  have hsub : ∀ s ∈ e.branches.map fun e => parts e.factors,
      s ∈ (es.flatMap branches).map fun e => parts e.factors := by
    intro s hs
    obtain ⟨b, hb, rfl⟩ := List.mem_map.1 hs
    exact List.mem_map_of_mem (List.mem_flatMap.2 ⟨e, he, hb⟩)
  refine absurd h.2 (sharedBeginning_ne_nil_iff.2 ?_)
  rw [List.flatMap_singleton, sharedParts_ne_nil_iff, List.length_map]
  exact ⟨hlength, fun s hs => hparts s (hsub s hs), p, fun s hs => hp s (hsub s hs)⟩

theorem IsSettled.sequence {es : List Expr} (h : ∀ e ∈ es, e.IsSettled) :
    (sequence es).IsSettled := by
  rcases branches_eq_or (Expr.sequence es) with hb | ⟨⟨a, b, halt⟩, -⟩
  · exact (isNormal_sequence es).isSettled hb
  -- A sequence that is a choice has no other part.
  have hfactors : es.flatMap factors = [alt a b] := by
    rw [← factors_sequence, halt]
    rfl
  obtain ⟨e, he, hmem⟩ := List.mem_flatMap.1 (hfactors ▸ List.mem_singleton_self (alt a b))
  have heq : e.factors = [alt a b] := by
    obtain ⟨s, t, rfl⟩ := List.append_of_mem he
    have hlength := congrArg List.length hfactors
    have := List.length_pos_of_mem hmem
    simp only [List.flatMap_append, List.flatMap_cons, List.length_append, List.length_singleton]
      at hlength
    obtain ⟨x, hx⟩ := List.length_eq_one_iff.1 (show e.factors.length = 1 by omega)
    rw [hx, List.mem_singleton] at hmem
    rw [hx, hmem]
  have hnormal : ofFactors e.factors = e := (h e he).isNormal
  rw [heq] at hnormal
  rw [halt, show alt a b = e from hnormal]
  exact h e he

theorem IsSettled.repeated {body : Expr} (h : body.IsSettled) (min : Nat) (max : Option Nat)
    (greedy : Bool) : (repeated min max greedy body).IsSettled := by
  unfold Expr.repeated
  generalize (if body.maxLength = some 0 then _ else _ : Nat × Option Nat) = counts
  obtain ⟨min, max⟩ := counts
  dsimp only
  split_ifs
  · exact IsNormal.isSettled rfl rfl
  · exact h
  · exact IsNormal.isSettled rfl rfl

theorem branches_ofAlternatives {es : List Expr} (h : ∀ e ∈ es, e.branches = [e]) (hes : es ≠ []) :
    (ofBranches.ofAlternatives es).branches = es := by
  induction es with
  | nil => exact absurd rfl hes
  | cons e es ih =>
    rw [List.forall_mem_cons] at h
    cases es with
    | nil => exact h.1
    | cons d ds =>
      change e.branches ++ _ = _
      rw [h.1, ih h.2 nofun]
      rfl

theorem IsSettled.choice {es : List Expr} (h : ∀ e ∈ es, e.IsSettled) (hlength : 2 ≤ es.length) :
    (choice es).IsSettled := by
  rcases branches_eq_or (Expr.choice es) with hb | ⟨⟨a, b, halt⟩, -⟩
  · exact (isNormal_choice es).isSettled hb
  -- Nothing was taken out, so the branches are those that there were.
  have hfactors := factors_choice hlength
  rw [halt, show (alt a b).factors = [alt a b] from rfl] at hfactors
  have hshared : sharedBeginning es = [] := by
    have := congrArg List.length hfactors
    rw [List.length_append, List.length_singleton, List.length_singleton] at this
    exact List.length_eq_zero_iff.1 (by omega)
  have hrests : rests es = es.flatMap branches := by
    rw [rests, hshared]
    refine (List.map_congr_left fun b hb => ?_).trans (List.map_id _)
    obtain ⟨e, he, hb⟩ := List.mem_flatMap.1 hb
    exact (h e he).1 b hb
  have hbranches : ∀ b ∈ es.flatMap branches, b.branches = [b] := fun b hb =>
    (List.mem_flatMap.1 hb).elim fun e he => branches_of_mem_branches he.2
  have hflat : (rests es).flatMap branches = es.flatMap branches := by
    rw [hrests, flatMap_branches hbranches]
  rw [hshared, hflat, List.nil_append, List.singleton_inj] at hfactors
  have htwo := two_le_length_rests hlength
  rw [hflat] at htwo
  have hsame : (alt a b).branches = es.flatMap branches := by
    rcases ofBranches_eq htwo with ⟨set, hset⟩ | ⟨-, heq⟩
    · cases hfactors.trans hset
    · rw [hfactors, heq, branches_ofAlternatives hbranches]
      exact fun h => by simp [h] at htwo
  rw [halt, IsSettled, hsame]
  refine ⟨fun b hb => ?_, ?_⟩
  · obtain ⟨e, he, hb⟩ := List.mem_flatMap.1 hb
    exact (h e he).1 b hb
  · rw [sharedBeginning, List.flatMap_singleton, hsame]
    exact hshared

/-! ## Expressions that read nothing -/

/-- Whether an expression is known to match the empty text alone. -/
def IsIdle (e : Expr) : Prop := e.maxLength = some 0

theorem isIdle_seq {a b : Expr} : (seq a b).IsIdle ↔ a.IsIdle ∧ b.IsIdle := by
  rw [IsIdle, IsIdle, IsIdle, maxLength]
  cases a.maxLength <;> cases b.maxLength <;> simp

theorem isIdle_alt {a b : Expr} : (alt a b).IsIdle ↔ a.IsIdle ∧ b.IsIdle := by
  rw [IsIdle, IsIdle, IsIdle, maxLength]
  cases a.maxLength <;> cases b.maxLength <;> simp

theorem not_isIdle_chars (set : CharSet) (asBytes : Bool) : ¬ (chars set asBytes).IsIdle := by
  rw [IsIdle, maxLength]
  split <;> simp

theorem isIdle_iff_factors {e : Expr} : e.IsIdle ↔ ∀ part ∈ e.factors, part.IsIdle := by
  induction e with
  | empty => exact ⟨fun _ => nofun, fun _ => rfl⟩
  | seq a b iha ihb => rw [isIdle_seq, iha, ihb, factors, List.forall_mem_append]
  | chars | look | iterate | capture | alt => exact List.forall_mem_singleton.symm

theorem isIdle_ofFactors {es : List Expr} : (ofFactors es).IsIdle ↔ ∀ e ∈ es, e.IsIdle := by
  induction es with
  | nil => exact ⟨fun _ => nofun, fun _ => rfl⟩
  | cons e es ih =>
    cases es with
    | nil => exact List.forall_mem_singleton.symm
    | cons d ds =>
      rw [List.forall_mem_cons, ← ih]
      exact isIdle_seq

theorem isIdle_sequence {es : List Expr} : (sequence es).IsIdle ↔ ∀ e ∈ es, e.IsIdle := by
  rw [sequence, isIdle_ofFactors, List.forall_mem_flatMap]
  exact forall₂_congr fun e _ => isIdle_iff_factors.symm

theorem isIdle_iff_branches {e : Expr} : e.IsIdle ↔ ∀ b ∈ e.branches, b.IsIdle := by
  induction e with
  | alt a b iha ihb => rw [isIdle_alt, iha, ihb, branches, List.forall_mem_append]
  | empty | chars | look | iterate | capture | seq => exact List.forall_mem_singleton.symm

theorem isIdle_ofAlternatives {es : List Expr} (h : es ≠ []) :
    (ofBranches.ofAlternatives es).IsIdle ↔ ∀ e ∈ es, e.IsIdle := by
  induction es with
  | nil => exact absurd rfl h
  | cons e es ih =>
    cases es with
    | nil => exact List.forall_mem_singleton.symm
    | cons d ds =>
      rw [List.forall_mem_cons, ← ih nofun]
      exact isIdle_alt

theorem isIdle_ofBranches {es : List Expr} (h : es ≠ []) :
    (ofBranches es).IsIdle ↔ ∀ e ∈ es, e.IsIdle := by
  unfold ofBranches
  split
  next set hset =>
    obtain ⟨ss, rfl, -⟩ := eq_map_chars_of_union? hset
    obtain ⟨e, he⟩ := List.exists_mem_of_ne_nil _ h
    obtain ⟨s, -, rfl⟩ := List.mem_map.1 he
    exact iff_of_false (not_isIdle_chars _ _) fun h => not_isIdle_chars _ _ (h _ he)
  · exact isIdle_ofAlternatives h

theorem isIdle_choice {es : List Expr} (h : 2 ≤ es.length) :
    (choice es).IsIdle ↔ ∀ e ∈ es, e.IsIdle := by
  have hne : (rests es).flatMap branches ≠ [] := fun hnil => by
    have := two_le_length_rests h
    simp [hnil] at this
  obtain ⟨b, hb⟩ := exists_mem_flatMap_branches h
  rw [isIdle_iff_factors, factors_choice h, List.forall_mem_append, List.forall_mem_singleton,
    isIdle_ofBranches hne, List.forall_mem_flatMap, rests, List.forall_mem_map]
  have hone : ∀ b ∈ es.flatMap branches, (b.IsIdle ↔ (∀ part ∈ sharedBeginning es, part.IsIdle) ∧
      ∀ c ∈ (ofFactors (b.factors.drop (sharedBeginning es).length)).branches, c.IsIdle) := by
    intro b hb
    obtain ⟨rest, hrest⟩ := sharedBeginning_isPrefix hb
    rw [← isIdle_iff_branches, isIdle_ofFactors, isIdle_iff_factors, ← hrest, List.drop_left,
      List.forall_mem_append]
  constructor
  · rintro ⟨hshared, hrests⟩ e he
    rw [isIdle_iff_branches]
    intro b hb
    have hb := List.mem_flatMap.2 ⟨e, he, hb⟩
    exact (hone b hb).2 ⟨hshared, hrests b hb⟩
  · intro hes
    have hidle : ∀ b ∈ es.flatMap branches, b.IsIdle := fun b hb =>
      (List.mem_flatMap.1 hb).elim fun e he => isIdle_iff_branches.1 (hes e he.1) b he.2
    exact ⟨((hone b hb).1 (hidle b hb)).1, fun b hb => ((hone b hb).1 (hidle b hb)).2⟩

theorem isIdle_repeated {min : Nat} {max : Option Nat} (h : ∀ n ∈ max, min ≤ n) (greedy : Bool)
    (body : Expr) : (repeated min max greedy body).IsIdle ↔ body.IsIdle ∨ max = some 0 := by
  unfold Expr.repeated
  by_cases hbody : body.maxLength = some 0
  · rw [if_pos hbody]
    refine iff_of_true ?_ (.inl hbody)
    dsimp only
    split_ifs
    · exact rfl
    · exact hbody
    · simp [IsIdle, maxLength, hbody]
  · rw [if_neg hbody]
    dsimp only
    split_ifs with hzero hone
    · exact iff_of_true rfl (.inr hzero.2)
    · simp [hone.2]
    · refine iff_of_false ?_ (not_or.2 ⟨hbody, fun hmax => ?_⟩)
      · intro hidle
        rw [IsIdle, maxLength] at hidle
        obtain ⟨m, hm, hidle⟩ := Option.bind_eq_some_iff.1 hidle
        obtain ⟨k, hk, hidle⟩ := Option.bind_eq_some_iff.1 hidle
        have hprod : m * k = 0 := Option.some.inj hidle
        have hmin := h m hm
        rcases Nat.mul_eq_zero.1 hprod with rfl | rfl
        · exact hzero ⟨by omega, hm⟩
        · exact hbody hk
      · have hmin := h 0 hmax
        exact hzero ⟨by omega, hmax⟩

end Munch.Regex.Expr
