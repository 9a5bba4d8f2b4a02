import Mathlib.Data.List.Basic
import Munch.Proofs.Regex.Normal
import Munch.Proofs.Regex.Parses

/-!
# Names of groups

A pattern names no two groups alike, and building its expression adds no group. So a name stands for
at most one group of a compiled pattern.

* `Tree.captures`: the groups of a tree.
* `Parses.exists_captures`: a sequence adds groups whose names have not been read before.
* `Tree.captures_toExpr`: the groups of an expression are those of its tree.
* `eq_of_groupNames`: a name stands for one group.
-/

namespace Munch.Regex

/-! ## Trees -/

mutual

/-- The groups of a tree with their names, by their opening parentheses. -/
def Tree.captures : Tree → List (Nat × Option String)
  | .repetition _ _ _ _ body => body.captures
  | .group _ (.capture index name) body => (index, name) :: body.captures
  | .group _ (.plain _) body => body.captures
  | .concat _ items => Tree.capturesOf items
  | .alternation _ branches => Tree.capturesOf branches
  | _ => []

/-- The groups of several trees. -/
def Tree.capturesOf : List Tree → List (Nat × Option String)
  | [] => []
  | tree :: trees => tree.captures ++ Tree.capturesOf trees

end

theorem Tree.mem_capturesOf {g : Nat × Option String} {trees : List Tree} :
    g ∈ Tree.capturesOf trees ↔ ∃ tree ∈ trees, g ∈ tree.captures := by
  induction trees with
  | nil => simp [Tree.capturesOf]
  | cons tree trees ih => simp [Tree.capturesOf, ih]

/-- The groups read so far. -/
def Partial.captures (p : Partial) : List (Nat × Option String) :=
  Tree.capturesOf p.items ++ Tree.capturesOf p.branches

section Partial

variable {p : Partial} {g : Nat × Option String}

theorem Partial.mem_captures_branch {rest : List Char} :
    g ∈ (p.branch rest).captures ↔ g ∈ Tree.capturesOf p.items := by
  unfold branch
  dsimp only
  split
  next h => simp [h, Tree.captures, Tree.capturesOf]
  next h => simp [h, Tree.capturesOf]
  next => simp [Tree.captures, Tree.mem_capturesOf]

theorem Partial.mem_captures_finish {rest : List Char} (h : g ∈ (p.finish rest).captures) :
    g ∈ p.captures := by
  rw [captures, List.mem_append]
  unfold finish at h
  split at h
  · exact .inl (mem_captures_branch.1 h)
  · rw [Tree.captures, Tree.mem_capturesOf] at h
    obtain ⟨tree, htree, hg⟩ := h
    rcases List.mem_cons.1 (List.mem_reverse.1 htree) with rfl | htree
    · exact .inl (mem_captures_branch.1 hg)
    · exact .inr (Tree.mem_capturesOf.2 ⟨tree, htree, hg⟩)

theorem Partial.captures_push (p : Partial) (item : Tree) :
    (p.push item).captures = item.captures ++ p.captures := by
  rw [captures, captures, push, Tree.capturesOf, List.append_assoc]

theorem Partial.mem_captures_nextBranch {rest : List Char}
    (h : g ∈ (p.nextBranch rest).captures) : g ∈ p.captures := by
  rw [captures, nextBranch, Tree.capturesOf, Tree.capturesOf, List.nil_append, List.mem_append,
    mem_captures_branch] at h
  rwa [captures, List.mem_append]

theorem Partial.captures_of_popOperand {rest : List Char} {body : Tree} {q : Partial}
    (h : p.popOperand rest = .ok (body, q)) : p.captures = body.captures ++ q.captures := by
  unfold popOperand at h
  split at h
  · cases h
  · cases h
  next item items _ hitems =>
    cases h
    rw [captures, captures, hitems, Tree.capturesOf, List.append_assoc]

end Partial

theorem captures_of_bracketClass {verbose : Bool} {cs rest : List Char} {item : Tree}
    (h : bracketClass verbose cs = .ok (item, rest)) : item.captures = [] := by
  obtain ⟨opening, -, h⟩ := Except.bind_eq_ok_iff.1 h
  obtain ⟨⟨set, rest⟩, -, h⟩ := Except.bind_eq_ok_iff.1 h
  dsimp only at h
  split at h <;> cases h <;> rfl

/-! ## Fresh names -/

/-- Groups that share no name, neither with each other nor with those of `before`; `after` has the
names of both. -/
structure Fresh (before : List String) (new : List (Nat × Option String)) (after : List String) :
    Prop where
  unique : ∀ i j name, (i, some name) ∈ new → (j, some name) ∈ new → i = j
  notMem : ∀ i name, (i, some name) ∈ new → name ∉ before
  mem : ∀ i name, (i, some name) ∈ new → name ∈ after
  subset : before ⊆ after

namespace Fresh

variable {names names' after : List String} {new new' : List (Nat × Option String)}

theorem nil (names : List String) : Fresh names [] names :=
  ⟨nofun, nofun, nofun, List.Subset.refl names⟩

theorem trans (h : Fresh names new names') (h' : Fresh names' new' after) :
    Fresh names (new ++ new') after where
  unique i j name hi hj := by
    rcases List.mem_append.1 hi with hi | hi <;> rcases List.mem_append.1 hj with hj | hj
    · exact h.unique i j name hi hj
    · exact absurd (h.mem i name hi) (h'.notMem j name hj)
    · exact absurd (h.mem j name hj) (h'.notMem i name hi)
    · exact h'.unique i j name hi hj
  notMem i name hi := by
    rcases List.mem_append.1 hi with hi | hi
    · exact h.notMem i name hi
    · exact fun hmem => h'.notMem i name hi (h.subset hmem)
  mem i name hi := by
    rcases List.mem_append.1 hi with hi | hi
    · exact h'.subset (h.mem i name hi)
    · exact h'.mem i name hi
  subset := List.Subset.trans h.subset h'.subset

/-- One group more, which has no name or a new one. -/
theorem singleton (index : Nat) {name : Option String} (h : ∀ n ∈ name, n ∉ names) :
    Fresh names [(index, name)] (name.toList ++ names) where
  unique i j n hi hj := by
    cases List.mem_singleton.1 hi
    cases List.mem_singleton.1 hj
    rfl
  notMem i n hi := by
    cases List.mem_singleton.1 hi
    exact h n rfl
  mem i n hi := by
    cases List.mem_singleton.1 hi
    exact List.mem_append_left _ (List.mem_singleton.2 rfl)
  subset := List.subset_append_right _ _

end Fresh

/-- The names that a reader has read. -/
def Reader.nameList (r : Reader) : List String := r.names.map (·.1)

theorem notMem_of_groupName {names : List (String × Extent)} {cs rest : List Char} {name : String}
    {extent : Extent} (h : groupName names cs = .ok (name, extent, rest)) :
    name ∉ names.map (·.1) := by
  obtain ⟨⟨chars, rest'⟩, -, h⟩ := Except.bind_eq_ok_iff.1 h
  dsimp only at h
  split at h
  · cases h
  · split at h
    · cases h
    next hfind =>
      cases h
      rw [List.find?_eq_none] at hfind
      intro hmem
      obtain ⟨x, hx, hname⟩ := List.mem_map.1 hmem
      exact hfind x hx (by simpa using hname)

/-- A group is not given a name that was read before. -/
theorem notMem_of_groupOpening {verbose : Bool} {names : List (String × Extent)}
    {cs rest : List Char} {name : Option (String × Extent)}
    (h : groupOpening verbose names cs = .ok (.capture name, rest)) :
    ∀ n ∈ name.map (·.1), n ∉ names.map (·.1) := by
  unfold groupOpening at h
  dsimp only at h
  split at h
  · cases h
  · split at h
    next =>
      obtain ⟨⟨n, extent, rest'⟩, hname, h⟩ := Except.bind_eq_ok_iff.1 h
      cases h
      rintro _ ⟨⟩
      exact notMem_of_groupName hname
    next =>
      obtain ⟨⟨n, extent, rest'⟩, hname, h⟩ := Except.bind_eq_ok_iff.1 h
      cases h
      rintro _ ⟨⟩
      exact notMem_of_groupName hname
    next =>
      -- Flags open a directive or a group that captures nothing.
      split at h
      · cases h
      · obtain ⟨⟨switches, rest'⟩, -, h⟩ := Except.bind_eq_ok_iff.1 h
        split at h
        · split at h <;> cases h
        · cases h
    next =>
      cases h
      exact nofun

/-! ## Readings -/

/-- The groups of a sequence are those read so far and new ones, whose names are new. -/
theorem Parses.exists_captures {opened : Option Extent} {p : Partial} {r after : Reader}
    {tree : Tree} (h : Parses opened p r tree after) :
    ∃ new, (∀ g ∈ tree.captures, g ∈ p.captures ∨ g ∈ new) ∧
      Fresh r.nameList new after.nameList := by
  induction h with
  | done => exact ⟨[], fun g hg => .inl (Partial.mem_captures_finish hg), .nil _⟩
  | close => exact ⟨[], fun g hg => .inl (Partial.mem_captures_finish hg), .nil _⟩
  | branch _ _ ih =>
    obtain ⟨new, hnew, hfresh⟩ := ih
    exact ⟨new, fun g hg => (hnew g hg).imp_left Partial.mem_captures_nextBranch, hfresh⟩
  | directive _ _ _ ih =>
    obtain ⟨new, hnew, hfresh⟩ := ih
    exact ⟨new, hnew, hfresh⟩
  | @capture opened p r cs name rest body inner tree after _ hopening _ _ ihbody ih =>
    obtain ⟨new, hnew, hfresh⟩ := ihbody
    obtain ⟨new', hnew', hfresh'⟩ := ih
    have hname : (name.toList ++ r.names).map (·.1) =
        (name.map (·.1)).toList ++ r.names.map (·.1) := by
      cases name <;> rfl
    have hsingle := Fresh.singleton (r.groups + 1) (notMem_of_groupOpening hopening)
    rw [← hname] at hsingle
    refine ⟨(r.groups + 1, name.map (·.1)) :: (new ++ new'), fun g hg => ?_,
      hsingle.trans (hfresh.trans hfresh')⟩
    rw [List.mem_cons, List.mem_append]
    rcases hnew' g hg with hg | hg
    · rw [Partial.captures_push, Tree.captures, List.cons_append, List.mem_cons,
        List.mem_append] at hg
      rcases hg with hg | hg | hg
      · exact .inr (.inl hg)
      · exact .inr (.inr (.inl ((hnew g hg).resolve_left nofun)))
      · exact .inl hg
    · exact .inr (.inr (.inr hg))
  | plain _ _ _ _ ihbody ih =>
    obtain ⟨new, hnew, hfresh⟩ := ihbody
    obtain ⟨new', hnew', hfresh'⟩ := ih
    refine ⟨new ++ new', fun g hg => ?_, hfresh.trans hfresh'⟩
    rw [List.mem_append]
    rcases hnew' g hg with hg | hg
    · rw [Partial.captures_push, Tree.captures, List.mem_append] at hg
      rcases hg with hg | hg
      · exact .inr (.inl ((hnew g hg).resolve_left nofun))
      · exact .inl hg
    · exact .inr (.inr hg)
  | bracket _ hitem _ ih =>
    obtain ⟨new, hnew, hfresh⟩ := ih
    refine ⟨new, fun g hg => ?_, hfresh⟩
    have := hnew g hg
    rwa [Partial.captures_push, captures_of_bracketClass hitem] at this
  | repetition _ _ hpop _ _ ih =>
    obtain ⟨new, hnew, hfresh⟩ := ih
    refine ⟨new, fun g hg => ?_, hfresh⟩
    have := hnew g hg
    rwa [Partial.captures_push, Tree.captures, ← Partial.captures_of_popOperand hpop] at this
  | atom _ _ _ _ ih =>
    obtain ⟨new, hnew, hfresh⟩ := ih
    exact ⟨new, hnew, hfresh⟩

/-! ## Expressions -/

namespace Expr

variable {g : Nat × Option String}

theorem mem_captures_factors {e : Expr} :
    g ∈ e.captures ↔ ∃ part ∈ e.factors, g ∈ part.captures := by
  induction e with
  | empty => simp [captures, factors]
  | seq a b iha ihb => simp [captures, factors, iha, ihb, or_and_right, exists_or]
  | chars | look | iterate | capture | alt => simp [factors]

theorem mem_captures_branches {e : Expr} :
    g ∈ e.captures ↔ ∃ branch ∈ e.branches, g ∈ branch.captures := by
  induction e with
  | alt a b iha ihb => simp [captures, branches, iha, ihb, or_and_right, exists_or]
  | chars | look | iterate | capture | seq | empty => simp [branches]

theorem mem_captures_ofFactors {es : List Expr} :
    g ∈ (ofFactors es).captures ↔ ∃ e ∈ es, g ∈ e.captures := by
  induction es with
  | nil => simp [ofFactors, captures]
  | cons e es ih =>
    cases es with
    | nil => simp [ofFactors]
    | cons d ds => simp [ofFactors, captures, ih]

theorem mem_captures_ofAlternatives {es : List Expr}
    (h : g ∈ (ofBranches.ofAlternatives es).captures) : ∃ e ∈ es, g ∈ e.captures := by
  induction es with
  | nil => simp [ofBranches.ofAlternatives, captures] at h
  | cons e es ih =>
    cases es with
    | nil => exact ⟨e, List.mem_cons_self, h⟩
    | cons d ds =>
      rw [ofBranches.ofAlternatives, captures, List.mem_append] at h
      · rcases h with h | h
        · exact ⟨e, List.mem_cons_self, h⟩
        · obtain ⟨e', he', h⟩ := ih h
          exact ⟨e', List.mem_cons_of_mem e he', h⟩
      · exact nofun

theorem mem_captures_ofBranches {es : List Expr} (h : g ∈ (ofBranches es).captures) :
    ∃ e ∈ es, g ∈ e.captures := by
  unfold ofBranches at h
  split at h
  · cases h
  · exact mem_captures_ofAlternatives h

theorem mem_captures_sequence {es : List Expr} (h : g ∈ (sequence es).captures) :
    ∃ e ∈ es, g ∈ e.captures := by
  obtain ⟨part, hpart, hg⟩ := mem_captures_ofFactors.1 h
  obtain ⟨e, he, hpart⟩ := List.mem_flatMap.1 hpart
  exact ⟨e, he, mem_captures_factors.2 ⟨part, hpart, hg⟩⟩

/-- What is left of a sequence without the parts that it shares is a part of it. -/
theorem mem_captures_rest {e : Expr} {n : Nat}
    (h : g ∈ (ofFactors ((parts e.factors).drop n).flatten).captures) : g ∈ e.captures := by
  obtain ⟨part, hpart, hg⟩ := mem_captures_ofFactors.1 h
  have hsubset := (List.drop_subset n (parts e.factors))
  obtain ⟨p, hp, hpart⟩ := List.mem_flatten.1 hpart
  refine mem_captures_factors.2 ⟨part, ?_, hg⟩
  rw [← flatten_parts e.factors]
  exact List.mem_flatten.2 ⟨p, hsubset hp, hpart⟩

theorem mem_captures_choice {es : List Expr} (h : g ∈ (choice es).captures) :
    ∃ e ∈ es, g ∈ e.captures := by
  suffices ∃ branch ∈ es.flatMap branches, g ∈ branch.captures by
    obtain ⟨branch, hbranch, hg⟩ := this
    obtain ⟨e, he, hbranch⟩ := List.mem_flatMap.1 hbranch
    exact ⟨e, he, mem_captures_branches.2 ⟨branch, hbranch, hg⟩⟩
  obtain ⟨part, hpart, hg⟩ := mem_captures_ofFactors.1 h
  rcases List.mem_append.1 hpart with hpart | hpart
  · obtain ⟨branch, hbranch, hpart⟩ := mem_of_mem_sharedParts hpart
    exact ⟨branch, hbranch, mem_captures_factors.2 ⟨part, hpart, hg⟩⟩
  · obtain ⟨e, he, hg⟩ := mem_captures_ofBranches (mem_captures_factors.2 ⟨part, hpart, hg⟩)
    obtain ⟨rest, hrest, he⟩ := List.mem_flatMap.1 he
    obtain ⟨s, hs, rfl⟩ := List.mem_map.1 hrest
    obtain ⟨branch, hbranch, rfl⟩ := List.mem_map.1 hs
    exact ⟨branch, hbranch, mem_captures_rest (mem_captures_branches.2 ⟨e, he, hg⟩)⟩

theorem mem_captures_repeated {min : Nat} {max : Option Nat} {greedy : Bool} {body : Expr}
    (h : g ∈ (repeated min max greedy body).captures) : g ∈ body.captures := by
  unfold repeated at h
  generalize (if body.maxLength = some 0 then _ else _ : Nat × Option Nat) = counts at h
  obtain ⟨min, max⟩ := counts
  dsimp only at h
  split_ifs at h
  · cases h
  · exact h
  · exact h

end Expr

mutual

/-- The groups of an expression are those of its tree. -/
theorem Tree.captures_toExpr {m m' : Mode} {e : Expr} {g : Nat × Option String} :
    ∀ {tree : Tree}, tree.toExpr m = .ok (e, m') → g ∈ e.captures → g ∈ tree.captures
  | .empty _, h, hg => by
    cases h
    cases hg
  | .flags _ _, h, hg => by
    cases h
    cases hg
  | .atom a, h, hg => by
    obtain ⟨e, ha, h⟩ := Except.bind_eq_ok_iff.1 h
    cases h
    obtain ⟨set, _, rfl⟩ | ⟨l, rfl⟩ := Mode.eq_of_atom ha <;> cases hg
  | .bracketed _ _ _, h, hg => by
    obtain ⟨set, -, h⟩ := Except.bind_eq_ok_iff.1 h
    obtain ⟨set', -, h⟩ := Except.bind_eq_ok_iff.1 h
    cases h
    cases hg
  | .repetition _ _ _ _ body, h, hg => by
    obtain ⟨⟨e, m⟩, hbody, h⟩ := Except.bind_eq_ok_iff.1 h
    cases h
    rw [Tree.captures]
    exact Tree.captures_toExpr hbody (Expr.mem_captures_repeated hg)
  | .group _ (.capture _ _) body, h, hg => by
    obtain ⟨⟨e, m⟩, hbody, h⟩ := Except.bind_eq_ok_iff.1 h
    cases h
    rcases List.mem_cons.1 hg with rfl | hg
    · exact List.mem_cons_self
    · exact List.mem_cons_of_mem _ (Tree.captures_toExpr hbody hg)
  | .group _ (.plain _) body, h, hg => by
    obtain ⟨⟨e, m⟩, hbody, h⟩ := Except.bind_eq_ok_iff.1 h
    cases h
    rw [Tree.captures]
    exact Tree.captures_toExpr hbody hg
  | .concat _ items, h, hg => by
    obtain ⟨⟨es, m⟩, hitems, h⟩ := Except.bind_eq_ok_iff.1 h
    cases h
    obtain ⟨e, he, hg⟩ := Expr.mem_captures_sequence hg
    exact Tree.captures_toExprs hitems he hg
  | .alternation _ branches, h, hg => by
    obtain ⟨⟨es, m⟩, hbranches, h⟩ := Except.bind_eq_ok_iff.1 h
    cases h
    obtain ⟨e, he, hg⟩ := Expr.mem_captures_choice hg
    exact Tree.captures_toExprs hbranches he hg

theorem Tree.captures_toExprs {m m' : Mode} {es : List Expr} {e : Expr}
    {g : Nat × Option String} : ∀ {trees : List Tree}, Tree.toExprs m trees = .ok (es, m') →
      e ∈ es → g ∈ e.captures → g ∈ Tree.capturesOf trees
  | [], h, he, _ => by
    cases h
    cases he
  | tree :: trees, h, he, hg => by
    obtain ⟨⟨e', m⟩, htree, h⟩ := Except.bind_eq_ok_iff.1 h
    obtain ⟨⟨es', m⟩, htrees, h⟩ := Except.bind_eq_ok_iff.1 h
    cases h
    rw [Tree.capturesOf, List.mem_append]
    rcases List.mem_cons.1 he with rfl | he
    · exact .inl (Tree.captures_toExpr htree hg)
    · exact .inr (Tree.captures_toExprs htrees he hg)

end

/-! ## Compiled patterns -/

theorem Expr.mem_captures_of_groupNames {e : Expr} {i : Nat} {name : String}
    (h : e.groupNames[i]? = some (some name)) : (i, some name) ∈ e.captures := by
  rw [groupNames, List.getElem?_map, Option.map_eq_some_iff] at h
  obtain ⟨j, hj, h⟩ := h
  obtain ⟨hi, rfl⟩ := List.getElem?_eq_some_iff.1 hj
  rw [List.getElem_range] at h
  obtain ⟨⟨k, n⟩, hfind, rfl⟩ := Option.bind_eq_some_iff.1 h
  have hk := List.find?_some hfind
  rw [decide_eq_true_eq] at hk
  exact hk ▸ List.mem_of_find?_eq_some hfind

/-- A name stands for one group of a compiled pattern. -/
theorem eq_of_groupNames {limits : Limits} {mode : Mode} {source : String} {r : Regex}
    (h : compile limits mode source = .ok r) {i j : Nat} {name : String}
    (hi : r.groupNames[i]? = some (some name)) (hj : r.groupNames[j]? = some (some name)) :
    i = j := by
  obtain ⟨tree, after, e, m, hparses, he, rfl⟩ := exists_of_compile h
  obtain ⟨new, hnew, hfresh⟩ := hparses.exists_captures
  have hmem : ∀ k, e.groupNames[k]? = some (some name) → (k, some name) ∈ new := fun k hk =>
    (hnew _ (Tree.captures_toExpr he (Expr.mem_captures_of_groupNames hk))).resolve_left nofun
  exact hfresh.unique i j name (hmem i hi) (hmem j hj)

theorem groupNames_ne_nil {limits : Limits} {mode : Mode} {source : String} {r : Regex}
    (h : compile limits mode source = .ok r) : r.groupNames ≠ [] := by
  obtain ⟨tree, after, e, m, -, -, rfl⟩ := exists_of_compile h
  simp [Expr.groupNames]

end Munch.Regex
