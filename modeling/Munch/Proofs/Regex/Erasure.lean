import Munch.Proofs.Regex.Twins
import Munch.Proofs.Regex.WellFormed

/-!
# Patterns without their groups

What a tree and the same tree without its groups are built into.

* `Tree.erasesTo`: whether a tree is another one without its groups. The places of the trees differ,
  for the group signs are spelt differently, and places go into errors only (`ClassSet.agree_set`,
  `Mode.agree_atom`).
* `Tree.spots`: where groups can make a difference. A group stands in the way of what the smart
  constructors put together, so that they take out more in front of a choice without it, and it
  hides that what it holds has a length.
* `Tree.MakeTwins`: whether the expressions of two trees are twins. They are if the groups are
  harmless at each of these spots (`Tree.makeTwins`).
-/

namespace Munch.Regex

/-! ## Trees without groups -/

/-- Whether two literals are the same but for their places. -/
def Literal.same (l l' : Literal) : Bool := l.char = l'.char && l.asByte = l'.asByte

/-- Whether two atoms are the same but for their places. -/
def Atom.same : Atom → Atom → Bool
  | literal l, literal l' => l.same l'
  | letterClass _ kind negated, letterClass _ kind' negated' => kind = kind' && negated = negated'
  | property _ query negated, property _ query' negated' => query = query' && negated = negated'
  | assertion _ kind, assertion _ kind' => kind = kind'
  | dot _, dot _ => true
  | _, _ => false

mutual

/-- Whether two classes are the same but for their places. -/
def ClassSet.same : ClassSet → ClassSet → Bool
  | .empty _, .empty _ => true
  | .literal l, .literal l' => l.same l'
  | .range _ lo hi, .range _ lo' hi' => lo.same lo' && hi.same hi'
  | .namedClass _ kind negated, .namedClass _ kind' negated' => kind = kind' && negated = negated'
  | .letterClass _ kind negated, .letterClass _ kind' negated' => kind = kind' && negated = negated'
  | .property _ query negated, .property _ query' negated' => query = query' && negated = negated'
  | .bracketed _ negated set, .bracketed _ negated' set' => negated = negated' && set.same set'
  | .union _ items, .union _ items' => ClassSet.sameAll items items'
  | .operation _ op left right, .operation _ op' left' right' =>
    op = op' && left.same left' && right.same right'
  | _, _ => false

/-- The same for lists of classes. -/
def ClassSet.sameAll : List ClassSet → List ClassSet → Bool
  | [], [] => true
  | item :: items, item' :: items' => item.same item' && ClassSet.sameAll items items'
  | _, _ => false

end

mutual

/-- Whether the second tree is the first with each group that captures made a plain one, and the
rest the same but for its places. -/
def Tree.erasesTo : Tree → Tree → Bool
  | .empty _, .empty _ => true
  | .flags _ switches, .flags _ switches' => switches = switches'
  | .atom a, .atom a' => a.same a'
  | .bracketed _ negated set, .bracketed _ negated' set' => negated = negated' && set.same set'
  | .repetition _ min max greedy body, .repetition _ min' max' greedy' body' =>
    min = min' && max = max' && greedy = greedy' && body.erasesTo body'
  | .group _ (.capture _ _) body, .group _ kind' body' => kind' = .plain [] && body.erasesTo body'
  | .group _ (.plain switches) body, .group _ kind' body' =>
    kind' = .plain switches && body.erasesTo body'
  | .concat _ items, .concat _ items' => Tree.eraseTo items items'
  | .alternation _ branches, .alternation _ branches' => Tree.eraseTo branches branches'
  | _, _ => false

/-- The same for lists of trees. -/
def Tree.eraseTo : List Tree → List Tree → Bool
  | [], [] => true
  | tree :: trees, tree' :: trees' => tree.erasesTo tree' && Tree.eraseTo trees trees'
  | _, _ => false

end

/-! ## What groups keep apart -/

/-- What is read in two ways, with groups and without, where groups can make a difference. -/
inductive Spot where
  /-- What is chosen from, perhaps where one may come again at one place of the text. -/
  | choice (again : Bool) (branches branches' : List Expr)
  /-- What is repeated any number of times. -/
  | rounds (again : Bool) (body body' : Expr)

/-- Whether groups make no difference. -/
def Spot.Harmless : Spot → Prop
  | choice again branches branches' => Expr.Harmless again branches branches'
  | rounds again body body' => Expr.SameRounds again body body'

/-- The expression of a tree. -/
def Tree.expr (m : Mode) (tree : Tree) : Expr :=
  match tree.toExpr m with
  | .ok (e, _) => e
  | .error _ => .empty

/-- The expressions of trees that are read one after the other. -/
def Tree.exprs (m : Mode) (trees : List Tree) : List Expr :=
  match Tree.toExprs m trees with
  | .ok (es, _) => es
  | .error _ => []

/-- The mode behind a tree. -/
def Tree.modeAfter (m : Mode) (tree : Tree) : Mode :=
  match tree.toExpr m with
  | .ok (_, m) => m
  | .error _ => m

mutual

/-- The choices of a tree and of the tree without its groups, and what they repeat from no round
on without a bound. Within what is repeated without a bound one may come again at one place. -/
def Tree.spots (again : Bool) (m : Mode) : Tree → Tree → List Spot
  | .repetition _ min max _ body, .repetition _ _ _ _ body' =>
    body.spots (again || max.isNone) m body' ++
      if min = 0 ∧ max = none then [.rounds again (body.expr m) (body'.expr m)] else []
  | .group _ (.capture _ _) body, .group _ _ body' => body.spots again m body'
  | .group _ (.plain switches) body, .group _ _ body' => body.spots again (m.setAll switches) body'
  | .concat _ items, .concat _ items' => Tree.allSpots again m items items'
  | .alternation _ branches, .alternation _ branches' =>
    Tree.allSpots again m branches branches' ++
      [.choice again (Tree.exprs m branches) (Tree.exprs m branches')]
  | _, _ => []

/-- The same for trees that are read one after the other. -/
def Tree.allSpots (again : Bool) (m : Mode) : List Tree → List Tree → List Spot
  | tree :: trees, tree' :: trees' =>
    tree.spots again m tree' ++ Tree.allSpots again (tree.modeAfter m) trees trees'
  | _, _ => []

end

/-! ## Sets -/

section Agree

variable {m : Mode}

theorem Mode.agree_allow (e e' : Extent) (set : CharSet) :
    (m.allow e set).Agree (m.allow e' set) := by
  rintro a b ha hb
  unfold Mode.allow at ha hb
  split at ha
  · rw [if_pos ‹_›] at hb
    exact Except.ok.inj (ha.symm.trans hb)
  · cases ha

theorem Mode.agree_property (e e' : Extent) (query : PropertyQuery) (negated : Bool) :
    (m.property e query negated).Agree (m.property e' query negated) := by
  unfold Mode.property
  split
  · split
    · exact agree_allow _ _ _
    · exact nofun
  · exact nofun

theorem Mode.agree_character {l l' : Literal} (h : l.same l') :
    (m.character l).Agree (m.character l') := by
  rw [Literal.same, Bool.and_eq_true, decide_eq_true_eq, decide_eq_true_eq] at h
  unfold Mode.character
  rw [h.1, h.2]
  split
  · exact nofun
  · exact .refl _

theorem Mode.agree_member {l l' : Literal} (h : l.same l') : (m.member l).Agree (m.member l') := by
  refine (agree_character h).bind fun c => ?_
  split
  · exact nofun
  · exact .refl _

mutual

theorem ClassSet.agree_set : ∀ {set set' : ClassSet}, set.same set' →
    (set.set m).Agree (set'.set m)
  | .empty _, set', h => by
    cases set' with
    | empty => exact .refl _
    | _ => cases h
  | .literal l, set', h => by
    cases set' with
    | literal l' => exact (Mode.agree_member h).bind fun c => .refl _
    | _ => cases h
  | .range _ lo hi, set', h => by
    cases set' with
    | range _ lo' hi' =>
      rw [ClassSet.same, Bool.and_eq_true] at h
      exact (Mode.agree_member h.1).bind fun lo => (Mode.agree_member h.2).bind fun hi => .refl _
    | _ => cases h
  | .namedClass _ kind negated, set', h => by
    cases set' with
    | namedClass _ kind' negated' =>
      rw [ClassSet.same, Bool.and_eq_true, decide_eq_true_eq, decide_eq_true_eq] at h
      obtain ⟨rfl, rfl⟩ := h
      exact Mode.agree_allow _ _ _
    | _ => cases h
  | .letterClass _ kind negated, set', h => by
    cases set' with
    | letterClass _ kind' negated' =>
      rw [ClassSet.same, Bool.and_eq_true, decide_eq_true_eq, decide_eq_true_eq] at h
      obtain ⟨rfl, rfl⟩ := h
      exact Mode.agree_allow _ _ _
    | _ => cases h
  | .property _ query negated, set', h => by
    cases set' with
    | property _ query' negated' =>
      rw [ClassSet.same, Bool.and_eq_true, decide_eq_true_eq, decide_eq_true_eq] at h
      obtain ⟨rfl, rfl⟩ := h
      exact Mode.agree_property _ _ _ _
    | _ => cases h
  | .bracketed _ negated set, set', h => by
    cases set' with
    | bracketed _ negated' set' =>
      rw [ClassSet.same, Bool.and_eq_true, decide_eq_true_eq] at h
      obtain ⟨rfl, h⟩ := h
      exact (ClassSet.agree_set h).bind fun set => Mode.agree_allow _ _ _
    | _ => cases h
  | .union _ items, set', h => by
    cases set' with
    | union _ items' => exact ClassSet.agree_unionSet h
    | _ => cases h
  | .operation _ op left right, set', h => by
    cases set' with
    | operation _ op' left' right' =>
      rw [ClassSet.same, Bool.and_eq_true, Bool.and_eq_true, decide_eq_true_eq] at h
      obtain ⟨⟨rfl, hleft⟩, hright⟩ := h
      exact (ClassSet.agree_set hleft).bind fun left =>
        (ClassSet.agree_set hright).bind fun right => .refl _
    | _ => cases h

theorem ClassSet.agree_unionSet : ∀ {items items' : List ClassSet}, ClassSet.sameAll items items' →
    (ClassSet.unionSet m items).Agree (ClassSet.unionSet m items')
  | [], items', h => by
    cases items' with
    | nil => exact .refl _
    | cons => cases h
  | item :: items, items', h => by
    cases items' with
    | nil => cases h
    | cons item' items' =>
      rw [ClassSet.sameAll, Bool.and_eq_true] at h
      exact (ClassSet.agree_set h.1).bind fun set =>
        (ClassSet.agree_unionSet h.2).bind fun sets => .refl _

end

theorem Mode.agree_atom {a a' : Atom} (h : a.same a') : (m.atom a).Agree (m.atom a') := by
  cases a with
  | literal l =>
    cases a' with
    | literal l' =>
      exact ((agree_character h).bind fun c => .refl _).bind fun set => .refl _
    | _ => cases h
  | letterClass _ kind negated =>
    cases a' with
    | letterClass _ kind' negated' =>
      rw [Atom.same, Bool.and_eq_true, decide_eq_true_eq, decide_eq_true_eq] at h
      obtain ⟨rfl, rfl⟩ := h
      exact (agree_allow _ _ _).bind fun set => .refl _
    | _ => cases h
  | property _ query negated =>
    cases a' with
    | property _ query' negated' =>
      rw [Atom.same, Bool.and_eq_true, decide_eq_true_eq, decide_eq_true_eq] at h
      obtain ⟨rfl, rfl⟩ := h
      exact (agree_property _ _ _ _).bind fun set => .refl _
    | _ => cases h
  | assertion _ kind =>
    cases a' with
    | assertion _ kind' =>
      rw [Atom.same, decide_eq_true_eq] at h
      rw [h]
      exact .refl _
    | _ => cases h
  | dot _ =>
    cases a' with
    | dot _ =>
      refine Except.Agree.bind ?_ fun set => .refl _
      unfold Mode.dot
      split
      · exact .refl _
      · exact nofun
    | _ => cases h

end Agree

/-! ## Twins of expressions -/

theorem Tree.length_toExprs {m m' : Mode} {es : List Expr} {trees : List Tree}
    (h : Tree.toExprs m trees = .ok (es, m')) : es.length = trees.length := by
  induction trees generalizing m es with
  | nil =>
    cases h
    rfl
  | cons tree trees ih =>
    obtain ⟨⟨e, me⟩, -, h⟩ := Except.bind_eq_ok_iff.1 h
    obtain ⟨⟨es, mes⟩, hes, h⟩ := Except.bind_eq_ok_iff.1 h
    cases h
    rw [List.length_cons, List.length_cons, ih hes]

/-- Whether two trees are made into twins, with the same mode behind them. -/
def Tree.MakeTwins (again : Bool) (m : Mode) (tree tree' : Tree) : Prop :=
  ∀ e e' m₁ m₂, tree.toExpr m = .ok (e, m₁) → tree'.toExpr m = .ok (e', m₂) →
    e.Twin again e' ∧ m₁ = m₂

/-- The same for trees that are read one after the other. -/
def Tree.AllMakeTwins (again : Bool) (m : Mode) (trees trees' : List Tree) : Prop :=
  ∀ es es' m₁ m₂, Tree.toExprs m trees = .ok (es, m₁) → Tree.toExprs m trees' = .ok (es', m₂) →
    List.Forall₂ (Expr.Twin again) es es' ∧ m₁ = m₂

section MakeTwins

variable {again : Bool} {m : Mode} {x x' : Extent} {tree tree' body body' : Tree}
  {trees trees' : List Tree}

/-- Trees that are made into the same expression, which has no groups. -/
theorem Tree.MakeTwins.of_agree (h : (tree.toExpr m).Agree (tree'.toExpr m))
    (hplain : ∀ e m₁, tree.toExpr m = .ok (e, m₁) → e.Twin again e) :
    tree.MakeTwins again m tree' := by
  intro e e' m₁ m₂ he he'
  cases h _ _ he he'
  exact ⟨hplain e m₁ he, rfl⟩

theorem Tree.makeTwins_empty : MakeTwins again m (.empty x) (.empty x') := by
  refine .of_agree (.refl _) fun e m₁ h => ?_
  cases h
  exact .leaf rfl rfl rfl

theorem Tree.makeTwins_flags (switches : List FlagSwitch) :
    MakeTwins again m (.flags x switches) (.flags x' switches) := by
  refine .of_agree (.refl _) fun e m₁ h => ?_
  cases h
  exact .leaf rfl rfl rfl

theorem Tree.makeTwins_atom {a a' : Atom} (hsame : a.same a') :
    MakeTwins again m (.atom a) (.atom a') := by
  refine .of_agree ((Mode.agree_atom hsame).bind fun e => .refl _) fun e m₁ h => ?_
  obtain ⟨e, ha, h⟩ := Except.bind_eq_ok_iff.1 h
  cases h
  obtain ⟨set, asBytes, rfl⟩ | ⟨l, rfl⟩ := Mode.eq_of_atom ha <;> exact .leaf rfl rfl rfl

theorem Tree.makeTwins_bracketed {negated : Bool} {set set' : ClassSet} (hsame : set.same set') :
    MakeTwins again m (.bracketed x negated set) (.bracketed x' negated set') := by
  refine .of_agree ((ClassSet.agree_set hsame).bind fun set =>
    (Mode.agree_allow _ _ _).bind fun set => .refl _) fun e m₁ h => ?_
  obtain ⟨set, -, h⟩ := Except.bind_eq_ok_iff.1 h
  obtain ⟨set, -, h⟩ := Except.bind_eq_ok_iff.1 h
  cases h
  exact .leaf rfl rfl rfl

namespace Tree.MakeTwins

theorem repetition {min : Nat} {max : Option Nat} {greedy : Bool}
    (hbody : body.MakeTwins (again || max.isNone) m body') (hcounts : max.all (min ≤ ·))
    (hrounds : min = 0 ∧ max = none → (Spot.rounds again (body.expr m) (body'.expr m)).Harmless) :
    MakeTwins again m (.repetition x min max greedy body)
      (.repetition x' min max greedy body') := by
  intro e e' m₁ m₂ h h'
  obtain ⟨⟨b, mb⟩, hb, h⟩ := Except.bind_eq_ok_iff.1 h
  obtain ⟨⟨b', mb'⟩, hb', h'⟩ := Except.bind_eq_ok_iff.1 h'
  obtain ⟨htwin, rfl⟩ := hbody _ _ _ _ hb hb'
  cases h
  cases h'
  have hordered : ∀ n ∈ max, min ≤ n := by
    rintro n rfl
    simpa using hcounts
  rw [Tree.expr, Tree.expr, hb, hb'] at hrounds
  exact ⟨htwin.repeated hordered _ fun hmin hmax => hrounds ⟨hmin, hmax⟩, rfl⟩

/-- A group is a plain one in the other tree. -/
theorem capture {index : Nat} {name : Option String} (hbody : body.MakeTwins again m body') :
    MakeTwins again m (.group x (.capture index name) body) (.group x' (.plain []) body') := by
  intro e e' m₁ m₂ h h'
  obtain ⟨⟨b, mb⟩, hb, h⟩ := Except.bind_eq_ok_iff.1 h
  obtain ⟨⟨b', mb'⟩, hb', h'⟩ := Except.bind_eq_ok_iff.1 h'
  obtain ⟨htwin, -⟩ := hbody _ _ _ _ hb hb'
  cases h
  cases h'
  exact ⟨htwin.capture index name, rfl⟩

theorem plain {switches : List FlagSwitch}
    (hbody : body.MakeTwins again (m.setAll switches) body') :
    MakeTwins again m (.group x (.plain switches) body) (.group x' (.plain switches) body') := by
  intro e e' m₁ m₂ h h'
  obtain ⟨⟨b, mb⟩, hb, h⟩ := Except.bind_eq_ok_iff.1 h
  obtain ⟨⟨b', mb'⟩, hb', h'⟩ := Except.bind_eq_ok_iff.1 h'
  obtain ⟨htwin, -⟩ := hbody _ _ _ _ hb hb'
  cases h
  cases h'
  exact ⟨htwin, rfl⟩

theorem concat (hitems : AllMakeTwins again m trees trees') :
    MakeTwins again m (.concat x trees) (.concat x' trees') := by
  intro e e' m₁ m₂ h h'
  obtain ⟨⟨es, me⟩, hes, h⟩ := Except.bind_eq_ok_iff.1 h
  obtain ⟨⟨es', me'⟩, hes', h'⟩ := Except.bind_eq_ok_iff.1 h'
  obtain ⟨htwins, rfl⟩ := hitems _ _ _ _ hes hes'
  cases h
  cases h'
  exact ⟨.sequence htwins, rfl⟩

theorem alternation (hbranches : AllMakeTwins again m trees trees') (hlength : 2 ≤ trees.length)
    (hchoice : (Spot.choice again (exprs m trees) (exprs m trees')).Harmless) :
    MakeTwins again m (.alternation x trees) (.alternation x' trees') := by
  intro e e' m₁ m₂ h h'
  obtain ⟨⟨es, me⟩, hes, h⟩ := Except.bind_eq_ok_iff.1 h
  obtain ⟨⟨es', me'⟩, hes', h'⟩ := Except.bind_eq_ok_iff.1 h'
  obtain ⟨htwins, rfl⟩ := hbranches _ _ _ _ hes hes'
  cases h
  cases h'
  rw [exprs, exprs, hes, hes'] at hchoice
  exact ⟨.choice htwins (length_toExprs hes ▸ hlength) hchoice, rfl⟩

end Tree.MakeTwins

theorem Tree.AllMakeTwins.nil : AllMakeTwins again m [] [] := by
  intro es es' m₁ m₂ h h'
  cases h
  cases h'
  exact ⟨.nil, rfl⟩

/-- The mode behind a tree is that in which the next one is read. -/
theorem Tree.AllMakeTwins.cons (htree : tree.MakeTwins again m tree')
    (htrees : AllMakeTwins again (tree.modeAfter m) trees trees') :
    AllMakeTwins again m (tree :: trees) (tree' :: trees') := by
  intro es es' m₁ m₂ h h'
  obtain ⟨⟨e, me⟩, he, h⟩ := Except.bind_eq_ok_iff.1 h
  obtain ⟨⟨e', me'⟩, he', h'⟩ := Except.bind_eq_ok_iff.1 h'
  obtain ⟨htwin, rfl⟩ := htree _ _ _ _ he he'
  obtain ⟨⟨es, mes⟩, hes, h⟩ := Except.bind_eq_ok_iff.1 h
  obtain ⟨⟨es', mes'⟩, hes', h'⟩ := Except.bind_eq_ok_iff.1 h'
  rw [modeAfter, he] at htrees
  obtain ⟨htwins, rfl⟩ := htrees _ _ _ _ hes hes'
  cases h
  cases h'
  exact ⟨.cons htwin htwins, rfl⟩

end MakeTwins

mutual

/-- A tree and the tree without its groups are made into twins if groups make no difference. -/
theorem Tree.makeTwins {again : Bool} {m : Mode} : ∀ {tree tree' : Tree},
    tree.isWellFormed → tree.erasesTo tree' → (∀ s ∈ tree.spots again m tree', s.Harmless) →
      tree.MakeTwins again m tree'
  | .empty _, tree', _, herase, _ => by
    cases tree' with
    | empty => exact makeTwins_empty
    | _ => cases herase
  | .flags _ switches, tree', _, herase, _ => by
    cases tree' with
    | flags _ switches' =>
      rw [Tree.erasesTo, decide_eq_true_eq] at herase
      exact herase ▸ makeTwins_flags switches
    | _ => cases herase
  | .atom a, tree', _, herase, _ => by
    cases tree' with
    | atom a' => exact makeTwins_atom herase
    | _ => cases herase
  | .bracketed _ negated set, tree', _, herase, _ => by
    cases tree' with
    | bracketed _ negated' set' =>
      rw [Tree.erasesTo, Bool.and_eq_true, decide_eq_true_eq] at herase
      exact herase.1 ▸ makeTwins_bracketed herase.2
    | _ => cases herase
  | .repetition _ min max greedy body, tree', hwf, herase, hspots => by
    cases tree' with
    | repetition _ min' max' greedy' body' =>
      simp only [Tree.erasesTo, Bool.and_eq_true, decide_eq_true_eq] at herase
      obtain ⟨⟨⟨rfl, rfl⟩, rfl⟩, herase⟩ := herase
      rw [Tree.isWellFormed, Bool.and_eq_true] at hwf
      rw [Tree.spots, List.forall_mem_append] at hspots
      refine (Tree.makeTwins hwf.2 herase hspots.1).repetition hwf.1 fun hcounts => ?_
      exact hspots.2 _ (by rw [if_pos hcounts]; exact List.mem_singleton_self _)
    | _ => cases herase
  | .group _ (.capture index name) body, tree', hwf, herase, hspots => by
    cases tree' with
    | group _ kind' body' =>
      rw [Tree.isWellFormed] at hwf
      rw [Tree.erasesTo, Bool.and_eq_true, decide_eq_true_eq] at herase
      obtain ⟨rfl, herase⟩ := herase
      exact (Tree.makeTwins hwf herase hspots).capture
    | _ => cases herase
  | .group _ (.plain switches) body, tree', hwf, herase, hspots => by
    cases tree' with
    | group _ kind' body' =>
      rw [Tree.isWellFormed] at hwf
      rw [Tree.erasesTo, Bool.and_eq_true, decide_eq_true_eq] at herase
      obtain ⟨rfl, herase⟩ := herase
      exact (Tree.makeTwins hwf herase hspots).plain
    | _ => cases herase
  | .concat _ items, tree', hwf, herase, hspots => by
    cases tree' with
    | concat _ items' => exact .concat (Tree.allMakeTwins hwf herase hspots)
    | _ => cases herase
  | .alternation _ branches, tree', hwf, herase, hspots => by
    cases tree' with
    | alternation _ branches' =>
      rw [Tree.isWellFormed, Bool.and_eq_true, decide_eq_true_eq] at hwf
      rw [Tree.spots, List.forall_mem_append, List.forall_mem_singleton] at hspots
      exact .alternation (Tree.allMakeTwins hwf.2 herase hspots.1) hwf.1 hspots.2
    | _ => cases herase

/-- The same for trees that are read one after the other. -/
theorem Tree.allMakeTwins {again : Bool} {m : Mode} : ∀ {trees trees' : List Tree},
    Tree.areWellFormed trees → Tree.eraseTo trees trees' →
      (∀ s ∈ Tree.allSpots again m trees trees', s.Harmless) →
        Tree.AllMakeTwins again m trees trees'
  | [], trees', _, herase, _ => by
    cases trees' with
    | nil => exact .nil
    | cons => cases herase
  | tree :: trees, trees', hwf, herase, hspots => by
    cases trees' with
    | nil => cases herase
    | cons tree' trees' =>
      rw [Tree.areWellFormed, Bool.and_eq_true] at hwf
      rw [Tree.eraseTo, Bool.and_eq_true] at herase
      rw [Tree.allSpots, List.forall_mem_append] at hspots
      exact .cons (Tree.makeTwins hwf.1 herase.1 hspots.1)
        (Tree.allMakeTwins hwf.2 herase.2 hspots.2)

end

end Munch.Regex
