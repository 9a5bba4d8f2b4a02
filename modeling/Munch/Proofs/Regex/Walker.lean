import Mathlib.Logic.Relation
import Mathlib.Tactic.Common
import Munch.Proofs.Regex.Run

/-!
# Walkers

What a program does when it goes through a text, told by the expression that it was made of. An
instruction is not come to twice at one place, so a choice remembers where it was made last: as the
number of characters from there on. These numbers are the state of a `Walker`. Groups leave no mark.

`Expr.run` tells less, and agrees with programs only where each round of a repetition reads
something. Walkers are for all expressions: the way a program finds out empty rounds is to meet an
instruction again.

* `Expr.walker`: the walker of an expression.
* `Walker.Related`, `Walker.Sim`: two walkers whose states can be kept related, so that they give
  the same results. A walker within a loop is come to again, in the state that it was left in.
* `Walker.Alike`: what a chain of such pairs relates. Each way to build walkers keeps it, so walkers
  can be calculated with.
-/

namespace Munch.Regex

/-- What is done at the places from a given one on, in the states of a walker. -/
abbrev Walker.Next (State : Type) (p : Cursor) :=
  (q : Cursor) → q.rest.length ≤ p.rest.length → State → Option Nat

/-- A way to go through a text, to be followed by another. -/
structure Walker where
  State : Type
  /-- The state before anything was come to. -/
  fresh : State
  walk (p : Cursor) (s : State) (k : Walker.Next State p) : Option Nat

namespace Walker

/-! ## Building walkers -/

/-- Stays where it is. -/
def empty : Walker := ⟨Unit, (), fun p s k => k p (Nat.le_refl _) s⟩

/-- Goes nowhere. -/
def fail : Walker := ⟨Unit, (), fun _ _ _ => none⟩

/-- Reads one character of a set. -/
def chars (set : CharSet) : Walker where
  State := Unit
  fresh := ()
  walk p s k :=
    match h : p.rest with
    | [] => none
    | c :: cs =>
      if set.contains c then k ⟨some c, cs, p.offset + c.utf8Size⟩ (by simp [h]) s else none

/-- Goes on if a condition holds. -/
def test (l : Look) : Walker where
  State := Unit
  fresh := ()
  walk p s k := if l.holds p then k p (Nat.le_refl _) s else none

/-- One after the other. -/
def seq (A B : Walker) : Walker where
  State := A.State × B.State
  fresh := (A.fresh, B.fresh)
  walk p s k := A.walk p s.1 fun q hq s₁ =>
    B.walk q s.2 fun r hr s₂ => k r (Nat.le_trans hr hq) (s₁, s₂)

/-- The first and, if it comes to nothing, the second. -/
def orElse (A B : Walker) : Walker where
  State := A.State × B.State
  fresh := (A.fresh, B.fresh)
  walk p s k := (A.walk p s.1 fun q hq s₁ => k q hq (s₁, s.2)).or
    (B.walk p s.2 fun q hq s₂ => k q hq (s.1, s₂))

/-- Enters only once at one place. -/
def guard (A : Walker) : Walker where
  State := Option Nat × A.State
  fresh := (none, A.fresh)
  walk p s k :=
    if s.1 = some p.rest.length then none
    else A.walk p s.2 fun q hq s₂ => k q hq (some p.rest.length, s₂)

/-- A choice in the order that its greed gives. -/
def prefer (greedy : Bool) (A B : Walker) : Walker := if greedy then orElse A B else orElse B A

/-- Once or not at all. -/
def opt (greedy : Bool) (A : Walker) : Walker := guard (prefer greedy A empty)

/-- Any number of rounds behind a choice that has just been come to. A round that reads nothing
comes to the choice a second time. -/
def rounds (greedy : Bool) (A : Walker) (p : Cursor) (s : A.State)
    (k : Next (Option Nat × A.State) p) : Option Nat :=
  Expr.prefer greedy
    (A.walk p s fun q hq s =>
      if _h : q.rest.length < p.rest.length then
        rounds greedy A q s fun r hr => k r (Nat.le_trans hr hq)
      else none)
    (k p (Nat.le_refl _) (some p.rest.length, s))
termination_by p.rest.length

/-- Any number of rounds, each of which begins with a choice. -/
def loop (greedy : Bool) (A : Walker) : Walker where
  State := Option Nat × A.State
  fresh := (none, A.fresh)
  walk p s k := if s.1 = some p.rest.length then none else rounds greedy A p s.2 k

/-- One round, then any number of them. -/
def plus (greedy : Bool) (A : Walker) : Walker where
  State := Option Nat × A.State
  fresh := (none, A.fresh)
  walk p s k := A.walk p s.2 fun q hq s₂ =>
    (loop greedy A).walk q (s.1, s₂) fun r hr => k r (Nat.le_trans hr hq)

/-- A choice in front of one round and any number of them. -/
def star (greedy : Bool) (A : Walker) : Walker := opt greedy (plus greedy A)

/-- `n` times. -/
def copies (A : Walker) : Nat → Walker
  | 0 => empty
  | n + 1 => seq (copies A n) A

/-- Up to `n` times. -/
def upTo (greedy : Bool) (A : Walker) : Nat → Walker
  | 0 => empty
  | n + 1 => opt greedy (seq A (upTo greedy A n))

end Walker

/-- The walker of an expression. -/
def Expr.walker : Expr → Walker
  | empty => .empty
  | chars set _ => .chars set
  | look l => .guard (.test l)
  | capture _ _ body => body.walker
  | seq a b => .seq a.walker b.walker
  | alt a b => .guard (.orElse a.walker b.walker)
  | iterate 0 none greedy body =>
    if body.minLength.any (0 < ·) then .loop greedy body.walker else .star greedy body.walker
  | iterate (n + 1) none greedy body => .seq (.copies body.walker n) (.plus greedy body.walker)
  | iterate min (some max) greedy body =>
    .seq (.copies body.walker min) (.upTo greedy body.walker (max - min))

namespace Walker

/-! ## Walkers in related states -/

/-- Whether two walkers come to the same from states related by `E`, and are left in states related
by `Q`. The relations may depend on the number of characters that are left, and hold on if there are
fewer. Walkers that are come to again begin in the states that they were left in. -/
structure Related (again : Bool) (A B : Walker) (E Q : Nat → A.State → B.State → Prop) :
    Prop where
  fewer : ∀ {m n s t}, m ≤ n → E n s t → E m s t
  fewer' : ∀ {m n s t}, m ≤ n → Q n s t → Q m s t
  fresh : ∀ n, E n A.fresh B.fresh
  left : ∀ {n s t}, E n s t → Q n s t
  entered : again → ∀ {n s t}, Q n s t → E n s t
  walk : ∀ {p s t} {k : Next A.State p} {k' : Next B.State p}, E p.rest.length s t →
    (∀ q hq s' t', Q q.rest.length s' t' → k q hq s' = k' q hq t') → A.walk p s k = B.walk p t k'

/-- Whether the states of two walkers can be kept related as long as one goes on in the text. -/
def Sim (again : Bool) (A B : Walker) : Prop := ∃ E Q, Related again A B E Q

variable {A B C A' B' : Walker} {again : Bool}

/-- One relation for the states before and after. -/
theorem Sim.of_relation (R : Nat → A.State → B.State → Prop)
    (hfewer : ∀ m n s t, m ≤ n → R n s t → R m s t) (hfresh : ∀ n, R n A.fresh B.fresh)
    (hwalk : ∀ p s t k k', R p.rest.length s t →
      (∀ q hq s' t', R q.rest.length s' t' → k q hq s' = k' q hq t') →
        A.walk p s k = B.walk p t k') : Sim again A B :=
  ⟨R, R, fun hle => hfewer _ _ _ _ hle, fun hle => hfewer _ _ _ _ hle, hfresh, id, fun _ => id,
    fun hst hk => hwalk _ _ _ _ _ hst hk⟩

theorem Sim.refl (A : Walker) : Sim again A A := by
  refine .of_relation (fun _ => Eq) (fun _ _ _ _ _ h => h) (fun _ => rfl) ?_
  rintro p s _ k k' rfl hk
  congr
  funext q hq s
  exact hk q hq s s rfl

/-- What walkers have in common that are come to again, they have in common if they are not. -/
theorem Sim.weaken {again' : Bool} (hagain : again → again') (h : Sim again' A B) :
    Sim again A B := by
  obtain ⟨E, Q, h⟩ := h
  exact ⟨E, Q, h.fewer, h.fewer', h.fresh, h.left, fun ha => h.entered (hagain ha), h.walk⟩

/-! ### Pairs of states -/

section Both

variable {E Q : Nat → A.State → A'.State → Prop} {E' Q' : Nat → B.State → B'.State → Prop}

/-- Two relations, each for one part of the states. -/
def Both (E : Nat → A.State → A'.State → Prop) (E' : Nat → B.State → B'.State → Prop) :
    Nat → A.State × B.State → A'.State × B'.State → Prop :=
  fun n s t => E n s.1 t.1 ∧ E' n s.2 t.2

theorem Related.seq (hA : Related again A A' E Q) (hB : Related again B B' E' Q') :
    Related again (seq A B) (Walker.seq A' B') (Both E E') (Both Q Q') where
  fewer hle h := ⟨hA.fewer hle h.1, hB.fewer hle h.2⟩
  fewer' hle h := ⟨hA.fewer' hle h.1, hB.fewer' hle h.2⟩
  fresh n := ⟨hA.fresh n, hB.fresh n⟩
  left h := ⟨hA.left h.1, hB.left h.2⟩
  entered ha _ _ _ h := ⟨hA.entered ha h.1, hB.entered ha h.2⟩
  walk hst hk := by
    refine hA.walk hst.1 fun q hq s₁ t₁ h₁ => ?_
    refine hB.walk (hB.fewer hq hst.2) fun r hr s₂ t₂ h₂ => ?_
    exact hk r _ _ _ ⟨hA.fewer' hr h₁, h₂⟩

theorem Related.orElse (hA : Related again A A' E Q) (hB : Related again B B' E' Q') :
    Related again (orElse A B) (Walker.orElse A' B') (Both E E') (Both Q Q') where
  fewer hle h := ⟨hA.fewer hle h.1, hB.fewer hle h.2⟩
  fewer' hle h := ⟨hA.fewer' hle h.1, hB.fewer' hle h.2⟩
  fresh n := ⟨hA.fresh n, hB.fresh n⟩
  left h := ⟨hA.left h.1, hB.left h.2⟩
  entered ha _ _ _ h := ⟨hA.entered ha h.1, hB.entered ha h.2⟩
  walk hst hk := by
    refine congrArg₂ Option.or ?_ ?_
    · refine hA.walk hst.1 fun q hq s₁ t₁ h₁ => ?_
      exact hk q hq _ _ ⟨h₁, hB.left (hB.fewer hq hst.2)⟩
    · refine hB.walk hst.2 fun q hq s₂ t₂ h₂ => ?_
      exact hk q hq _ _ ⟨hA.left (hA.fewer hq hst.1), h₂⟩

end Both

theorem Sim.seq (hA : Sim again A A') (hB : Sim again B B') :
    Sim again (seq A B) (Walker.seq A' B') := by
  obtain ⟨E, Q, hA⟩ := hA
  obtain ⟨E', Q', hB⟩ := hB
  exact ⟨_, _, hA.seq hB⟩

theorem Sim.orElse (hA : Sim again A A') (hB : Sim again B B') :
    Sim again (orElse A B) (Walker.orElse A' B') := by
  obtain ⟨E, Q, hA⟩ := hA
  obtain ⟨E', Q', hB⟩ := hB
  exact ⟨_, _, hA.orElse hB⟩

/-! ### States with a number in front -/

/-- Two numbers that were noted at places that are not ahead, and both here or neither. -/
structure SameMark (n : Nat) (f g : Option Nat) : Prop where
  least : ∀ i ∈ f, n ≤ i
  least' : ∀ i ∈ g, n ≤ i
  here : f = some n ↔ g = some n

namespace SameMark

variable {f g : Option Nat} {m n : Nat}

theorem none : SameMark n none none := ⟨nofun, nofun, .rfl⟩

/-- A place that is noted by both. -/
theorem some (h : m ≤ n) : SameMark m (some n) (some n) :=
  ⟨fun _ hi => Option.some.inj hi ▸ h, fun _ hi => Option.some.inj hi ▸ h, .rfl⟩

/-- What was noted further back is not here. -/
theorem of_behind (hf : ∀ i ∈ f, n < i) (hg : ∀ i ∈ g, n < i) : SameMark n f g := by
  refine ⟨fun i hi => Nat.le_of_lt (hf i hi), fun i hi => Nat.le_of_lt (hg i hi), ?_⟩
  refine iff_of_false (fun hn => ?_) fun hn => ?_
  · exact Nat.lt_irrefl n (hf n hn)
  · exact Nat.lt_irrefl n (hg n hn)

theorem fewer (h : SameMark n f g) (hle : m ≤ n) : SameMark m f g := by
  obtain rfl | hlt := Nat.eq_or_lt_of_le hle
  · exact h
  · exact .of_behind (fun i hi => Nat.lt_of_lt_of_le hlt (h.least i hi))
      fun i hi => Nat.lt_of_lt_of_le hlt (h.least' i hi)

end SameMark

section Marked

variable {greedy : Bool} {E Q : Nat → A.State → A'.State → Prop}

/-- A relation of states for states with a number in front. -/
def Marked (E : Nat → A.State → A'.State → Prop) :
    Nat → Option Nat × A.State → Option Nat × A'.State → Prop :=
  fun n s t => SameMark n s.1 t.1 ∧ E n s.2 t.2

theorem Related.guard (hA : Related again A A' E Q) :
    Related again (guard A) (Walker.guard A') (Marked E) (Marked Q) where
  fewer hle h := ⟨h.1.fewer hle, hA.fewer hle h.2⟩
  fewer' hle h := ⟨h.1.fewer hle, hA.fewer' hle h.2⟩
  fresh n := ⟨.none, hA.fresh n⟩
  left h := ⟨h.1, hA.left h.2⟩
  entered ha _ _ _ h := ⟨h.1, hA.entered ha h.2⟩
  walk {p s t k k'} hst hk := by
    unfold Walker.guard
    dsimp only
    by_cases hs : s.1 = some p.rest.length
    · rw [if_pos hs, if_pos (hst.1.here.1 hs)]
    · rw [if_neg hs, if_neg (mt hst.1.here.2 hs)]
      exact hA.walk hst.2 fun q hq s' t' h => hk q hq _ _ ⟨.some hq, h⟩

/-- Rounds are come to again. -/
theorem Related.rounds_eq (hA : Related true A A' E Q) {p : Cursor} {s : A.State} {t : A'.State}
    {k : Next (Option Nat × A.State) p} {k' : Next (Option Nat × A'.State) p}
    (hst : E p.rest.length s t)
    (hk : ∀ q hq s' t', Marked Q q.rest.length s' t' → k q hq s' = k' q hq t') :
    rounds greedy A p s k = rounds greedy A' p t k' := by
  induction hlen : p.rest.length using Nat.strongRecOn generalizing p s t with
  | _ len ih =>
    rw [rounds, rounds]
    congr 1
    · refine hA.walk hst fun q hq s' t' h => ?_
      split
      next hlt =>
        refine ih q.rest.length (by omega) (hA.entered rfl h) (fun r hr s' t' h => ?_) rfl
        exact hk r _ s' t' h
      · rfl
    · exact hk p _ _ _ ⟨.some (Nat.le_refl _), hA.left hst⟩

theorem Related.loop (hA : Related true A A' E Q) :
    Related again (loop greedy A) (Walker.loop greedy A') (Marked E) (Marked Q) where
  fewer hle h := ⟨h.1.fewer hle, hA.fewer hle h.2⟩
  fewer' hle h := ⟨h.1.fewer hle, hA.fewer' hle h.2⟩
  fresh n := ⟨.none, hA.fresh n⟩
  left h := ⟨h.1, hA.left h.2⟩
  entered _ _ _ _ h := ⟨h.1, hA.entered rfl h.2⟩
  walk {p s t k k'} hst hk := by
    unfold Walker.loop
    dsimp only
    by_cases hs : s.1 = some p.rest.length
    · rw [if_pos hs, if_pos (hst.1.here.1 hs)]
    · rw [if_neg hs, if_neg (mt hst.1.here.2 hs)]
      exact hA.rounds_eq hst.2 hk

theorem Related.plus (hA : Related true A A' E Q) :
    Related again (plus greedy A) (Walker.plus greedy A') (Marked E) (Marked Q) where
  fewer hle h := ⟨h.1.fewer hle, hA.fewer hle h.2⟩
  fewer' hle h := ⟨h.1.fewer hle, hA.fewer' hle h.2⟩
  fresh n := ⟨.none, hA.fresh n⟩
  left h := ⟨h.1, hA.left h.2⟩
  entered _ _ _ _ h := ⟨h.1, hA.entered rfl h.2⟩
  walk hst hk := by
    have hloop :
        Related true (Walker.loop greedy A) (Walker.loop greedy A') (Marked E) (Marked Q) :=
      hA.loop
    refine hA.walk hst.2 fun q hq s₂ t₂ h₂ => ?_
    exact hloop.walk ⟨hst.1.fewer hq, hA.entered rfl h₂⟩ fun r hr s' t' h => hk r _ s' t' h

end Marked

theorem Sim.guard (hA : Sim again A A') : Sim again (guard A) (Walker.guard A') := by
  obtain ⟨E, Q, hA⟩ := hA
  exact ⟨_, _, hA.guard⟩

theorem Sim.loop {greedy : Bool} (hA : Sim true A A') :
    Sim again (loop greedy A) (Walker.loop greedy A') := by
  obtain ⟨E, Q, hA⟩ := hA
  exact ⟨_, _, hA.loop⟩

theorem Sim.plus {greedy : Bool} (hA : Sim true A A') :
    Sim again (plus greedy A) (Walker.plus greedy A') := by
  obtain ⟨E, Q, hA⟩ := hA
  exact ⟨_, _, hA.plus⟩

/-! ## Walkers that come to the same -/

/-- Whether a chain of walkers in related states leads from one walker to another. -/
def Alike (again : Bool) (A B : Walker) : Prop := Relation.EqvGen (Sim again) A B

theorem Sim.alike (h : Sim again A B) : Alike again A B := .rel _ _ h

namespace Alike

theorem refl (A : Walker) : Alike again A A := Relation.EqvGen.refl A

theorem symm (h : Alike again A B) : Alike again B A := Relation.EqvGen.symm _ _ h

theorem trans (h₁ : Alike again A B) (h₂ : Alike again B C) : Alike again A C :=
  Relation.EqvGen.trans _ _ _ h₁ h₂

instance : Trans (Alike again) (Alike again) (Alike again) := ⟨trans⟩

/-- What keeps pairs in related states keeps chains of them. -/
theorem map {again' : Bool} {f : Walker → Walker}
    (hf : ∀ {A B}, Sim again A B → Sim again' (f A) (f B)) (h : Alike again A B) :
    Alike again' (f A) (f B) := by
  induction h with
  | rel A B h => exact (hf h).alike
  | refl A => exact .refl _
  | symm A B _ ih => exact ih.symm
  | trans A B C _ _ ih₁ ih₂ => exact ih₁.trans ih₂

theorem weaken {again' : Bool} (hagain : again → again') (h : Alike again' A B) :
    Alike again A B :=
  h.map (f := id) (.weaken hagain)

theorem seq (hA : Alike again A A') (hB : Alike again B B') :
    Alike again (seq A B) (Walker.seq A' B') :=
  (hA.map fun h => h.seq (.refl B)).trans (hB.map fun h => (Sim.refl A').seq h)

theorem orElse (hA : Alike again A A') (hB : Alike again B B') :
    Alike again (orElse A B) (Walker.orElse A' B') :=
  (hA.map fun h => h.orElse (.refl B)).trans (hB.map fun h => (Sim.refl A').orElse h)

theorem guard (hA : Alike again A A') : Alike again (guard A) (Walker.guard A') := hA.map .guard

theorem opt {greedy : Bool} (hA : Alike again A A') :
    Alike again (opt greedy A) (Walker.opt greedy A') := by
  cases greedy
  · exact ((refl empty).orElse hA).guard
  · exact (hA.orElse (refl empty)).guard

theorem loop {greedy : Bool} (hA : Alike true A A') :
    Alike again (loop greedy A) (Walker.loop greedy A') :=
  hA.map .loop

theorem plus {greedy : Bool} (hA : Alike true A A') :
    Alike again (plus greedy A) (Walker.plus greedy A') :=
  hA.map .plus

theorem star {greedy : Bool} (hA : Alike true A A') :
    Alike again (star greedy A) (Walker.star greedy A') :=
  hA.plus.opt

theorem copies (hA : Alike again A A') (n : Nat) :
    Alike again (copies A n) (Walker.copies A' n) := by
  induction n with
  | zero => exact .refl _
  | succ n ih => exact ih.seq hA

theorem upTo {greedy : Bool} (hA : Alike again A A') (n : Nat) :
    Alike again (upTo greedy A n) (Walker.upTo greedy A' n) := by
  induction n with
  | zero => exact .refl _
  | succ n ih => exact (hA.seq ih).opt

end Alike

end Walker

end Munch.Regex
