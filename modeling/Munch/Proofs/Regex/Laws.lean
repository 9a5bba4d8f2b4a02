import Munch.Proofs.CharSet
import Munch.Proofs.Regex.Walker

/-!
# Laws of walkers

How walkers can be put together differently. Most laws only move states to other places. Those that
drop a `guard` are about the numbers that it remembers: none of them is less than the number of
characters that are left, so a guard that has just been left behind, or that the walker came to when
it came to another, shuts nothing out.

* `guard_orElse_guard`, `guard_orElse_guard'`: choices within a choice are choices of the same kind.
* `chars_union`: a choice of characters is a set.
* `chars_guard`, `guard_chars_seq`, `guard_test_guard`: a choice may begin in front of a character
  or a condition or behind it.
-/

namespace Munch.Regex.Walker

variable {A B C A' B' : Walker} {again : Bool}

/-! ## States in other places -/

/-- Two walkers are alike if the states of one are those of the other, written differently. -/
theorem Sim.of_map (f : A.State → B.State) (hf : f A.fresh = B.fresh)
    (h : ∀ p s k, (A.walk p s fun q hq s' => k q hq (f s')) = B.walk p (f s) k) :
    Sim again A B := by
  refine .of_relation (fun _ s t => f s = t) (fun _ _ _ _ _ h => h) (fun _ => hf) ?_
  rintro p s _ k k' rfl hk
  rw [← h]
  congr
  funext q hq s'
  exact hk q hq s' _ rfl

theorem seq_assoc (A B C : Walker) : Alike again (seq (seq A B) C) (seq A (seq B C)) :=
  Sim.alike (.of_map (fun s => (s.1.1, s.1.2, s.2)) rfl fun _ _ _ => rfl)

theorem empty_seq (A : Walker) : Alike again (seq empty A) A :=
  Sim.alike (.of_map (fun s => s.2) rfl fun _ _ _ => rfl)

theorem seq_empty (A : Walker) : Alike again (seq A empty) A :=
  Sim.alike (.of_map (fun s => s.1) rfl fun _ _ _ => rfl)

theorem orElse_assoc (A B C : Walker) :
    Alike again (orElse (orElse A B) C) (orElse A (orElse B C)) :=
  Sim.alike (.of_map (fun s => (s.1.1, s.1.2, s.2)) rfl fun _ _ _ => Option.or_assoc)

theorem fail_orElse (A : Walker) : Alike again (orElse fail A) A :=
  Sim.alike (.of_map (fun s => s.2) rfl fun _ _ _ => Option.none_or)

theorem orElse_fail (A : Walker) : Alike again (orElse A fail) A :=
  Sim.alike (.of_map (fun s => s.1) rfl fun _ _ _ => Option.or_none)

theorem guard_seq (A B : Walker) : Alike again (seq (guard A) B) (guard (seq A B)) :=
  Sim.alike (.of_map (fun s => (s.1.1, s.1.2, s.2)) rfl fun _ _ _ => rfl)

/-! ## Single characters and conditions -/

theorem chars_fail (set : CharSet) : Alike again (seq (chars set) fail) fail := by
  refine Sim.alike (.of_map (fun _ => ()) rfl fun p s k => ?_)
  unfold seq chars fail
  dsimp only
  split
  · rfl
  · split <;> rfl

theorem chars_orElse (set : CharSet) (A B : Walker) :
    Alike again (seq (chars set) (orElse A B))
      (orElse (seq (chars set) A) (seq (chars set) B)) := by
  refine Sim.alike (.of_map (fun s => ((s.1, s.2.1), (s.1, s.2.2))) rfl fun p s k => ?_)
  unfold seq chars orElse
  dsimp only
  split
  · rfl
  · split <;> rfl

theorem test_fail (l : Look) : Alike again (seq (test l) fail) fail := by
  refine Sim.alike (.of_map (fun _ => ()) rfl fun p s k => ?_)
  unfold seq test fail
  dsimp only
  split <;> rfl

theorem test_orElse (l : Look) (A B : Walker) :
    Alike again (seq (test l) (orElse A B)) (orElse (seq (test l) A) (seq (test l) B)) := by
  refine Sim.alike (.of_map (fun s => ((s.1, s.2.1), (s.1, s.2.2))) rfl fun p s k => ?_)
  unfold seq test orElse
  dsimp only
  split <;> rfl

theorem chars_empty : Alike again (chars ∅) fail := by
  refine Sim.alike (.of_map (fun _ => ()) rfl fun p s k => ?_)
  unfold chars fail
  dsimp only
  split
  · rfl
  · exact if_neg Bool.false_ne_true

theorem chars_union (a b : CharSet) :
    Alike again (orElse (chars a) (chars b)) (chars (a ∪ b)) := by
  refine Sim.alike (.of_map (fun _ => ()) rfl fun p s k => ?_)
  unfold chars orElse
  dsimp only
  split
  · rfl
  next c cs _ =>
    rw [CharSet.contains_union]
    cases a.contains c <;> cases b.contains c <;> simp

/-! ## Guards -/

theorem guard_guard (A : Walker) : Alike again (guard (guard A)) (guard A) := by
  refine Sim.alike (.of_relation (fun _ s t => s.1 = s.2.1 ∧ s.2 = t)
    (fun _ _ _ _ _ h => h) (fun _ => ⟨rfl, rfl⟩) ?_)
  rintro p ⟨f, g, a⟩ _ k k' ⟨hfg, rfl⟩ hk
  obtain rfl : f = g := hfg
  unfold guard
  dsimp only
  split
  · rfl
  · congr
    funext q hq a'
    exact hk q hq _ _ ⟨rfl, rfl⟩

/-- A guard was come to earlier, and if that was where one is, then with another. -/
def Behind (n : Nat) (outer inner : Option Nat) : Prop :=
  (∀ m < n, inner ≠ some m) ∧ (inner = some n → outer = some n)

theorem Behind.mono {m n : Nat} {outer inner : Option Nat} (h : Behind n outer inner)
    (hle : m ≤ n) : Behind m outer inner := by
  refine ⟨fun i hi => h.1 i (by omega), fun hm => ?_⟩
  obtain rfl | hlt := Nat.eq_or_lt_of_le hle
  · exact h.2 hm
  · exact absurd hm (h.1 m hlt)

/-- Both guards are come to. -/
theorem Behind.both {m n : Nat} (hle : m ≤ n) : Behind m (some n) (some n) :=
  ⟨fun i hi h => by cases h; omega, id⟩

/-- The other guard alone is come to. -/
theorem Behind.outer {m n : Nat} {outer inner : Option Nat} (h : Behind n outer inner)
    (hn : outer ≠ some n) (hle : m ≤ n) : Behind m (some n) inner := by
  refine ⟨(h.mono hle).1, fun hm => ?_⟩
  obtain rfl | hlt := Nat.eq_or_lt_of_le hle
  · rfl
  · exact absurd hm (h.1 m hlt)

theorem guard_orElse_guard (A B : Walker) :
    Alike again (guard (orElse (guard A) B)) (guard (orElse A B)) := by
  refine Sim.alike (.of_relation (fun n s t => Behind n s.1 s.2.1.1 ∧ t = (s.1, s.2.1.2, s.2.2))
    (fun m n s t hle h => ⟨h.1.mono hle, h.2⟩) (fun _ => ⟨⟨nofun, nofun⟩, rfl⟩) ?_)
  rintro p ⟨f, ⟨g, a⟩, b⟩ _ k k' ⟨hb, rfl⟩ hk
  unfold guard orElse
  dsimp only
  split
  · rfl
  next hf =>
    rw [if_neg (mt hb.2 hf)]
    congr
    · funext q hq a'
      exact hk q hq _ _ ⟨.both hq, rfl⟩
    · funext q hq b'
      exact hk q hq _ _ ⟨hb.outer hf hq, rfl⟩

theorem guard_orElse_guard' (A B : Walker) :
    Alike again (guard (orElse A (guard B))) (guard (orElse A B)) := by
  refine Sim.alike (.of_relation (fun n s t => Behind n s.1 s.2.2.1 ∧ t = (s.1, s.2.1, s.2.2.2))
    (fun m n s t hle h => ⟨h.1.mono hle, h.2⟩) (fun _ => ⟨⟨nofun, nofun⟩, rfl⟩) ?_)
  rintro p ⟨f, a, g, b⟩ _ k k' ⟨hb, rfl⟩ hk
  unfold guard orElse
  dsimp only
  split
  · rfl
  next hf =>
    rw [if_neg (mt hb.2 hf)]
    congr
    · funext q hq a'
      exact hk q hq _ _ ⟨hb.outer hf hq, rfl⟩
    · funext q hq b'
      exact hk q hq _ _ ⟨.both hq, rfl⟩

theorem guard_test_guard (l : Look) (A : Walker) :
    Alike again (guard (seq (test l) (guard A))) (guard (seq (test l) A)) := by
  refine Sim.alike (.of_relation (fun n s t => Behind n s.1 s.2.2.1 ∧ t = (s.1, s.2.1, s.2.2.2))
    (fun m n s t hle h => ⟨h.1.mono hle, h.2⟩) (fun _ => ⟨⟨nofun, nofun⟩, rfl⟩) ?_)
  rintro p ⟨f, u, g, a⟩ _ k k' ⟨hb, rfl⟩ hk
  unfold guard seq test
  dsimp only
  split
  · rfl
  next hf =>
    split
    · rw [if_neg (mt hb.2 hf)]
      congr
      funext q hq a'
      exact hk q _ _ _ ⟨.both hq, rfl⟩
    · rfl

/-- Behind a character no guard has been come to. -/
theorem chars_guard (set : CharSet) (A : Walker) :
    Alike again (seq (chars set) (guard A)) (seq (chars set) A) := by
  refine Sim.alike (.of_relation (fun n s t => (∀ m < n, s.2.1 ≠ some m) ∧ t = (s.1, s.2.2))
    (fun m n s t hle h => ⟨fun i hi => h.1 i (by omega), h.2⟩) (fun _ => ⟨nofun, rfl⟩) ?_)
  rintro p ⟨u, g, a⟩ _ k k' ⟨hg, rfl⟩ hk
  unfold guard seq chars
  dsimp only
  split
  · rfl
  next c cs hr =>
    split
    · rw [if_neg (hg _ (by simp [hr]))]
      congr
      funext q hq a'
      refine hk q _ _ _ ⟨fun m hm h => ?_, rfl⟩
      cases h
      omega
    · rfl

/-- A guard in front of a character shuts nothing out. -/
theorem guard_chars_seq (set : CharSet) (A : Walker) :
    Alike again (guard (seq (chars set) A)) (seq (chars set) A) := by
  refine Sim.alike (.of_relation (fun n s t => (∀ m ≤ n, s.1 ≠ some m) ∧ t = s.2)
    (fun m n s t hle h => ⟨fun i hi => h.1 i (by omega), h.2⟩) (fun _ => ⟨nofun, rfl⟩) ?_)
  rintro p ⟨f, u, a⟩ _ k k' ⟨hf, rfl⟩ hk
  unfold guard seq chars
  dsimp only
  rw [if_neg (hf _ (Nat.le_refl _))]
  split
  · rfl
  next c cs hr =>
    split
    · congr
      funext q hq a'
      refine hk q _ _ _ ⟨fun m hm h => ?_, rfl⟩
      rw [hr] at h
      cases h
      simp only [List.length_cons] at hq hm
      omega
    · rfl

theorem guard_chars (set : CharSet) : Alike again (guard (chars set)) (chars set) :=
  ((seq_empty (chars set)).guard.symm.trans (guard_chars_seq set empty)).trans (seq_empty _)

/-- Within a choice, guards in front of what is chosen from make no difference. -/
theorem guard_orElse_congr (hA : Alike again (guard A) (guard A'))
    (hB : Alike again (guard B) (guard B')) :
    Alike again (guard (orElse A B)) (guard (orElse A' B')) := by
  have hinner : ∀ A B, Alike again (guard (orElse (guard A) (guard B))) (guard (orElse A B)) :=
    fun A B => (guard_orElse_guard A (guard B)).trans (guard_orElse_guard' A B)
  exact ((hinner A B).symm.trans (hA.orElse hB).guard).trans (hinner A' B')

end Munch.Regex.Walker
