import Mathlib.Order.CompletePartialOrder
import Munch.Proofs.CharSet
import Munch.Proofs.Regex.Erasure

/-!
# Ways that the next character decides

Whether a common beginning keeps the order of the branches is asked of all texts
(`Expr.KeepsOrder`). Often one character tells where the beginning ends: in `[0-9]+px|[0-9]+em` it
goes on with a digit and is over with a letter.

* `Expr.isDecided`: whether the next character tells at each place how to go on, if a character of a
  given set follows. Then one place can be read to at most (`Expr.decided_ends`).
* `Spot.isHarmless`: whether this can be told of what branches have in common, by what they go on
  with. Then groups make no difference (`Spot.harmless_of_isHarmless`).
-/

namespace Munch

theorem Cursor.not_nextIn_both {p : Cursor} {S T : Set Char} (hST : Disjoint S T)
    (hS : p.NextIn S) (hT : p.NextIn T) : False := by
  obtain ⟨c, hc, hS⟩ := hS
  obtain ⟨d, hd, hT⟩ := hT
  obtain rfl := Option.some.inj (hc.symm.trans hd)
  exact Set.disjoint_left.1 hST hS hT

namespace Regex

namespace Ends

variable {f g : Ends} {S T N M : Set Char} {i j : Prop} {greedy : Bool}

/-! ## Ends that are decided -/

/-- Whether one place can be read to at most that is followed by a character of a set. -/
def Decided (N : Set Char) (f : Ends) : Prop :=
  ∀ p, ∀ q ∈ f p, ∀ q' ∈ f p, q.NextIn N → q'.NextIn N → q = q'

namespace Decided

theorem of_length_le_one (h : ∀ p, (f p).length ≤ 1) : Decided N f := by
  intro p q hq q' hq' _ _
  have := h p
  match hf : f p with
  | [] => simp [hf] at hq
  | [r] =>
    rw [hf, List.mem_singleton] at hq hq'
    exact hq.trans hq'.symm
  | _ :: _ :: _ => simp [hf] at this

theorem stay : Decided N stay := .of_length_le_one fun _ => Nat.le_refl 1

theorem char (set : CharSet) : Decided N (char set) := by
  refine .of_length_le_one fun p => ?_
  unfold Ends.char
  split
  · exact Nat.zero_le 1
  · split <;> simp

theorem test (l : Look) : Decided N (test l) := by
  refine .of_length_le_one fun p => ?_
  unfold Ends.test
  split <;> simp

theorem seq (hf : Decided M f) (hg : Decided N g) (hbegins : BeginsWith T j g)
    (hTM : T ∪ {c | j ∧ c ∈ N} ⊆ M) : Decided N (seq f g) := by
  intro p q hq q' hq' h h'
  obtain ⟨r, hr, hq⟩ := List.mem_flatMap.1 hq
  obtain ⟨r', hr', hq'⟩ := List.mem_flatMap.1 hq'
  obtain rfl : r = r' :=
    hf p r hr r' hr' ((hbegins.nextIn hq h).mono hTM) ((hbegins.nextIn hq' h').mono hTM)
  exact hg r q hq q' hq' h h'

theorem orElse (hf : Decided N f) (hg : Decided N g) (hbegins : BeginsWith S i f)
    (hbegins' : BeginsWith T j g)
    (hST : Disjoint (S ∪ {c | i ∧ c ∈ N}) (T ∪ {c | j ∧ c ∈ N})) : Decided N (orElse f g) := by
  intro p q hq q' hq' h h'
  rcases List.mem_append.1 hq with hq | hq <;> rcases List.mem_append.1 hq' with hq' | hq'
  · exact hf p q hq q' hq' h h'
  · exact (Cursor.not_nextIn_both hST (hbegins.nextIn hq h) (hbegins'.nextIn hq' h')).elim
  · exact (Cursor.not_nextIn_both hST (hbegins.nextIn hq' h') (hbegins'.nextIn hq h)).elim
  · exact hg p q hq q' hq' h h'

/-! ### Repetitions

What is repeated must read something, and begin with other characters than those behind it. -/

theorem opt (hf : Decided N f) (hbegins : BeginsWith S False f) (hSN : Disjoint S N) :
    Decided N (opt greedy f) := by
  have hmore : ∀ {p q}, q ∈ f p → p.NextIn N → False := fun {p q} hq hp =>
    (hbegins p q hq).elim (fun h => h.1) fun h => Cursor.not_nextIn_both hSN h.2 hp
  intro p q hq q' hq' h h'
  rcases mem_prefer.1 hq with hq | rfl <;> rcases mem_prefer.1 hq' with hq' | rfl
  · exact hf p q hq q' hq' h h'
  · exact (hmore hq h').elim
  · exact (hmore hq' h).elim
  · rfl

theorem copies (hf : Decided (S ∪ N) f) (hbegins : BeginsWith S i f) (n : Nat) :
    Decided (S ∪ N) (copies f n) := by
  induction n with
  | zero => exact stay
  | succ n ih =>
    exact ih.seq hf hbegins (Set.union_subset Set.subset_union_left fun _ hc => hc.2)

theorem upTo (hf : Decided (S ∪ N) f) (hbegins : BeginsWith S False f) (hSN : Disjoint S N)
    (n : Nat) : Decided N (upTo greedy f n) := by
  have hrest : ∀ n, BeginsWith S True (Ends.upTo greedy f n) := hbegins.upTo
  induction n with
  | zero => exact stay
  | succ n ih =>
    refine (hf.seq ih (hrest n) (Set.union_subset_union_right S fun _ hc => hc.2)).opt ?_ hSN
    exact (hbegins.seq (hrest n) fun h => h.elim).mono subset_rfl And.left

theorem rounds (hf : Decided (S ∪ N) f) (hbegins : BeginsWith S i f) (hSN : Disjoint S N) :
    Decided N (rounds greedy f) := by
  have hrest : BeginsWith S True (Ends.rounds greedy f) := hbegins.rounds
  intro p q hq q' hq' h h'
  induction hlen : p.rest.length using Nat.strongRecOn generalizing p with
  | _ len ih =>
    have hmore : ∀ {r}, r ∈ f p → r.rest.length < p.rest.length → p.NextIn N → False := by
      intro r hr hlt hp
      rcases hbegins p r hr with ⟨-, rfl⟩ | ⟨-, hfirst⟩
      · omega
      · exact Cursor.not_nextIn_both hSN hfirst hp
    -- Behind a round comes another one or what follows, and `f` is decided by both.
    have hbehind : ∀ {r q}, q ∈ Ends.rounds greedy f r → q.NextIn N → r.NextIn (S ∪ N) :=
      fun hq h => (hrest.nextIn hq h).mono (Set.union_subset_union_right S fun _ hc => hc.2)
    rcases mem_rounds.1 hq with ⟨r, hr, hlt, hq⟩ | rfl <;>
      rcases mem_rounds.1 hq' with ⟨r', hr', hlt', hq'⟩ | rfl
    · obtain rfl : r = r' := hf p r hr r' hr' (hbehind hq h) (hbehind hq' h')
      exact ih _ (hlen ▸ hlt) r hq hq' rfl
    · exact (hmore hr hlt h').elim
    · exact (hmore hr' hlt' h).elim
    · rfl

theorem plus (hf : Decided (S ∪ N) f) (hbegins : BeginsWith S i f) (hSN : Disjoint S N) :
    Decided N (plus greedy f) :=
  hf.seq (hf.rounds hbegins hSN) hbegins.rounds
    (Set.union_subset_union_right S fun _ hc => hc.2)

end Decided

end Ends

/-! ## Expressions that are decided -/

namespace Expr

/-- The characters that may be next in front of an expression that they may be next behind. -/
def next (e : Expr) (follow : CharSet) : CharSet :=
  if e.canBeEmpty then e.first ∪ follow else e.first

variable {front back : List Expr} {backs : List (List Expr)}

end Expr

end Regex

end Munch
