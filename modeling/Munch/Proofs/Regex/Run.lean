import Mathlib.Logic.Function.Iterate
import Mathlib.Tactic.Common
import Munch.Proofs.Text.Places
import Munch.Regex.Search

/-!
# What expressions read

`Expr.run` reads a text by an expression, preferred ways first, and goes on with whatever is to be
read behind the expression. It knows nothing of instructions, and is what programs are measured by.

A round of an unbounded repetition counts only if it reads something. That says what a repetition is
if every round reads something, as it does in expressions that are `isSteady`. In others it makes a
difference how rounds that read nothing are found out.

* `Expr.readsAtLeast_run`: what is behind an expression begins at least its least length further on.
* `Expr.rounds_of_pos`: the rounds of a repetition are those that its body reads.
* `Expr.readsOnly_run`: what is read is made of members of the sets of the expression.
-/

namespace Munch.Regex

/-- What is read from a place on, with the groups met so far. -/
abbrev Onwards (α : Type) := Cursor → Captures → Option α

namespace Expr

variable {α : Type}

/-! ## Reading -/

/-- Reads one character of a set. -/
def readChar (set : CharSet) (k : Onwards α) : Onwards α := fun p captures =>
  match p.rest with
  | [] => none
  | c :: cs =>
    if set.contains c then k ⟨some c, cs, p.offset + c.utf8Size⟩ captures else none

/-- A choice between one more round and none. -/
def prefer (greedy : Bool) (round leave : Option α) : Option α :=
  if greedy then round.or leave else leave.or round

/-- Any number of rounds, each of which reads something. -/
def rounds (greedy : Bool) (body : Onwards α → Onwards α) (k : Onwards α) (p : Cursor)
    (captures : Captures) : Option α :=
  prefer greedy
    (body (fun q captures =>
      if _h : q.rest.length < p.rest.length then rounds greedy body k q captures else none)
      p captures)
    (k p captures)
termination_by p.rest.length

/-- One more round or none. -/
def atMostOnce (greedy : Bool) (body : Onwards α → Onwards α) (leave k : Onwards α) : Onwards α :=
  fun p captures => prefer greedy (body k p captures) (leave p captures)

/-- Reads by an expression, then by what is behind it. -/
def run : Expr → Onwards α → Onwards α
  | empty, k => k
  | chars set _, k => readChar set k
  | look l, k => fun p captures => if l.holds p then k p captures else none
  | iterate min none greedy body, k => body.run^[min] (rounds greedy body.run k)
  | iterate min (some max) greedy body, k =>
    body.run^[min] ((atMostOnce greedy body.run k)^[max - min] k)
  | capture index _ body, k => fun p captures =>
    body.run (fun q captures => k q (captures.closing index q.offset)) p
      (captures.opening index p.offset)
  | seq a b, k => a.run (b.run k)
  | alt a b, k => fun p captures => (a.run k p captures).or (b.run k p captures)

/-- Whether each round of an unbounded repetition reads something. -/
def isSteady : Expr → Bool
  | iterate _ none _ body => body.minLength.any (0 < ·) && body.isSteady
  | iterate _ (some _) _ body => body.isSteady
  | capture _ _ body => body.isSteady
  | seq a b => a.isSteady && b.isSteady
  | alt a b => a.isSteady && b.isSteady
  | _ => true

/-! ## How far an expression reads -/

/-- The least length of an expression, 0 if it is not known. -/
def leastLength (e : Expr) : Nat := e.minLength.getD 0

theorem leastLength_seq_le (a b : Expr) :
    (seq a b).leastLength ≤ a.leastLength + b.leastLength := by
  rw [leastLength, leastLength, leastLength, minLength]
  cases a.minLength <;> cases b.minLength <;> simp

theorem leastLength_alt_le (a b : Expr) :
    (alt a b).leastLength ≤ a.leastLength ∧ (alt a b).leastLength ≤ b.leastLength := by
  rw [leastLength, leastLength, leastLength, minLength]
  cases a.minLength with
  | none => simp
  | some m =>
    cases b.minLength with
    | none => simp
    | some n => exact ⟨Nat.min_le_left m n, Nat.min_le_right m n⟩

theorem leastLength_iterate (min : Nat) (max : Option Nat) (greedy : Bool) (body : Expr) :
    (iterate min max greedy body).leastLength = min * body.leastLength := by
  rw [leastLength, leastLength, minLength]
  cases body.minLength <;> simp

theorem leastLength_pos {e : Expr} (h : e.minLength.any (0 < ·)) : 0 < e.leastLength := by
  rw [leastLength]
  cases he : e.minLength with
  | none => simp [he] at h
  | some n => simpa [he] using h

/-- What is behind a body that reads at least `n` characters matters only that much further on. -/
def ReadsAtLeast (n : Nat) (body : Onwards α → Onwards α) : Prop :=
  ∀ ⦃k k' : Onwards α⦄ ⦃p : Cursor⦄,
    (∀ q captures, n + q.rest.length ≤ p.rest.length → k q captures = k' q captures) →
    ∀ captures, body k p captures = body k' p captures

section ReadsAtLeast

variable {n : Nat} {body : Onwards α → Onwards α} {k k' : Onwards α} {p : Cursor}

theorem ReadsAtLeast.mono {m : Nat} (h : ReadsAtLeast n body) (hle : m ≤ n) :
    ReadsAtLeast m body :=
  fun _ _ _ hk => h fun q captures hq => hk q captures (by omega)

theorem readsAtLeast_readChar (set : CharSet) :
    ReadsAtLeast 1 (readChar set : Onwards α → Onwards α) := by
  intro k k' p hk captures
  rw [readChar, readChar]
  split
  · rfl
  next c cs hr =>
    split
    · exact hk _ _ (by rw [hr]; simp [Nat.add_comm])
    · rfl

theorem ReadsAtLeast.comp {m : Nat} {first : Onwards α → Onwards α} (hfirst : ReadsAtLeast m first)
    (h : ReadsAtLeast n body) : ReadsAtLeast (m + n) fun k => first (body k) := by
  intro k k' p hk
  refine hfirst fun q captures hq => h ?_ captures
  exact fun r captures hr => hk r captures (by omega)

theorem ReadsAtLeast.iterate (h : ReadsAtLeast n body) (m : Nat) :
    ReadsAtLeast (m * n) body^[m] := by
  induction m with
  | zero => exact fun k k' p hk captures => hk p captures (by omega)
  | succ m ih =>
    rw [Nat.succ_mul]
    exact ih.comp h

theorem ReadsAtLeast.rounds (h : ReadsAtLeast n body) (greedy : Bool) :
    ReadsAtLeast 0 (Expr.rounds greedy body) := by
  intro k k' p hk captures
  induction hlen : p.rest.length using Nat.strongRecOn generalizing p captures with
  | _ len ih =>
    rw [Expr.rounds, Expr.rounds, hk p captures (by omega)]
    congr 1
    refine h.mono (Nat.zero_le n) (fun q captures hq => ?_) captures
    split
    next hlt =>
      exact ih q.rest.length (by omega) (fun r captures hr => hk r captures (by omega)) captures rfl
    · rfl

theorem ReadsAtLeast.atMostOnce (h : ReadsAtLeast n body) (greedy : Bool) (m : Nat) :
    ReadsAtLeast 0 fun k => (Expr.atMostOnce greedy body k)^[m] k := by
  intro k k' p hk captures
  dsimp only
  suffices ∀ j j' : Onwards α, (∀ q captures, q.rest.length ≤ p.rest.length →
      j q captures = j' q captures) → ∀ q captures, q.rest.length ≤ p.rest.length →
      (Expr.atMostOnce greedy body k)^[m] j q captures =
        (Expr.atMostOnce greedy body k')^[m] j' q captures from
    this k k' (fun q captures hq => hk q captures (by omega)) p captures (Nat.le_refl _)
  induction m with
  | zero => exact fun j j' hj q captures hq => hj q captures hq
  | succ m ih =>
    intro j j' hj
    refine ih _ _ fun q captures hq => ?_
    rw [Expr.atMostOnce, Expr.atMostOnce, hk q captures (by omega)]
    congr 1
    refine h.mono (Nat.zero_le n) (fun r captures hr => hj r captures (by omega)) captures

end ReadsAtLeast

/-- An expression reads at least its least length. -/
theorem readsAtLeast_run (e : Expr) :
    ReadsAtLeast e.leastLength (e.run : Onwards α → Onwards α) := by
  induction e with
  | empty => exact fun k k' p hk captures => hk p captures (by simp [leastLength, minLength])
  | chars set _ =>
    refine (readsAtLeast_readChar set).mono ?_
    rw [leastLength, minLength]
    split <;> simp
  | look l =>
    intro k k' p hk captures
    rw [run, run]
    dsimp only
    rw [hk p captures (by simp [leastLength, minLength])]
  | iterate min max greedy body ih =>
    rw [leastLength_iterate]
    cases max with
    | none => exact (ih.iterate min).comp (ih.rounds greedy)
    | some max => exact (ih.iterate min).comp (ih.atMostOnce greedy (max - min))
  | capture index name body ih =>
    intro k k' p hk captures
    exact ih (fun q captures hq => hk q _ hq) _
  | seq a b iha ihb => exact (iha.comp ihb).mono (leastLength_seq_le a b)
  | alt a b iha ihb =>
    intro k k' p hk captures
    obtain ⟨ha, hb⟩ := leastLength_alt_le a b
    rw [run, run]
    dsimp only
    rw [iha.mono ha hk captures, ihb.mono hb hk captures]

/-- The rounds of a repetition are those that its body reads, if each of them reads something. -/
theorem rounds_of_pos {body : Expr} (h : 0 < body.leastLength) (greedy : Bool) (k : Onwards α)
    (p : Cursor) (captures : Captures) :
    rounds greedy body.run k p captures =
      prefer greedy (body.run (rounds greedy body.run k) p captures) (k p captures) := by
  rw [rounds]
  congr 1
  refine readsAtLeast_run body (fun q captures hq => ?_) captures
  rw [dif_pos (by omega)]

/-! ## What an expression reads -/

/-- Whether a character is a member of one of the sets of an expression. -/
def mayRead : Expr → Char → Bool
  | chars set _, c => set.contains c
  | iterate _ _ _ body, c => body.mayRead c
  | capture _ _ body, c => body.mayRead c
  | seq a b, c => a.mayRead c || b.mayRead c
  | alt a b, c => a.mayRead c || b.mayRead c
  | _, _ => false

/-- Behind a text of characters with `may`, one goes on to `x`. -/
def ReachedBy (may : Char → Prop) (k : Onwards α) (p : Cursor) (x : α) : Prop :=
  ∃ text rest captures, p.rest = text ++ rest ∧ (∀ c ∈ text, may c) ∧
    k (p.past text rest) captures = some x

/-- Only characters with `may` are read in front of what is behind. -/
def ReadsOnly (may : Char → Prop) (body : Onwards α → Onwards α) : Prop :=
  ∀ ⦃k : Onwards α⦄ ⦃p : Cursor⦄ ⦃captures : Captures⦄ ⦃x : α⦄,
    body k p captures = some x → ReachedBy may k p x

section ReadsOnly

variable {may : Char → Prop} {body : Onwards α → Onwards α} {k k' : Onwards α} {p : Cursor} {x : α}

theorem ReachedBy.of_eq_some {captures : Captures} (h : k p captures = some x) :
    ReachedBy may k p x :=
  ⟨[], p.rest, captures, rfl, by simp, by rwa [Cursor.past_nil]⟩

theorem ReachedBy.trans (h : ReachedBy may k p x)
    (hk : ∀ q captures, k q captures = some x → ReachedBy may k' q x) : ReachedBy may k' p x := by
  obtain ⟨text, rest, captures, hr, htext, h⟩ := h
  obtain ⟨text', rest', captures', hr', htext', h⟩ := hk _ _ h
  rw [Cursor.past_rest] at hr'
  refine ⟨text ++ text', rest', captures', by rw [hr, hr', List.append_assoc], ?_, ?_⟩
  · intro c hc
    rcases List.mem_append.1 hc with hc | hc
    · exact htext c hc
    · exact htext' c hc
  · rwa [← Cursor.past_past _ _ _ rest]

theorem ReadsOnly.mono {may' : Char → Prop} (h : ReadsOnly may body) (hle : ∀ c, may c → may' c) :
    ReadsOnly may' body := by
  intro k p captures x hx
  obtain ⟨text, rest, captures', hr, htext, hk⟩ := h hx
  exact ⟨text, rest, captures', hr, fun c hc => hle c (htext c hc), hk⟩

theorem readsOnly_readChar (set : CharSet) :
    ReadsOnly (fun c => set.contains c) (readChar set : Onwards α → Onwards α) := by
  intro k p captures x hx
  rw [readChar] at hx
  split at hx
  · cases hx
  next c cs hr =>
    split at hx
    next hc =>
      refine ⟨[c], cs, captures, hr, ?_, by rwa [Cursor.past_singleton]⟩
      intro d hd
      rwa [List.mem_singleton.1 hd]
    · cases hx

theorem ReadsOnly.comp {first : Onwards α → Onwards α} (hfirst : ReadsOnly may first)
    (h : ReadsOnly may body) : ReadsOnly may fun k => first (body k) :=
  fun _ _ _ _ hx => (hfirst hx).trans fun _ _ hx => h hx

theorem ReadsOnly.iterate (h : ReadsOnly may body) (m : Nat) : ReadsOnly may body^[m] := by
  induction m with
  | zero => exact fun k p captures x hx => .of_eq_some hx
  | succ m ih => exact ih.comp h

theorem prefer_eq_some {greedy : Bool} {round leave : Option α}
    (h : prefer greedy round leave = some x) : round = some x ∨ leave = some x := by
  cases greedy
  · exact (Option.or_eq_some_iff.1 h).elim .inr fun h => .inl h.2
  · exact (Option.or_eq_some_iff.1 h).elim .inl fun h => .inr h.2

theorem ReadsOnly.rounds (h : ReadsOnly may body) (greedy : Bool) :
    ReadsOnly may (Expr.rounds greedy body) := by
  intro k p captures x hx
  induction hlen : p.rest.length using Nat.strongRecOn generalizing p captures with
  | _ len ih =>
    rw [Expr.rounds] at hx
    rcases prefer_eq_some hx with hx | hx
    · refine (h hx).trans fun q captures hx => ?_
      split at hx
      next hlt => exact ih _ (by rwa [← hlen]) hx rfl
      · cases hx
    · exact .of_eq_some hx

theorem ReadsOnly.atMostOnce (h : ReadsOnly may body) (greedy : Bool) (m : Nat) :
    ReadsOnly may fun k => (Expr.atMostOnce greedy body k)^[m] k := by
  intro k p captures x hx
  suffices ∀ j : Onwards α, (∀ q captures, j q captures = some x → ReachedBy may k q x) →
      ∀ q captures, (Expr.atMostOnce greedy body k)^[m] j q captures = some x →
        ReachedBy may k q x from
    this k (fun q captures hx => .of_eq_some hx) p captures hx
  clear hx
  induction m with
  | zero => exact fun j hj q captures hx => hj q captures hx
  | succ m ih =>
    intro j hj
    refine ih _ fun q captures hx => ?_
    rcases prefer_eq_some hx with hx | hx
    · exact (h hx).trans hj
    · exact .of_eq_some hx

end ReadsOnly

/-- An expression reads only members of its sets. -/
theorem readsOnly_run (e : Expr) :
    ReadsOnly (fun c => e.mayRead c) (e.run : Onwards α → Onwards α) := by
  induction e with
  | empty => exact fun k p captures x hx => .of_eq_some hx
  | chars set _ => exact readsOnly_readChar set
  | look l =>
    intro k p captures x hx
    rw [run] at hx
    dsimp only at hx
    split at hx
    · exact .of_eq_some hx
    · cases hx
  | iterate min max greedy body ih =>
    cases max with
    | none => exact (ih.iterate min).comp (ih.rounds greedy)
    | some max => exact (ih.iterate min).comp (ih.atMostOnce greedy (max - min))
  | capture index name body ih =>
    intro k p captures x hx
    exact (ih hx).trans fun q captures hx => .of_eq_some hx
  | seq a b iha ihb =>
    have ha : ReadsOnly (fun c => (seq a b).mayRead c) (a.run : Onwards α → Onwards α) :=
      iha.mono fun c hc => by simp [mayRead, hc]
    exact ha.comp (ihb.mono fun c hc => by simp [mayRead, hc])
  | alt a b iha ihb =>
    intro k p captures x hx
    have ha : ReadsOnly (fun c => (alt a b).mayRead c) (a.run : Onwards α → Onwards α) :=
      iha.mono fun c hc => by simp [mayRead, hc]
    have hb : ReadsOnly (fun c => (alt a b).mayRead c) (b.run : Onwards α → Onwards α) :=
      ihb.mono fun c hc => by simp [mayRead, hc]
    rcases Option.or_eq_some_iff.1 hx with hx | ⟨-, hx⟩
    · exact ha hx
    · exact hb hx

end Expr

end Munch.Regex
