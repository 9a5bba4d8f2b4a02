import Munch.Proofs.Regex.Run

/-!
# Repetitions of one character

What `[..]*` and `[..]*?` read. Both read up to where the members of the set end, if what is behind
them cannot go on in front of a member. Otherwise a greedy repetition still reads that far if one
can go on there, and a lazy one up to the first place where one can go on.

* `Expr.run_star_of_blocked`, `Expr.run_greedy_of_some`: up to where the members end.
* `Expr.run_lazy_of_some`: up to the first place where one can go on.
-/

namespace Munch.Regex.Expr

variable {α : Type} {set : CharSet} {k : Onwards α} {p : Cursor} {captures : Captures} {x : α}

/-- Any number of characters of a set. -/
abbrev star (greedy : Bool) (set : CharSet) : Expr := .iterate 0 none greedy (.chars set)

/-! ## Single characters -/

theorem readChar_of_cons {c : Char} {cs : List Char} (hr : p.rest = c :: cs) (hc : set.contains c) :
    readChar set k p captures = k (p.past [c] cs) captures := by
  rw [readChar, hr, Cursor.past_singleton]
  dsimp only
  rw [if_pos hc]

theorem readChar_eq_none (h : ∀ c ∈ p.rest.head?, ¬ set.contains c) :
    readChar set k p captures = none := by
  rw [readChar]
  split
  · rfl
  next c cs hr => exact if_neg (h c (by simp [hr]))

theorem exists_of_readChar (h : readChar set k p captures = some x) :
    ∃ c cs, p.rest = c :: cs ∧ set.contains c ∧ k (p.past [c] cs) captures = some x := by
  rw [readChar] at h
  split at h
  · cases h
  next c cs hr =>
    split at h
    next hc => exact ⟨c, cs, hr, hc, by rwa [Cursor.past_singleton]⟩
    · cases h

theorem readChar_eq_none_of_mem {c : Char} (hc : c ∈ p.rest.head?) (h : ¬ set.contains c) :
    readChar set k p captures = none := by
  refine readChar_eq_none fun d hd => ?_
  rw [Option.mem_def] at hc hd
  rw [hc, Option.some.injEq] at hd
  rwa [← hd]

/-! ## Repetitions -/

theorem run_star (greedy : Bool) (set : CharSet) (k : Onwards α) (p : Cursor)
    (captures : Captures) :
    (star greedy set).run k p captures = prefer greedy
      (readChar set ((star greedy set).run k) p captures) (k p captures) := by
  rw [run, Function.iterate_zero, id_eq]
  conv_lhs => rw [rounds]
  congr 1
  refine readsAtLeast_readChar set (fun q captures hq => ?_) captures
  rw [dif_pos (by omega)]

/-- Where one cannot go on in front of a member, a repetition reads up to where they end. -/
theorem run_star_of_blocked {greedy : Bool} {text rest : List Char} (hp : p.rest = text ++ rest)
    (htext : ∀ c ∈ text, set.contains c) (hrest : ∀ c ∈ rest.head?, ¬ set.contains c)
    (hk : ∀ q c, c ∈ q.rest.head? → set.contains c → k q captures = none) :
    (star greedy set).run k p captures = k (p.past text rest) captures := by
  induction text generalizing p with
  | nil =>
    rw [List.nil_append] at hp
    rw [run_star, readChar_eq_none (by rwa [hp]), ← hp, Cursor.past_nil]
    cases greedy <;> simp [prefer]
  | cons c text ih =>
    have hnone : k p captures = none := hk p c (by simp [hp]) (htext c (by simp))
    rw [List.cons_append] at hp
    rw [run_star, readChar_of_cons hp (htext c (by simp)), hnone, p.past_cons c text rest,
      ih rfl fun d hd => htext d (by simp [hd])]
    cases greedy <;> simp [prefer]

/-- A greedy repetition reads up to where the members end, if one can go on there. -/
theorem run_greedy_of_some {text rest : List Char} (hp : p.rest = text ++ rest)
    (htext : ∀ c ∈ text, set.contains c) (hrest : ∀ c ∈ rest.head?, ¬ set.contains c)
    (hk : k (p.past text rest) captures = some x) :
    (star true set).run k p captures = some x := by
  induction text generalizing p with
  | nil =>
    rw [List.nil_append] at hp
    rw [← hp, Cursor.past_nil] at hk
    rw [run_star, readChar_eq_none (by rwa [hp]), hk]
    rfl
  | cons c text ih =>
    rw [Cursor.past_cons] at hk
    rw [List.cons_append] at hp
    rw [run_star, readChar_of_cons hp (htext c (by simp)),
      ih rfl (fun d hd => htext d (by simp [hd])) hk]
    rfl

/-- A lazy repetition reads up to the first place where one can go on. -/
theorem run_lazy_of_some {text rest : List Char} (hp : p.rest = text ++ rest)
    (htext : ∀ c ∈ text, set.contains c)
    (hk : ∀ as bs, as ++ bs = text → bs ≠ [] → k (p.past as (bs ++ rest)) captures = none)
    (hsome : k (p.past text rest) captures = some x) :
    (star false set).run k p captures = some x := by
  induction text generalizing p with
  | nil =>
    rw [List.nil_append] at hp
    rw [← hp, Cursor.past_nil] at hsome
    rw [run_star, hsome]
    rfl
  | cons c text ih =>
    have hnone : k p captures = none := by
      have := hk [] (c :: text) rfl (by simp)
      rwa [← hp, Cursor.past_nil] at this
    rw [Cursor.past_cons] at hsome
    rw [List.cons_append] at hp
    rw [run_star, readChar_of_cons hp (htext c (by simp)), hnone,
      ih rfl (fun d hd => htext d (by simp [hd])) (fun as bs hab hbs => ?_) hsome]
    · rfl
    · have := hk (c :: as) bs (by rw [← hab]; rfl) hbs
      rwa [Cursor.past_cons, ← List.append_assoc, hab] at this

end Munch.Regex.Expr
