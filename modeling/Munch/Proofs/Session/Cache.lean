import Mathlib.Data.List.Forall2
import Munch.Proofs.Matcher
import Munch.Session

/-!
# What a session remembers

A session keeps the last search of every type. What it keeps was found by a search from the place
where the session is or from an earlier one (`Cached.Remembers`), so as long as it is valid it is
what a search from the present place would find (`Remembers.eq_ofSearch`).

* `Session.refresh_fst`: after a refresh the knowledge of each type is that of a fresh search.
* `Session.longest_eq_some`, `Session.longest_eq_none`: the winner of a place, as the maximum over
  the types.
* `Session.getElem?_of_longest`: the match of the winner is what is remembered at its position, so
  looking it up there a second time cannot fail.
-/

namespace Munch

namespace Cached

/-- The knowledge is that of a search from the place `p` or from an earlier one. -/
def Remembers (m : Matcher) (p : Cursor) : Cached → Prop
  | stale => True
  | found x => ∃ q, q.Precedes p ∧ m.find q = some x
  | exhausted => ∃ q, q.Precedes p ∧ m.find q = none

namespace Remembers

variable {m : Matcher} {p q : Cursor} {c : Cached}

theorem ofSearch_find (m : Matcher) (p : Cursor) : (ofSearch (m.find p)).Remembers m p := by
  cases h : m.find p with
  | none => exact ⟨p, .refl p, h⟩
  | some x => exact ⟨p, .refl p, h⟩

theorem of_precedes (hc : c.Remembers m p) (h : p.Precedes q) : c.Remembers m q := by
  cases c with
  | stale => trivial
  | found x =>
    obtain ⟨r, hr, hx⟩ := hc
    exact ⟨r, hr.trans h, hx⟩
  | exhausted =>
    obtain ⟨r, hr, hx⟩ := hc
    exact ⟨r, hr.trans h, hx⟩

/-- Knowledge that is still valid is that of a fresh search. -/
theorem eq_ofSearch (hc : c.Remembers m p) (h : c.isValidAt p.offset) :
    c = ofSearch (m.find p) := by
  cases c with
  | stale => cases h
  | found x =>
    obtain ⟨r, hr, hx⟩ := hc
    rw [Matcher.find_eq_of_precedes hr hx (by simpa [isValidAt] using h)]
    rfl
  | exhausted =>
    obtain ⟨r, hr, hx⟩ := hc
    rw [Matcher.find_eq_none_of_precedes hr hx]
    rfl

end Remembers

@[simp] theorem match?_ofSearch (result : Option Match) : (ofSearch result).match? = result := by
  cases result <;> rfl

end Cached

namespace Session

variable {τ : Type} {types : List (TokenType τ)} {cache : List Cached} {p : Cursor}

/-- The knowledge of each type that fresh searches from a place give. -/
def freshCache (types : List (TokenType τ)) (p : Cursor) : List Cached :=
  types.map fun t => .ofSearch (t.matcher.find p)

theorem refresh_fst (h : List.Forall₂ (fun t c => c.Remembers t.matcher p) types cache) :
    (refresh p types cache).1 = freshCache types p := by
  induction h with
  | nil => rfl
  | @cons t c ts cs hc _ ih =>
    rw [refresh, freshCache, List.map_cons]
    dsimp only
    split
    · next hv => rw [ih, hc.eq_ofSearch hv]; rfl
    · rw [ih]; rfl

theorem freshCache_remembers (types : List (TokenType τ)) (p : Cursor) :
    List.Forall₂ (fun t c => c.Remembers t.matcher p) types (freshCache types p) := by
  rw [freshCache, List.forall₂_map_right_iff, List.forall₂_same]
  exact fun t _ => .ofSearch_find t.matcher p

/-- The winner gives up its match; the other types keep what is known of them. -/
theorem set_stale_remembers (h : List.Forall₂ (fun t c => c.Remembers t.matcher p) types cache)
    (i : Nat) : List.Forall₂ (fun t c => c.Remembers t.matcher p) types (cache.set i .stale) := by
  induction h generalizing i with
  | nil => exact .nil
  | cons hc hcs ih =>
    cases i with
    | zero => exact .cons trivial hcs
    | succ i => exact .cons hc (ih i)

/-! ## The winner of a place -/

/-- The match of type number `i` that begins right at a place. -/
def matchAt? (types : List (TokenType τ)) (p : Cursor) (i : Nat) : Option Match :=
  (types[i]?).bind fun t => t.matcher.matchAt p

@[simp] theorem matchAt?_zero (t : TokenType τ) (ts : List (TokenType τ)) (p : Cursor) :
    matchAt? (t :: ts) p 0 = t.matcher.matchAt p := rfl

/-- A position that was moved by one is that of the list without its first element, moved. -/
theorem exists_of_map_succ {α : Type} {found : Option (Nat × α)} {i : Nat} {w : α}
    (h : (found.map fun (i, w) => (i + 1, w)) = some (i, w)) :
    ∃ j, i = j + 1 ∧ found = some (j, w) := by
  obtain ⟨⟨j, _⟩, hfound, heq⟩ := Option.map_eq_some_iff.1 h
  simp only [Prod.mk.injEq] at heq
  obtain ⟨rfl, rfl⟩ := heq
  exact ⟨j, rfl, hfound⟩

/-- The match that wins is what is remembered of the type that wins. -/
theorem getElem?_of_longest {offset best i : Nat} {t : TokenType τ} {m : Match}
    (h : longest offset best types cache = some (i, t, m)) : cache[i]? = some (.found m) := by
  induction types generalizing cache best i with
  | nil => cases h
  | cons t₀ ts ih =>
    cases cache with
    | nil => cases h
    | cons c cs =>
      cases c with
      | stale | exhausted =>
        obtain ⟨j, rfl, hlater⟩ := exists_of_map_succ h
        exact List.getElem?_cons_succ.trans (ih hlater)
      | found m₀ =>
        rw [longest, Cached.match?] at h
        dsimp only at h
        split at h
        · cases hl : longest offset m₀.length ts cs with
          | none =>
            simp only [hl, Option.map_none, Option.getD_none, Option.some.injEq, Prod.mk.injEq] at h
            obtain ⟨rfl, -, rfl⟩ := h
            rfl
          | some w =>
            rw [hl, Option.map_some, Option.getD_some] at h
            obtain ⟨j, rfl, hlater⟩ := exists_of_map_succ ((congrArg _ hl).trans h)
            exact List.getElem?_cons_succ.trans (ih hlater)
        · obtain ⟨j, rfl, hlater⟩ := exists_of_map_succ h
          exact List.getElem?_cons_succ.trans (ih hlater)

/-- One type after the other: a match that begins right here counts if it is longer than the best
one so far. -/
theorem longest_cons (t : TokenType τ) (ts : List (TokenType τ)) (p : Cursor) (best : Nat) :
    longest p.offset best (t :: ts) (freshCache (t :: ts) p) =
      match (t.matcher.matchAt p).filter (best < ·.length) with
      | some m => some (((longest p.offset m.length ts (freshCache ts p)).map
          fun (i, w) => (i + 1, w)).getD (0, t, m))
      | none => (longest p.offset best ts (freshCache ts p)).map fun (i, w) => (i + 1, w) := by
  rw [freshCache, List.map_cons, longest, Cached.match?_ofSearch, ← Matcher.find_filter_start]
  cases t.matcher.find p with
  | none => rfl
  | some m =>
    dsimp only
    by_cases hs : m.start = p.offset
    · by_cases hl : best < m.length
      · rw [if_pos ⟨hs, hl⟩]
        simp [hs, hl, freshCache, Option.filter_some]
      · rw [if_neg fun h => hl h.2]
        simp [hs, hl, freshCache, Option.filter_some]
    · rw [if_neg fun h => hs h.1]
      simp [hs, freshCache, Option.filter_some]

/-- Nothing is given only if no match that begins here is longer than `best`. -/
theorem longest_eq_none {best : Nat}
    (h : longest p.offset best types (freshCache types p) = none) :
    ∀ j x, matchAt? types p j = some x → x.length ≤ best := by
  induction types generalizing best with
  | nil => simp [matchAt?]
  | cons t ts ih =>
    rw [longest_cons] at h
    cases hm : (t.matcher.matchAt p).filter (best < ·.length) with
    | some m₀ => rw [hm] at h; cases h
    | none =>
      rw [hm, Option.map_eq_none_iff] at h
      rintro (_ | j) x hx
      · simpa using (Option.filter_eq_none_iff.1 hm) x hx
      · exact ih h j x hx

/-- What is given is a match of the type at the position given; no other match that begins here is
longer, and none of an earlier type is as long. -/
theorem longest_eq_some {best i : Nat} {t : TokenType τ} {m : Match}
    (h : longest p.offset best types (freshCache types p) = some (i, t, m)) :
    types[i]? = some t ∧ t.matcher.matchAt p = some m ∧ best < m.length ∧
      ∀ j x, matchAt? types p j = some x → x.length ≤ m.length ∧ (j < i → x.length < m.length) := by
  induction types generalizing best i t m with
  | nil => cases h
  | cons t₀ ts ih =>
    rw [longest_cons] at h
    cases hm : (t₀.matcher.matchAt p).filter (best < ·.length) with
    | none =>
      rw [hm] at h
      obtain ⟨i', rfl, hlater⟩ := exists_of_map_succ h
      obtain ⟨ht, hat, hbest, hmax⟩ := ih hlater
      refine ⟨ht, hat, hbest, ?_⟩
      rintro (_ | j) x hx
      · have := (Option.filter_eq_none_iff.1 hm) x hx
        simp only [decide_eq_true_eq] at this
        omega
      · simpa using hmax j x hx
    | some m₀ =>
      rw [hm] at h
      obtain ⟨hat₀, hbest₀⟩ := Option.filter_eq_some_iff.1 hm
      simp only [decide_eq_true_eq] at hbest₀
      cases hl : longest p.offset m₀.length ts (freshCache ts p) with
      | none =>
        simp only [hl, Option.map_none, Option.getD_none, Option.some.injEq, Prod.mk.injEq] at h
        obtain ⟨rfl, rfl, rfl⟩ := h
        refine ⟨rfl, hat₀, hbest₀, ?_⟩
        rintro (_ | j) x hx
        · rw [matchAt?_zero, hat₀, Option.some.injEq] at hx
          subst hx
          omega
        · exact ⟨longest_eq_none hl j x hx, by omega⟩
      | some w =>
        obtain ⟨i', t', m'⟩ := w
        simp only [hl, Option.map_some, Option.getD_some, Option.some.injEq, Prod.mk.injEq] at h
        obtain ⟨rfl, rfl, rfl⟩ := h
        obtain ⟨ht, hat, hbest, hmax⟩ := ih hl
        refine ⟨ht, hat, by omega, ?_⟩
        rintro (_ | j) x hx
        · rw [matchAt?_zero, hat₀, Option.some.injEq] at hx
          subst hx
          omega
        · simpa using hmax j x hx

end Session

end Munch
