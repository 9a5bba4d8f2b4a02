import Munch.Pattern
import Munch.Proofs.Regex.Attempt
import Munch.Proofs.Regex.Reach

/-!
# The first match of a matcher

A search gives the match that begins at the first place where one can begin, and whether one can
begin at a place does not depend on where the search began. So a search never has to be repeated
from a later place in front of its match.

* `Matcher.matchAt`: the match that begins right at a place.
* `Matcher.find_eq`: a search goes from place to place until there is such a match.
* `Matcher.find_eq_of_precedes`, `Matcher.find_eq_none_of_precedes`: what a search from an earlier
  place says of a search from a later one.
* `Matcher.findAt_eq`: a search from the offset of a place is a search from the place.
-/

namespace Munch

/-! ## Matches that begin at a place -/

/-- The match of an expression that begins right at a place. -/
def Regex.matchAt (r : Regex) (p : Cursor) : Option Match :=
  (r.program.matchAt p).map fun (span, captures) =>
    ⟨span, (List.range (r.groupCount - 1)).map fun i => captures.span? (i + 1)⟩

/-- A search finds the same whether it keeps an account of groups or not. -/
theorem Regex.find_eq_map (r : Regex) (p : Cursor) :
    r.find p = (r.program.find p).map fun (span, captures) =>
      ⟨span, (List.range (r.groupCount - 1)).map fun i => captures.span? (i + 1)⟩ := by
  unfold Regex.find
  split
  next hcount =>
    rw [Regex.Program.findSpan_eq, hcount, Option.map_map]
    rfl
  · rfl

theorem Regex.find_eq (r : Regex) (p : Cursor) : r.find p = p.places.findSome? r.matchAt := by
  rw [Regex.find_eq_map, Regex.Program.find_eq, List.map_findSome?]
  rfl

theorem Needle.findFrom_eq (n : Needle) (p : Cursor) :
    n.findFrom p.offset p.rest = p.places.findSome? fun q =>
      if n.text.isPrefixOf q.rest then some (n.matchAt q.offset) else none := by
  obtain ⟨before, rest, offset⟩ := p
  induction rest generalizing before offset with
  | nil =>
    rw [findFrom, Cursor.places_nil rfl, List.findSome?_singleton]
    cases n.text <;> rfl
  | cons c cs ih =>
    rw [findFrom, Cursor.places_cons rfl, List.findSome?_cons, ih (some c)]
    dsimp only
    split <;> rfl

theorem Needle.length_matchAt (n : Needle) (offset : Nat) :
    (n.matchAt offset).length = Text.byteLength n.text := Nat.add_sub_cancel_left _ _

namespace Matcher

/-- The match that begins right at a place, if there is one. -/
def matchAt : Matcher → Cursor → Option Match
  | literal needle, p =>
    if needle.text.isPrefixOf p.rest then some (needle.matchAt p.offset) else none
  | regex r, p => r.matchAt p

/-- A search gives the match at the first place where there is one. -/
theorem find_eq (m : Matcher) (p : Cursor) : m.find p = p.places.findSome? m.matchAt := by
  cases m with
  | literal needle => exact needle.findFrom_eq p
  | regex r => exact r.find_eq p

theorem matchAt_literal_eq_some_iff {n : Needle} {p : Cursor} {x : Match} :
    (literal n).matchAt p = some x ↔ n.text <+: p.rest ∧ n.matchAt p.offset = x := by
  rw [matchAt, Option.ite_none_right_eq_some, Option.some.injEq, List.isPrefixOf_iff_prefix]

theorem start_of_matchAt {m : Matcher} {p : Cursor} {x : Match} (h : m.matchAt p = some x) :
    x.start = p.offset := by
  cases m with
  | literal needle =>
    rw [← (matchAt_literal_eq_some_iff.1 h).2]
    rfl
  | regex r =>
    simp only [matchAt, Regex.matchAt, Regex.Program.matchAt, Option.map_map,
      Option.map_eq_some_iff] at h
    obtain ⟨_, -, rfl⟩ := h
    rfl

/-- A match ends at the place where it begins or at a later one. -/
theorem stop_of_matchAt {m : Matcher} {p : Cursor} {x : Match} (h : m.matchAt p = some x) :
    ∃ q, p.Precedes q ∧ q.offset = x.span.stop := by
  cases m with
  | literal needle =>
    obtain ⟨⟨rest, hrest⟩, rfl⟩ := matchAt_literal_eq_some_iff.1 h
    exact ⟨_, .of_rest hrest.symm, rfl⟩
  | regex r =>
    simp only [matchAt, Regex.matchAt, Regex.Program.matchAt, Option.map_map,
      Option.map_eq_some_iff] at h
    obtain ⟨⟨stop, captures⟩, ha, rfl⟩ := h
    exact Regex.attempt_precedes ha

/-! ## Searches from different places -/

section Precedes

variable {m : Matcher} {p q : Cursor} {x : Match}

/-- A match that a search from a place finds begins at that place or at a later one. -/
theorem exists_of_find_eq_some (h : m.find p = some x) :
    ∃ q, p.Precedes q ∧ m.matchAt q = some x := by
  rw [find_eq] at h
  obtain ⟨q, hq, hx⟩ := List.exists_of_findSome?_eq_some h
  exact ⟨q, Cursor.mem_places.1 hq, hx⟩

theorem find_eq_none_iff : m.find p = none ↔ ∀ q, p.Precedes q → m.matchAt q = none := by
  simp [find_eq, List.findSome?_eq_none_iff, Cursor.mem_places]

/-- If nothing is found from a place on, nothing is found from a later one on. -/
theorem find_eq_none_of_precedes (h : p.Precedes q) (hp : m.find p = none) : m.find q = none := by
  rw [find_eq_none_iff] at hp ⊢
  exact fun r hr => hp r (h.trans hr)

/-- A match is found from each place up to its start. -/
theorem find_eq_of_precedes (h : p.Precedes q) (hp : m.find p = some x)
    (hle : q.offset ≤ x.start) : m.find q = some x := by
  rw [find_eq] at hp ⊢
  obtain ⟨passed, hplaces, hlt⟩ := h.places_eq
  have hpassed : passed.findSome? m.matchAt = none := by
    rw [List.findSome?_eq_none_iff]
    intro r hr
    -- The first match of all begins in front of `q` if there is one at a place that was passed.
    cases hx : passed.findSome? m.matchAt with
    | none => exact List.findSome?_eq_none_iff.1 hx r hr
    | some y =>
      rw [hplaces, List.findSome?_append, hx, Option.some_or] at hp
      obtain ⟨r', hr', hy⟩ := List.exists_of_findSome?_eq_some hx
      have := start_of_matchAt hy
      have := hlt r' hr'
      rw [Option.some.inj hp] at *
      omega
  rwa [hplaces, List.findSome?_append, hpassed, Option.none_or] at hp

/-- The match found from a place on, if it begins there. -/
theorem find_filter_start (m : Matcher) (p : Cursor) :
    (m.find p).filter (·.start = p.offset) = m.matchAt p := by
  cases hx : m.matchAt p with
  | some x =>
    have hfind : m.find p = some x := by
      rw [find_eq]
      cases hr : p.rest with
      | nil => simp [Cursor.places_nil hr, hx]
      | cons c cs => simp [Cursor.places_cons hr, hx]
    rw [hfind]
    simp [start_of_matchAt hx]
  | none =>
    rw [Option.filter_eq_none_iff]
    intro y hy
    obtain ⟨q, hq, hy⟩ := exists_of_find_eq_some hy
    rcases hq.eq_or_offset_lt with rfl | hlt
    · rw [hx] at hy
      cases hy
    · simp only [decide_eq_true_eq]
      rw [start_of_matchAt hy]
      omega

/-- No match begins in front of the one that is found. -/
theorem start_le_of_matchAt (h : m.find p = some x) (hq : p.Precedes q) {y : Match}
    (hy : m.matchAt q = some y) : x.start ≤ q.offset := by
  by_contra hlt
  have hfilter := m.find_filter_start q
  rw [find_eq_of_precedes hq h (by omega), hy, Option.filter_eq_some_iff] at hfilter
  cases hfilter.1
  have := start_of_matchAt hy
  omega

/-- A search from the offset of a place is a search from the place. -/
theorem findAt_eq (m : Matcher) {source : List Char} (h : (Cursor.ofText source).Precedes p) :
    m.findAt source p.offset = m.find p := by
  have hseek := Cursor.seek_eq h
  cases m with
  | regex r => rw [findAt, hseek]; rfl
  | literal needle =>
    rw [findAt, Needle.findAt]
    cases ht : needle.text with
    | nil =>
      rw [if_pos List.isEmpty_nil, if_pos h.offset_le_byteLength]
      cases hr : p.rest <;> simp [find, Needle.find, Needle.findFrom, ht, hr]
    | cons c cs => rw [if_neg (by simp), hseek]; rfl

end Precedes

end Matcher

end Munch
