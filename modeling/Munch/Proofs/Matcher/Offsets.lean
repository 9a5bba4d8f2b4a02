import Mathlib.Data.List.Infix
import Munch.Proofs.Needle

/-!
# Searches from any byte

A search may begin at any byte offset, also inside a character and behind the end of the text.

* `Matcher.findAt_of_le`: where a search began does not matter to what is found. A match found from
  one offset is found from each later one up to its start, and what is not found from one offset is
  not found from a later one.
* `Matcher.findWord`: the same search with machine words, which breaks off where a sum is too great;
  it never does (`Matcher.findWord_eq`).
* `Matcher.findAt_valid`: the span of a match lies in the text, behind the offset and, but for the
  empty needle, between characters.
-/

namespace Munch

namespace Matcher

variable {m : Matcher} {text : List Char} {i j start : Nat} {x : Match}

/-- The empty needle alone is found inside a character. All else is searched from the next place
on. -/
theorem findAt_eq_bind (hm : m ≠ literal ⟨[]⟩) (text : List Char) (start : Nat) :
    m.findAt text start = (Cursor.seek text start).bind m.find := by
  cases m with
  | regex r => rfl
  | literal needle =>
    have hne : needle.text ≠ [] := by
      intro htext
      obtain ⟨text⟩ := needle
      exact hm (htext ▸ rfl)
    rw [findAt, Needle.findAt, if_neg (by simpa using hne)]
    rfl

/-- What is found begins and ends at places of the text. -/
theorem exists_places_of_findAt (hm : m ≠ literal ⟨[]⟩) (h : m.findAt text start = some x) :
    ∃ p q, (Cursor.ofText text).Precedes p ∧ p.Precedes q ∧ start ≤ p.offset ∧
      x.span = ⟨p.offset, q.offset⟩ := by
  rw [findAt_eq_bind hm, Option.bind_eq_some_iff] at h
  obtain ⟨c, hseek, hfind⟩ := h
  obtain ⟨hc, hle, -⟩ := Cursor.seekFrom_eq_some hseek
  obtain ⟨p, hp, hx⟩ := exists_of_find_eq_some hfind
  obtain ⟨q, hq, hstop⟩ := stop_of_matchAt hx
  have hstart : x.span.start = p.offset := start_of_matchAt hx
  exact ⟨p, q, hc.trans hp, hq, Nat.le_trans hle hp.offset_le,
    congrArg₂ Span.mk hstart hstop.symm⟩

theorem findAt_empty (text : List Char) (start : Nat) :
    (literal ⟨[]⟩).findAt text start =
      if start ≤ Text.byteLength text then some { span := ⟨start, start⟩ } else none := rfl

/-! ## Searches from two offsets -/

theorem findAt_eq_none_of_le (hij : i ≤ j) (h : m.findAt text i = none) :
    m.findAt text j = none := by
  by_cases hm : m = literal ⟨[]⟩
  · subst hm
    have hlt : ¬ i ≤ Text.byteLength text := by
      intro hle
      rw [findAt_empty, if_pos hle] at h
      cases h
    rw [findAt_empty, if_neg (by omega)]
  · rw [findAt_eq_bind hm, Option.bind_eq_none_iff] at h ⊢
    intro q hq
    obtain ⟨hq, hjq, -⟩ := Cursor.seekFrom_eq_some hq
    cases hp : Cursor.seek text i with
    | none =>
      have := Cursor.seekFrom_eq_none hp hq
      omega
    | some p =>
      obtain ⟨-, -, hfirst⟩ := Cursor.seekFrom_eq_some hp
      exact find_eq_none_of_precedes (hfirst q hq (Nat.le_trans hij hjq)) (h p hp)

theorem findAt_eq_some_of_le (hij : i ≤ j) (h : m.findAt text i = some x) (hj : j ≤ x.start) :
    m.findAt text j = some x := by
  by_cases hm : m = literal ⟨[]⟩
  · subst hm
    rw [findAt_empty, Option.ite_none_right_eq_some, Option.some.injEq] at h
    obtain ⟨hle, rfl⟩ := h
    obtain rfl : j = i := Nat.le_antisymm hj hij
    rw [findAt_empty, if_pos hle]
  · obtain ⟨r, _, hr, -, -, hspan⟩ := exists_places_of_findAt hm h
    have hstart : x.start = r.offset := congrArg Span.start hspan
    rw [findAt_eq_bind hm, Option.bind_eq_some_iff] at h ⊢
    obtain ⟨p, hp, hx⟩ := h
    obtain ⟨-, -, hfirst⟩ := Cursor.seekFrom_eq_some hp
    cases hq : Cursor.seek text j with
    | none =>
      have := Cursor.seekFrom_eq_none hq hr
      omega
    | some q =>
      obtain ⟨hq, hjq, hfirst'⟩ := Cursor.seekFrom_eq_some hq
      -- The match begins at a place from `j` on, of which `q` is the first.
      have hqr : q.offset ≤ r.offset := (hfirst' r hr (hstart ▸ hj)).offset_le
      exact ⟨q, rfl, find_eq_of_precedes (hfirst q hq (Nat.le_trans hij hjq)) hx (hstart ▸ hqr)⟩

/-- A search from an offset gives what a search from an earlier one gave, its groups included, if
that was a match that does not begin in front of the later offset, or nothing. -/
theorem findAt_of_le (m : Matcher) (text : List Char) {i j : Nat} (hij : i ≤ j) :
    (∀ x, m.findAt text i = some x → j ≤ x.start → m.findAt text j = some x) ∧
    (m.findAt text i = none → m.findAt text j = none) :=
  ⟨fun _ h hj => findAt_eq_some_of_le hij h hj, findAt_eq_none_of_le hij⟩

/-- What is found from the start of `é bc`, with what both groups have taken, is found from the
second byte of `é` as well. -/
theorem findAt_of_le_inside :
    ∃ m x, Pattern.matcher {} (.regex "(?-u:\\b)(b)(c)?" .empty) = .ok m ∧
      m.findAt "é bc".toList 0 = some x ∧ x = ⟨⟨3, 5⟩, [some ⟨3, 4⟩, some ⟨4, 5⟩]⟩ ∧
      (0 ≤ 1 ∧ 1 ≤ x.start) ∧ m.findAt "é bc".toList 1 = some x := by
  let m : Matcher :=
    (Pattern.matcher {} (.regex "(?-u:\\b)(b)(c)?" .empty)).toOption.getD default
  have hfind : m.findAt "é bc".toList 0 = some ⟨⟨3, 5⟩, [some ⟨3, 4⟩, some ⟨4, 5⟩]⟩ := by
    decide +kernel
  have hle : 0 ≤ 1 ∧ 1 ≤ (⟨⟨3, 5⟩, [some ⟨3, 4⟩, some ⟨4, 5⟩]⟩ : Match).start := by decide
  exact ⟨m, _, by decide +kernel, hfind, rfl, hle,
    (findAt_of_le m "é bc".toList hle.1).1 _ hfind hle.2⟩

end Matcher

/-! ## Searches with machine words -/

/-- What would break off a search whose offsets are machine words. -/
inductive WordFault where
  /-- A sum of offsets is no machine word. -/
  | overflow
  /-- An expression is searched from behind the end of the text. -/
  | behindEnd
  deriving DecidableEq, Repr

/-- The sum of two machine words. -/
def addWords (a b : UInt64) : Except WordFault UInt64 :=
  if a.toNat + b.toNat < UInt64.size then .ok (a + b) else .error .overflow

/-- The first place at which the bytes of a needle occur in others. -/
def Needle.position? (n : Needle) (bytes : List UInt8) : Option Nat :=
  bytes.tails.findIdx? n.bytes.isPrefixOf

/-- The first match from byte `start` on. The bytes from there on are searched by themselves, so
that `start` has to be added to the place found, and the length of the needle to the sum. -/
def Needle.findWord (n : Needle) (text : List Char) (start : UInt64) :
    Except WordFault (Option Match) :=
  if Text.byteLength text < start.toNat then .ok none
  else
    match n.position? ((Text.bytes text).drop start.toNat) with
    | none => .ok none
    | some i => do
      let first ← addWords start (.ofNat i)
      let stop ← addWords first (.ofNat n.byteLength)
      return some { span := ⟨first.toNat, stop.toNat⟩ }

/-- The first match from byte `start` on, which must not be behind the end of the text. -/
def Regex.findWord (r : Regex) (text : List Char) (start : UInt64) :
    Except WordFault (Option Match) :=
  if Text.byteLength text < start.toNat then .error .behindEnd
  else .ok ((Cursor.seek text start.toNat).bind r.find)

/-- The first match from byte `start` on. Behind the end of the text there is none, and no
expression is searched there. -/
def Matcher.findWord (m : Matcher) (text : List Char) (start : UInt64) :
    Except WordFault (Option Match) :=
  match m with
  | literal needle => needle.findWord text start
  | regex r => if Text.byteLength text < start.toNat then .ok none else r.findWord text start

theorem addWords_eq_ok {a b : UInt64} (h : a.toNat + b.toNat < UInt64.size) :
    ∃ c, addWords a b = .ok c ∧ c.toNat = a.toNat + b.toNat := by
  refine ⟨a + b, if_pos h, ?_⟩
  rw [UInt64.toNat_add, Nat.mod_eq_of_lt h]

namespace Needle

variable {n : Needle} {text : List Char} {start i : Nat}

/-- What the tail at a position begins with is what the text has there. -/
theorem mem_occurrences_iff_tails (hstart : start ≤ Text.byteLength text) :
    start + i ∈ n.occurrences text start ↔
      ∃ h : i < ((Text.bytes text).drop start).tails.length,
        n.bytes.isPrefixOf ((Text.bytes text).drop start).tails[i] := by
  change start ≤ start + i ∧ start + i ≤ Text.byteLength text ∧
    n.bytes <+: (Text.bytes text).drop (start + i) ↔ _
  simp only [List.getElem_tails, List.drop_drop, List.isPrefixOf_iff_prefix, List.length_tails,
    List.length_drop, Text.length_bytes, exists_prop]
  constructor
  · rintro ⟨-, hle, hpre⟩
    exact ⟨by omega, hpre⟩
  · rintro ⟨hlt, hpre⟩
    exact ⟨by omega, by omega, hpre⟩

theorem isLeast_of_position? (hstart : start ≤ Text.byteLength text)
    (h : n.position? ((Text.bytes text).drop start) = some i) :
    IsLeast (n.occurrences text start) (start + i) := by
  obtain ⟨hi, hpre, hfirst⟩ := List.findIdx?_eq_some_iff_getElem.1 h
  refine ⟨(mem_occurrences_iff_tails hstart).2 ⟨hi, hpre⟩, fun j hj => ?_⟩
  obtain ⟨j, rfl⟩ := Nat.exists_eq_add_of_le hj.1
  obtain ⟨_, hprej⟩ := (mem_occurrences_iff_tails hstart).1 hj
  exact Nat.add_le_add_left (Nat.le_of_not_lt fun hlt => hfirst j hlt hprej) start

theorem occurrences_eq_empty_of_position? (hstart : start ≤ Text.byteLength text)
    (h : n.position? ((Text.bytes text).drop start) = none) : n.occurrences text start = ∅ := by
  refine Set.eq_empty_iff_forall_notMem.2 fun j hj => ?_
  obtain ⟨j, rfl⟩ := Nat.exists_eq_add_of_le hj.1
  obtain ⟨hlt, hpre⟩ := (mem_occurrences_iff_tails hstart).1 hj
  rw [List.findIdx?_eq_none_iff.1 h _ (List.getElem_mem hlt)] at hpre
  cases hpre

/-- All sums of a search for a needle are offsets of the text. -/
theorem findWord_eq (n : Needle) (hlength : Text.byteLength text < UInt64.size) (start : UInt64) :
    n.findWord text start = .ok (n.findAt text start.toNat) := by
  rw [findWord]
  split
  next hlt =>
    rw [findAt_eq_none_iff.2]
    refine Set.eq_empty_iff_forall_notMem.2 fun i hi => ?_
    exact absurd (Nat.le_trans hi.1 hi.2.1) (Nat.not_le.2 hlt)
  next hle =>
    have hle := Nat.not_lt.1 hle
    cases hposition : n.position? ((Text.bytes text).drop start.toNat) with
    | none => rw [findAt_eq_none_iff.2 (occurrences_eq_empty_of_position? hle hposition)]
    | some i =>
      have hleast := isLeast_of_position? hle hposition
      have hoccurs := (mem_occurrences_iff_occursAt.1 hleast.1).2.1
      have hi : (UInt64.ofNat i).toNat = i := UInt64.toNat_ofNat_of_lt' (by omega)
      have hneedle : (UInt64.ofNat n.byteLength).toNat = n.byteLength :=
        UInt64.toNat_ofNat_of_lt' (by omega)
      obtain ⟨first, hfirst, hfirstNat⟩ :=
        addWords_eq_ok (a := start) (b := .ofNat i) (by omega)
      obtain ⟨stop, hstop, hstopNat⟩ :=
        addWords_eq_ok (a := first) (b := .ofNat n.byteLength) (by omega)
      rw [findAt_eq_some_iff.2 ⟨_, hleast, rfl⟩, matchAt]
      simp only [hfirst, hstop, bind, Except.bind, pure, Except.pure]
      rw [hstopNat, hfirstNat, hi, hneedle]

end Needle

/-! ## Spans -/

/-- Byte `i` stands between two characters of a text, or at one of its ends. -/
def Text.IsBoundary (text : List Char) (i : Nat) : Prop :=
  ∃ read rest, text = read ++ rest ∧ byteLength read = i

theorem Cursor.Precedes.isBoundary {text : List Char} {p : Cursor} (h : (ofText text).Precedes p) :
    Text.IsBoundary text p.offset := by
  obtain ⟨read, htext, hp⟩ := h
  refine ⟨read, p.rest, htext, ?_⟩
  rw [hp, past_offset, ofText, Nat.zero_add]

namespace Matcher

variable {m : Matcher} {text : List Char} {start : Nat} {x : Match}

theorem findAt_eq_none_of_lt (m : Matcher) (h : Text.byteLength text < start) :
    m.findAt text start = none := by
  by_cases hm : m = literal ⟨[]⟩
  · subst hm
    rw [findAt_empty, if_neg (Nat.not_le.2 h)]
  · rw [Option.eq_none_iff_forall_ne_some]
    intro x hx
    obtain ⟨p, _, hp, -, hle, -⟩ := exists_places_of_findAt hm hx
    exact absurd (Nat.le_trans hle hp.offset_le_byteLength) (Nat.not_le.2 h)

/-- A search with machine words is not broken off, and finds what there is. -/
theorem findWord_eq (m : Matcher) (hlength : Text.byteLength text < UInt64.size) (start : UInt64) :
    m.findWord text start = .ok (m.findAt text start.toNat) := by
  cases m with
  | literal needle => exact needle.findWord_eq hlength start
  | regex r =>
    rw [findWord]
    split
    next hlt => rw [findAt_eq_none_of_lt _ hlt]
    next hle =>
      rw [Regex.findWord, if_neg hle]
      rfl

/-- The empty needle is found at the offset itself, everything else between characters. -/
theorem span_of_findAt (h : m.findAt text start = some x) :
    start ≤ x.span.start ∧ x.span.start ≤ x.span.stop ∧ x.span.stop ≤ Text.byteLength text ∧
      (m ≠ literal ⟨[]⟩ → Text.IsBoundary text x.span.start ∧ Text.IsBoundary text x.span.stop ∧
        ∃ inside, Text.slice text x.span = some inside) ∧
      (m = literal ⟨[]⟩ → x.span = ⟨start, start⟩) := by
  by_cases hm : m = literal ⟨[]⟩
  · subst hm
    rw [findAt_empty, Option.ite_none_right_eq_some, Option.some.injEq] at h
    obtain ⟨hle, rfl⟩ := h
    exact ⟨Nat.le_refl _, Nat.le_refl _, hle, fun hne => absurd rfl hne, fun _ => rfl⟩
  · obtain ⟨p, q, hp, hpq, hle, hspan⟩ := exists_places_of_findAt hm h
    have hq := hp.trans hpq
    rw [hspan]
    refine ⟨hle, hpq.offset_le, hq.offset_le_byteLength,
      fun _ => ⟨hp.isBoundary, hq.isBoundary, ?_⟩, fun heq => absurd heq hm⟩
    obtain ⟨inside, hrest, hpast⟩ := hpq
    refine ⟨inside, ?_⟩
    rw [hpast, Cursor.past_offset]
    exact hp.slice hrest

/-- For a text whose length is a machine word, and an offset that is one: no sum of a search is too
great and no expression is searched from behind the end of the text, where nothing is found. The
span of a match lies in the text, at the offset or behind it. It lies between characters, and so can
be cut out of the text, unless it is that of the empty needle, which is found at the offset
itself. -/
theorem findAt_valid (m : Matcher) {text : List Char}
    (hlength : Text.byteLength text < UInt64.size) (start : UInt64) :
    m.findWord text start = .ok (m.findAt text start.toNat) ∧
    (Text.byteLength text < start.toNat → m.findAt text start.toNat = none) ∧
    ∀ x, m.findAt text start.toNat = some x →
      start.toNat ≤ x.span.start ∧ x.span.start ≤ x.span.stop ∧
      x.span.stop ≤ Text.byteLength text ∧
      (m ≠ literal ⟨[]⟩ →
        Text.IsBoundary text x.span.start ∧ Text.IsBoundary text x.span.stop ∧
        ∃ inside, Text.slice text x.span = some inside) ∧
      (m = literal ⟨[]⟩ → x.span = ⟨start.toNat, start.toNat⟩) :=
  ⟨m.findWord_eq hlength start, m.findAt_eq_none_of_lt, fun _ => span_of_findAt⟩

/-- From the second byte of `é` on, a word boundary between bytes is found behind the character. -/
theorem findAt_valid_inside :
    ∃ m x, Pattern.matcher {} (.regex "(?-u:\\b)b?" .empty) = .ok m ∧
      Text.byteLength "aéb".toList < UInt64.size ∧ m.findAt "aéb".toList 2 = some x ∧
      x.span = ⟨3, 4⟩ ∧ m.findWord "aéb".toList 2 = .ok (some x) ∧
      Text.IsBoundary "aéb".toList 3 ∧ Text.IsBoundary "aéb".toList 4 := by
  let m : Matcher := (Pattern.matcher {} (.regex "(?-u:\\b)b?" .empty)).toOption.getD default
  have hlength : Text.byteLength "aéb".toList < UInt64.size := by decide
  have hfind : m.findAt "aéb".toList 2 = some { span := ⟨3, 4⟩ } := by decide +kernel
  obtain ⟨hword, -, hspan⟩ := findAt_valid m hlength 2
  obtain ⟨-, -, -, hboundary, -⟩ := hspan _ hfind
  obtain ⟨hstart, hstop, -⟩ := hboundary (by decide +kernel)
  exact ⟨m, _, by decide +kernel, hlength, hfind, rfl, hword.trans (congrArg _ hfind), hstart,
    hstop⟩

end Matcher

end Munch
