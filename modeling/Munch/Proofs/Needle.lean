import Mathlib.Order.Bounds.Basic
import Munch.Proofs.Matcher

/-!
# Verbatim search in bytes

A needle is searched character by character. A search byte by byte finds the same: the first byte of
a character does not occur inside another one, so bytes of whole characters occur in the bytes of a
text between characters only.

* `Text.bytes_prefix_iff`, `Text.exists_of_isUTF8FirstByte`: which characters bytes are of.
* `Cursor.seekFrom_eq_some`, `Cursor.seekFrom_eq_none`: the first place at or after an offset.
* `Needle.findAt_finds`: a search finds the first occurrence of the bytes of the needle.
* `Needle.findAt_leftmost`: what this says of the span and the groups of its match.
-/

namespace Munch

namespace Text

/-! ## Bytes of characters -/

/-- The bytes of a text. -/
def bytes (text : List Char) : List UInt8 := text.flatMap String.utf8EncodeChar

theorem bytes_cons (c : Char) (cs : List Char) :
    bytes (c :: cs) = String.utf8EncodeChar c ++ bytes cs := List.flatMap_cons

theorem bytes_append (as bs : List Char) : bytes (as ++ bs) = bytes as ++ bytes bs :=
  List.flatMap_append

theorem length_bytes (text : List Char) : (bytes text).length = byteLength text := by
  induction text with
  | nil => rfl
  | cons c cs ih =>
    rw [bytes_cons, List.length_append, String.length_utf8EncodeChar, ih, byteLength_cons]

/-- Bytes that begin with a character begin with no other character. -/
theorem utf8EncodeChar_append_inj {c d : Char} {as bs : List UInt8}
    (h : String.utf8EncodeChar c ++ as = String.utf8EncodeChar d ++ bs) : c = d := by
  have hdecode : ∀ (e : Char) (cs : List UInt8),
      (String.utf8EncodeChar e ++ cs).toByteArray.utf8DecodeChar? 0 = some e := by
    intro e cs
    rw [List.toByteArray_append]
    exact ByteArray.utf8DecodeChar?_utf8EncodeChar_append
  have hc := hdecode c as
  rw [h, hdecode d bs, Option.some.injEq] at hc
  exact hc.symm

/-- The bytes of a text begin with those of another one if and only if the text begins with it. -/
theorem bytes_prefix_iff {as bs : List Char} : bytes as <+: bytes bs ↔ as <+: bs := by
  constructor
  · intro h
    induction as generalizing bs with
    | nil => exact List.nil_prefix
    | cons c cs ih =>
      obtain ⟨rest, hrest⟩ := h
      rw [bytes_cons, List.append_assoc] at hrest
      cases bs with
      | nil =>
        have hlen := congrArg List.length hrest
        rw [List.length_append, String.length_utf8EncodeChar] at hlen
        have := c.utf8Size_pos
        simp only [bytes, List.flatMap_nil, List.length_nil] at hlen
        omega
      | cons d ds =>
        rw [bytes_cons] at hrest
        obtain rfl := utf8EncodeChar_append_inj hrest
        rw [List.cons_prefix_cons]
        exact ⟨rfl, ih ⟨rest, List.append_cancel_left hrest⟩⟩
  · rintro ⟨rest, rfl⟩
    rw [bytes_append]
    exact List.prefix_append _ _

/-- The first byte of a text begins a character. -/
theorem exists_isUTF8FirstByte (c : Char) (cs : List Char) :
    ∃ b, (bytes (c :: cs))[0]? = some b ∧ b.IsUTF8FirstByte := by
  have hpos : 0 < (String.utf8EncodeChar c).length := by
    rw [String.length_utf8EncodeChar]
    exact c.utf8Size_pos
  refine ⟨(String.utf8EncodeChar c)[0], ?_, UInt8.isUTF8FirstByte_getElem_utf8EncodeChar.2 rfl⟩
  rw [bytes_cons, List.getElem?_append_left hpos, List.getElem?_eq_getElem]

/-- A byte that begins a character stands between characters. -/
theorem exists_of_isUTF8FirstByte {text : List Char} {i : Nat} {b : UInt8}
    (h : (bytes text)[i]? = some b) (hb : b.IsUTF8FirstByte) :
    ∃ read rest, text = read ++ rest ∧ byteLength read = i := by
  induction text generalizing i with
  | nil => cases h
  | cons c cs ih =>
    rw [bytes_cons, List.getElem?_append] at h
    split at h
    next hlt =>
      obtain ⟨hi, hget⟩ := List.getElem?_eq_some_iff.1 h
      rw [← hget, UInt8.isUTF8FirstByte_getElem_utf8EncodeChar] at hb
      exact ⟨[], c :: cs, rfl, hb.symm⟩
    next hle =>
      obtain ⟨read, rest, rfl, hread⟩ := ih h
      refine ⟨c :: read, rest, rfl, ?_⟩
      rw [byteLength_cons, hread, String.length_utf8EncodeChar]
      rw [String.length_utf8EncodeChar] at hle
      omega

end Text

/-! ## Places -/

namespace Cursor

theorem Precedes.drop_bytes {text : List Char} {p : Cursor} (h : (ofText text).Precedes p) :
    (Text.bytes text).drop p.offset = Text.bytes p.rest := by
  obtain ⟨read, htext, hp⟩ := h
  have hoffset : p.offset = (Text.bytes read).length := by
    rw [hp, Text.length_bytes, past_offset, ofText, Nat.zero_add]
  rw [show text = read ++ p.rest from htext, Text.bytes_append, hoffset, List.drop_left]

/-- Seeking finds a place at or after the offset, and every other one is a later place. -/
theorem seekFrom_eq_some {start offset : Nat} {before : Option Char} {rest : List Char} {p : Cursor}
    (h : seekFrom start before offset rest = some p) :
    (⟨before, rest, offset⟩ : Cursor).Precedes p ∧ start ≤ p.offset ∧
      ∀ q, (⟨before, rest, offset⟩ : Cursor).Precedes q → start ≤ q.offset → p.Precedes q := by
  induction rest generalizing before offset with
  | nil =>
    rw [seekFrom, Option.ite_none_right_eq_some, Option.some.injEq] at h
    obtain ⟨hle, rfl⟩ := h
    exact ⟨.refl _, hle, fun q hq _ => hq⟩
  | cons c cs ih =>
    rw [seekFrom] at h
    split at h
    next hle =>
      cases h
      exact ⟨.refl _, hle, fun q hq _ => hq⟩
    next hlt =>
      obtain ⟨hp, hle, hfirst⟩ := ih h
      refine ⟨(Precedes.of_cons rfl).trans hp, hle, fun q hq hstart => hfirst q ?_ hstart⟩
      rw [← mem_places, places_cons rfl, List.mem_cons] at hq
      rcases hq with rfl | hq
      · exact absurd hstart hlt
      · exact mem_places.1 hq

/-- Seeking finds nothing if all places are in front of the offset. -/
theorem seekFrom_eq_none {start offset : Nat} {before : Option Char} {rest : List Char}
    (h : seekFrom start before offset rest = none) {q : Cursor}
    (hq : (⟨before, rest, offset⟩ : Cursor).Precedes q) : q.offset < start := by
  induction rest generalizing before offset with
  | nil =>
    rw [seekFrom, ite_eq_right_iff] at h
    rw [← mem_places, places_nil rfl, List.mem_singleton] at hq
    rw [hq]
    exact Nat.not_le.1 fun hle => Option.some_ne_none _ (h hle)
  | cons c cs ih =>
    rw [seekFrom] at h
    split at h
    · cases h
    next hlt =>
      rw [← mem_places, places_cons rfl, List.mem_cons] at hq
      rcases hq with rfl | hq
      · exact Nat.not_le.1 hlt
      · exact ih h (mem_places.1 hq)

end Cursor

namespace Needle

variable {n : Needle} {text : List Char} {start i : Nat}

/-! ## Searching -/

/-- The bytes of a needle that is not empty occur where the needle itself stands. -/
theorem bytes_prefix_drop_iff (hne : n.text ≠ []) :
    n.bytes <+: (Text.bytes text).drop i ↔
      ∃ q, (Cursor.ofText text).Precedes q ∧ q.offset = i ∧ n.text <+: q.rest := by
  constructor
  · intro h
    obtain ⟨c, cs, hc⟩ := List.exists_cons_of_ne_nil hne
    obtain ⟨b, hb, hfirst⟩ := Text.exists_isUTF8FirstByte c cs
    rw [← hc] at hb
    obtain ⟨later, hlater⟩ := h
    have hat : (Text.bytes text)[i]? = some b := by
      rw [← Nat.add_zero i, ← List.getElem?_drop, ← hlater]
      exact (List.getElem?_append_left (List.getElem?_eq_some_iff.1 hb).1).trans hb
    obtain ⟨read, rest, rfl, rfl⟩ := Text.exists_of_isUTF8FirstByte hat hfirst
    have hplace : (Cursor.ofText (read ++ rest)).Precedes
        ((Cursor.ofText (read ++ rest)).past read rest) := .of_rest rfl
    have hoffset : ((Cursor.ofText (read ++ rest)).past read rest).offset = Text.byteLength read :=
      Nat.zero_add _
    refine ⟨_, hplace, hoffset, Text.bytes_prefix_iff.1 ⟨later, ?_⟩⟩
    rw [← hplace.drop_bytes, hoffset]
    exact hlater
  · rintro ⟨q, hq, rfl, hpre⟩
    rw [hq.drop_bytes]
    exact Text.bytes_prefix_iff.2 hpre

/-- The offsets from `start` on at which the bytes of a needle occur in a text. -/
def occurrences (n : Needle) (text : List Char) (start : Nat) : Set Nat :=
  {i | start ≤ i ∧ i ≤ Text.byteLength text ∧ n.bytes <+: (Text.bytes text).drop i}

theorem mem_occurrences_iff (hne : n.text ≠ []) :
    i ∈ n.occurrences text start ↔
      ∃ q, (Cursor.ofText text).Precedes q ∧ start ≤ q.offset ∧ q.offset = i ∧
        n.text <+: q.rest := by
  change start ≤ i ∧ i ≤ Text.byteLength text ∧ n.bytes <+: (Text.bytes text).drop i ↔ _
  rw [bytes_prefix_drop_iff hne]
  constructor
  · rintro ⟨hstart, -, q, hq, rfl, hpre⟩
    exact ⟨q, hq, hstart, rfl, hpre⟩
  · rintro ⟨q, hq, hstart, rfl, hpre⟩
    exact ⟨hstart, hq.offset_le_byteLength, q, hq, rfl, hpre⟩

/-- What a search finds in `occurrences`: nothing, or the first of them. -/
def Finds (n : Needle) (found : Option Match) (occurrences : Set Nat) : Prop :=
  (found = none ∧ occurrences = ∅) ∨ ∃ i, found = some (n.matchAt i) ∧ IsLeast occurrences i

/-- The empty needle occurs everywhere. -/
theorem findAt_finds_of_eq_nil (h : n.text = []) :
    n.Finds (n.findAt text start) (n.occurrences text start) := by
  have hpre : ∀ i, n.bytes <+: (Text.bytes text).drop i := by
    intro i
    rw [bytes, h]
    exact List.nil_prefix
  rw [findAt, if_pos (List.isEmpty_iff.2 h)]
  by_cases hle : start ≤ Text.byteLength text
  · rw [if_pos hle]
    exact .inr ⟨start, rfl, ⟨Nat.le_refl _, hle, hpre start⟩, fun i hi => hi.1⟩
  · rw [if_neg hle]
    refine .inl ⟨rfl, Set.eq_empty_iff_forall_notMem.2 fun i hi => ?_⟩
    exact hle (Nat.le_trans hi.1 hi.2.1)

theorem findAt_finds_of_ne_nil (hne : n.text ≠ []) :
    n.Finds (n.findAt text start) (n.occurrences text start) := by
  rw [findAt, if_neg (by simpa using hne)]
  cases hseek : Cursor.seek text start with
  | none =>
    refine .inl ⟨rfl, Set.eq_empty_iff_forall_notMem.2 fun i hi => ?_⟩
    obtain ⟨q, hq, hstart, -⟩ := (mem_occurrences_iff hne).1 hi
    have := Cursor.seekFrom_eq_none hseek hq
    omega
  | some p =>
    obtain ⟨hp, hle, hfirst⟩ := Cursor.seekFrom_eq_some hseek
    cases hfind : (Matcher.literal n).find p with
    | none =>
      refine .inl ⟨hfind, Set.eq_empty_iff_forall_notMem.2 fun i hi => ?_⟩
      obtain ⟨q, hq, hstart, -, hpre⟩ := (mem_occurrences_iff hne).1 hi
      have hnone := Matcher.find_eq_none_iff.1 hfind q (hfirst q hq hstart)
      rw [Matcher.matchAt_literal_eq_some_iff.2 ⟨hpre, rfl⟩] at hnone
      cases hnone
    | some x =>
      obtain ⟨q, hq, hx⟩ := Matcher.exists_of_find_eq_some hfind
      obtain ⟨hpre, rfl⟩ := Matcher.matchAt_literal_eq_some_iff.1 hx
      have hstart : start ≤ q.offset := Nat.le_trans hle hq.offset_le
      refine .inr ⟨q.offset, hfind, (mem_occurrences_iff hne).2
        ⟨q, hp.trans hq, hstart, rfl, hpre⟩, fun i hi => ?_⟩
      obtain ⟨q', hq', hstart', rfl, hpre'⟩ := (mem_occurrences_iff hne).1 hi
      exact Matcher.start_le_of_matchAt hfind (hfirst q' hq' hstart')
        (Matcher.matchAt_literal_eq_some_iff.2 ⟨hpre', rfl⟩)

/-- A search finds the first place from an offset on, between characters or not, at which the bytes
of the needle occur. -/
theorem findAt_finds (n : Needle) (text : List Char) (start : Nat) :
    n.Finds (n.findAt text start) (n.occurrences text start) := by
  by_cases h : n.text = []
  · exact findAt_finds_of_eq_nil h
  · exact findAt_finds_of_ne_nil h

/-- The bytes of a text from byte `i` on, as many as a needle has, are the bytes of the needle. -/
def OccursAt (n : Needle) (text : List Char) (i : Nat) : Prop :=
  i + n.byteLength ≤ Text.byteLength text ∧
    ((Text.bytes text).drop i).take n.byteLength = n.bytes

theorem mem_occurrences_iff_occursAt :
    i ∈ n.occurrences text start ↔ start ≤ i ∧ n.OccursAt text i := by
  have hlength : n.byteLength = n.bytes.length := (Text.length_bytes n.text).symm
  change start ≤ i ∧ i ≤ Text.byteLength text ∧ n.bytes <+: (Text.bytes text).drop i ↔ _
  rw [OccursAt, hlength, List.prefix_iff_eq_take, eq_comm (a := n.bytes)]
  refine and_congr_right fun _ => and_congr_left fun htake => ⟨fun hle => ?_, fun hle => by omega⟩
  have := congrArg List.length htake
  rw [List.length_take, List.length_drop, Text.length_bytes] at this
  omega

theorem findAt_eq_some_iff {m : Match} :
    n.findAt text start = some m ↔ ∃ i, IsLeast (n.occurrences text start) i ∧ m = n.matchAt i := by
  constructor
  · intro h
    obtain ⟨hnone, -⟩ | ⟨i, hfound, hleast⟩ := n.findAt_finds text start
    · rw [h] at hnone
      cases hnone
    · exact ⟨i, hleast, Option.some.inj (h.symm.trans hfound)⟩
  · rintro ⟨i, hleast, rfl⟩
    obtain ⟨-, hempty⟩ | ⟨i', hfound, hleast'⟩ := n.findAt_finds text start
    · exact absurd (hempty ▸ hleast.1) (Set.notMem_empty i)
    · rw [hleast.unique hleast', hfound]

theorem findAt_eq_none_iff : n.findAt text start = none ↔ n.occurrences text start = ∅ := by
  obtain ⟨hnone, hempty⟩ | ⟨i, hfound, hleast⟩ := n.findAt_finds text start
  · exact iff_of_true hnone hempty
  · rw [hfound]
    exact iff_of_false (Option.some_ne_none _) fun hempty =>
      Set.notMem_empty i (hempty ▸ hleast.1)

/-- A match of a needle is known by its span and by having no groups of its own. -/
theorem eq_matchAt_iff {m : Match} :
    m = n.matchAt i ↔ m.span = ⟨i, i + n.byteLength⟩ ∧ m.groupCount = 1 := by
  obtain ⟨span, groups⟩ := m
  rw [matchAt, Match.mk.injEq, Match.groupCount, Nat.add_eq_right, List.length_eq_zero_iff]

/-- A search finds the needle at the first byte from `start` on at which it occurs, as a match that
has no group but the match itself, and finds nothing if and only if it does not occur from there
on. -/
theorem findAt_leftmost (n : Needle) (text : List Char) (start : Nat) :
    (∀ m, n.findAt text start = some m ↔
      ∃ i, IsLeast {i | start ≤ i ∧ n.OccursAt text i} i ∧
        m.span = ⟨i, i + n.byteLength⟩ ∧ m.groupCount = 1) ∧
    (∀ m, n.findAt text start = some m →
      m.groupSpan 0 = some m.span ∧ ∀ g, g ≠ 0 → m.groupSpan g = none) ∧
    (n.findAt text start = none ↔ ∀ i, start ≤ i → ¬ n.OccursAt text i) ∧
    (Text.byteLength text < start → n.findAt text start = none) := by
  have hset : n.occurrences text start = {i | start ≤ i ∧ n.OccursAt text i} :=
    Set.ext fun i => mem_occurrences_iff_occursAt
  have hnone : n.findAt text start = none ↔ ∀ i, start ≤ i → ¬ n.OccursAt text i := by
    rw [findAt_eq_none_iff, hset, Set.eq_empty_iff_forall_notMem]
    exact forall_congr' fun i => not_and
  refine ⟨fun m => ?_, fun m hm => ⟨rfl, fun g hg => ?_⟩, hnone, fun hlt => ?_⟩
  · rw [findAt_eq_some_iff, hset]
    exact exists_congr fun i => and_congr_right fun _ => eq_matchAt_iff
  · obtain ⟨i, -, rfl⟩ := findAt_eq_some_iff.1 hm
    obtain ⟨g, rfl⟩ := Nat.exists_eq_succ_of_ne_zero hg
    rfl
  · rw [hnone]
    intro i hi hoccurs
    have := hoccurs.1
    omega

/-- The needle `aa` is found where two of its places overlap, and the empty needle inside a
character. -/
example :
    (Needle.mk ['a', 'a']).findAt ['é', 'a', 'a', 'a'] 1 = some { span := ⟨2, 4⟩ } ∧
      (Needle.mk ['a', 'a']).findAt ['é', 'a', 'a', 'a'] 3 = some { span := ⟨3, 5⟩ } ∧
      (Needle.mk []).findAt ['é', 'a', 'a', 'a'] 1 = some { span := ⟨1, 1⟩ } := by
  decide

end Needle

end Munch
