import Mathlib.Algebra.Ring.Nat
import Munch.Text.Cursor

/-!
# The places of a text

Reading a text moves a `Cursor` forward, and byte offsets name the places it can come to.

* `Cursor.Precedes p q`: `q` is `p` or a later place of the same text, and then at a greater offset
  (`Precedes.eq_or_offset_lt`).
* `Cursor.places p`: all of these places in order (`mem_places`).
* `readTo_past`, `Precedes.slice`, `seek_eq`: reading up to an offset, cutting between two
  offsets and seeking an offset agree on what lies between two places.
-/

namespace Munch

namespace Cursor

/-- The place to which reading `text` leads; `rest` is left. -/
def past (p : Cursor) (text rest : List Char) : Cursor :=
  ⟨text.getLast?.or p.before, rest, p.offset + Text.byteLength text⟩

@[simp] theorem past_rest (p : Cursor) (text rest : List Char) : (p.past text rest).rest = rest :=
  rfl

@[simp] theorem past_offset (p : Cursor) (text rest : List Char) :
    (p.past text rest).offset = p.offset + Text.byteLength text := rfl

@[simp] theorem past_nil (p : Cursor) : p.past [] p.rest = p := by simp [past]

theorem past_past (p : Cursor) (as bs mid rest : List Char) :
    (p.past as mid).past bs rest = p.past (as ++ bs) rest := by
  simp only [past, Text.byteLength_append, List.getLast?_append, Cursor.mk.injEq, true_and]
  exact ⟨by cases bs.getLast? <;> rfl, by omega⟩

theorem past_cons (p : Cursor) (c : Char) (cs rest : List Char) :
    p.past (c :: cs) rest = (p.past [c] (cs ++ rest)).past cs rest := by
  rw [past_past]; rfl

/-- Moving past one character. -/
theorem past_singleton (p : Cursor) (c : Char) (rest : List Char) :
    p.past [c] rest = ⟨some c, rest, p.offset + c.utf8Size⟩ := by simp [past]

/-- `q` is the place `p` or a later one of the same text. -/
def Precedes (p q : Cursor) : Prop := ∃ text, p.rest = text ++ q.rest ∧ q = p.past text q.rest

namespace Precedes

variable {p q r : Cursor}

theorem refl (p : Cursor) : p.Precedes p := ⟨[], rfl, (past_nil p).symm⟩

theorem of_rest {text rest : List Char} (h : p.rest = text ++ rest) :
    p.Precedes (p.past text rest) := ⟨text, h, rfl⟩

/-- The place after the next character. -/
theorem of_cons {c : Char} {cs : List Char} (h : p.rest = c :: cs) :
    p.Precedes ⟨some c, cs, p.offset + c.utf8Size⟩ := by
  rw [← past_singleton]
  exact of_rest h

theorem trans (hq : p.Precedes q) (hr : q.Precedes r) : p.Precedes r := by
  obtain ⟨as, ha, hq⟩ := hq
  obtain ⟨bs, hb, hr⟩ := hr
  refine ⟨as ++ bs, by rw [ha, hb, List.append_assoc], ?_⟩
  rw [hr, hq, past_past, past_rest]

theorem byteLength_rest (h : p.Precedes q) :
    q.offset + Text.byteLength q.rest = p.offset + Text.byteLength p.rest := by
  obtain ⟨text, h, hq⟩ := h
  rw [h, hq]
  simp only [past_offset, past_rest, Text.byteLength_append]
  omega

/-- A later place has passed at least one character. -/
theorem eq_or_offset_lt (h : p.Precedes q) : p = q ∨ p.offset < q.offset := by
  obtain ⟨text, h, hq⟩ := h
  cases text with
  | nil =>
    left
    rw [hq, ← show p.rest = q.rest from h, past_nil]
  | cons c cs =>
    right
    have := c.utf8Size_pos
    rw [hq, past_offset, Text.byteLength_cons]
    omega

theorem offset_le (h : p.Precedes q) : p.offset ≤ q.offset := by
  rcases h.eq_or_offset_lt with rfl | hlt <;> omega

/-- The end of the text is the last place. -/
theorem rest_eq_nil_iff (h : p.Precedes q) :
    q.rest = [] ↔ q.offset = p.offset + Text.byteLength p.rest := by
  rw [← h.byteLength_rest]
  constructor
  · intro h
    simp [h]
  · intro h
    have := Text.length_le_byteLength q.rest
    exact List.eq_nil_of_length_eq_zero (by omega)

end Precedes

/-! ## All places -/

/-- The places from one on that is given by the character before it, its offset and the text after
it. -/
def placesFrom (before : Option Char) (offset : Nat) : List Char → List Cursor
  | [] => [⟨before, [], offset⟩]
  | c :: cs => ⟨before, c :: cs, offset⟩ :: placesFrom (some c) (offset + c.utf8Size) cs

/-- The place itself and all later ones, in order. -/
def places (p : Cursor) : List Cursor := placesFrom p.before p.offset p.rest

theorem places_nil {p : Cursor} (h : p.rest = []) : p.places = [p] := by
  cases p
  cases h
  rfl

theorem places_cons {p : Cursor} {c : Char} {cs : List Char} (h : p.rest = c :: cs) :
    p.places = p :: (⟨some c, cs, p.offset + c.utf8Size⟩ : Cursor).places := by
  cases p
  cases h
  rfl

theorem mem_places {p q : Cursor} : q ∈ p.places ↔ p.Precedes q := by
  obtain ⟨before, rest, offset⟩ := p
  induction rest generalizing before offset with
  | nil =>
    rw [places_nil rfl, List.mem_singleton]
    constructor
    · rintro rfl
      exact .refl _
    · rintro ⟨text, h, hq⟩
      obtain ⟨rfl, hr⟩ := List.append_eq_nil_iff.1 h.symm
      rw [hq, hr]
      exact past_nil ⟨before, [], offset⟩
  | cons c cs ih =>
    rw [places_cons rfl, List.mem_cons, ih]
    constructor
    · rintro (rfl | h)
      · exact .refl _
      · exact (Precedes.of_cons rfl).trans h
    · rintro ⟨text, h, hq⟩
      cases text with
      | nil =>
        left
        rw [hq, ← show c :: cs = q.rest from h]
        exact past_nil ⟨before, c :: cs, offset⟩
      | cons d ds =>
        obtain ⟨rfl, hds⟩ := List.cons.inj (h.trans (List.cons_append ..))
        right
        exact ⟨ds, hds, by rw [hq, past_cons, past_singleton, ← hds, past_rest]⟩

/-- The places from a later place on are the end of all places. -/
theorem Precedes.places_eq {p q : Cursor} (h : p.Precedes q) :
    ∃ passed, p.places = passed ++ q.places ∧ ∀ r ∈ passed, r.offset < q.offset := by
  obtain ⟨text, ht, hq⟩ := h
  induction text generalizing p with
  | nil =>
    refine ⟨[], ?_, by simp⟩
    rw [List.nil_append, hq, ← show p.rest = q.rest from ht, past_nil]
  | cons c cs ih =>
    have hq' : q = (⟨some c, cs ++ q.rest, p.offset + c.utf8Size⟩ : Cursor).past cs q.rest := by
      rw [hq, past_cons, past_singleton, past_rest]
    obtain ⟨passed, hp, hlt⟩ := ih rfl hq'
    have hrest : p.rest = c :: (cs ++ q.rest) := ht
    refine ⟨p :: passed, by rw [places_cons hrest, hp, List.cons_append], ?_⟩
    rintro r (_ | ⟨_, hr⟩)
    · have := c.utf8Size_pos
      rw [hq]
      simp only [past_offset, Text.byteLength_cons]
      omega
    · exact hlt r hr

/-! ## Reading, cutting and seeking -/

theorem readFrom_past (before : Option Char) (offset : Nat) (text rest : List Char) :
    readFrom (offset + Text.byteLength text) before offset (text ++ rest) =
      (text, (⟨before, text ++ rest, offset⟩ : Cursor).past text rest) := by
  induction text generalizing before offset with
  | nil => cases rest <;> simp [readFrom, past]
  | cons c cs ih =>
    have hc := c.utf8Size_pos
    have h := ih (some c) (offset + c.utf8Size)
    rw [Nat.add_assoc, ← Text.byteLength_cons] at h
    rw [List.cons_append, readFrom, if_pos (by rw [Text.byteLength_cons]; omega), h, past_cons,
      past_singleton]

/-- Reading up to a later place gives the text in between and that place. -/
theorem readTo_past {p : Cursor} {text rest : List Char} (h : p.rest = text ++ rest) :
    p.readTo (p.offset + Text.byteLength text) = (text, p.past text rest) := by
  rw [readTo, h, readFrom_past]
  rfl

theorem seekFrom_past (before : Option Char) (offset : Nat) (text rest : List Char) :
    seekFrom (offset + Text.byteLength text) before offset (text ++ rest) =
      some ((⟨before, text ++ rest, offset⟩ : Cursor).past text rest) := by
  induction text generalizing before offset with
  | nil => cases rest <;> simp [seekFrom, past]
  | cons c cs ih =>
    have hc := c.utf8Size_pos
    have h := ih (some c) (offset + c.utf8Size)
    rw [Nat.add_assoc, ← Text.byteLength_cons] at h
    rw [List.cons_append, seekFrom, if_neg (by rw [Text.byteLength_cons]; omega), h, past_cons,
      past_singleton]

/-- Seeking the offset of a place finds the place. -/
theorem seek_eq {text : List Char} {p : Cursor} (h : (ofText text).Precedes p) :
    seek text p.offset = some p := by
  obtain ⟨read, ht, hp⟩ := h
  have h := seekFrom_past none 0 read p.rest
  rw [← show text = read ++ p.rest from ht, Nat.zero_add] at h
  have hoff : p.offset = Text.byteLength read := by rw [hp]; simp [ofText]
  rw [seek, hoff, h]
  exact congrArg some hp.symm

end Cursor

namespace Text

theorem dropBytes_append (as bs : List Char) :
    dropBytes (byteLength as) (as ++ bs) = some bs := by
  induction as with
  | nil => cases bs <;> rfl
  | cons c cs ih =>
    obtain ⟨n, hn⟩ : ∃ n, byteLength (c :: cs) = n + 1 :=
      ⟨_, (Nat.succ_pred_eq_of_pos (by have := c.utf8Size_pos; simp; omega)).symm⟩
    have hsub : n + 1 - c.utf8Size = byteLength cs := by rw [← hn]; simp
    rw [hn, List.cons_append, dropBytes, if_pos (by rw [← hn]; simp), hsub, ih]

theorem takeBytes_append (as bs : List Char) :
    takeBytes (byteLength as) (as ++ bs) = some as := by
  induction as with
  | nil => cases bs <;> rfl
  | cons c cs ih =>
    obtain ⟨n, hn⟩ : ∃ n, byteLength (c :: cs) = n + 1 :=
      ⟨_, (Nat.succ_pred_eq_of_pos (by have := c.utf8Size_pos; simp; omega)).symm⟩
    have hsub : n + 1 - c.utf8Size = byteLength cs := by rw [← hn]; simp
    rw [hn, List.cons_append, takeBytes, if_pos (by rw [← hn]; simp), hsub, ih]
    rfl

theorem byteLength_flatten (pieces : List (List Char)) :
    byteLength pieces.flatten = (pieces.map byteLength).sum := by
  induction pieces with
  | nil => rfl
  | cons piece pieces ih => simp [ih]

/-- Two beginnings of a text that have the same number of bytes are the same. -/
theorem eq_of_append_eq {as bs rest rest' : List Char} (h : as ++ rest = bs ++ rest')
    (hlen : byteLength as = byteLength bs) : as = bs := by
  have has := takeBytes_append as rest
  rw [h, hlen, takeBytes_append, Option.some.injEq] at has
  exact has.symm

end Text

namespace Cursor.Precedes

variable {source : List Char} {p q : Cursor}

theorem dropBytes (h : (ofText source).Precedes p) :
    Text.dropBytes p.offset source = some p.rest := by
  obtain ⟨read, ht, hp⟩ := h
  have hoff : p.offset = Text.byteLength read := by rw [hp]; simp [ofText]
  rw [hoff, show source = read ++ p.rest from ht, Text.dropBytes_append]

theorem offset_le_byteLength (h : (ofText source).Precedes p) :
    p.offset ≤ Text.byteLength source := by
  have := h.byteLength_rest
  simp only [ofText] at this
  omega

/-- The slice between two places is the text in between. -/
theorem slice (h : (ofText source).Precedes p) {text rest : List Char}
    (ht : p.rest = text ++ rest) :
    Text.slice source ⟨p.offset, p.offset + Text.byteLength text⟩ = some text := by
  rw [Text.slice, if_pos (by simp), h.dropBytes, Option.bind_some, Nat.add_sub_cancel_left, ht,
    Text.takeBytes_append]

/-- The slice of a text that stands somewhere behind a place. -/
theorem slice_append (h : (ofText source).Precedes p) {as bs rest : List Char}
    (hr : p.rest = as ++ (bs ++ rest)) :
    Text.slice source ⟨p.offset + Text.byteLength as, p.offset + Text.byteLength (as ++ bs)⟩ =
      some bs := by
  rw [Text.byteLength_append, ← Nat.add_assoc]
  exact (h.trans (.of_rest hr)).slice (past_rest ..)

end Cursor.Precedes

end Munch
