import Munch.Proofs.CharSet
import Munch.Proofs.Regex.Meaning
import Munch.Proofs.Regex.Star

/-!
# What an expression reads first

An expression in front of a text may have one way to read or several, of which it tries one first.
What it does is put together from what its parts do, where the text behind a part begins with what
the next part reads.

* `Expr.ReadsExactly`: there is one way to read.
* `Expr.ReadsFirst`: the way that is tried first, which is the match if what follows can be read.
* `Expr.Refuses`: there is no way to read.
* `Expr.ReadsFirst.matchAt`, `Expr.Refuses.matchAt`: what that means for matches.
-/

namespace Munch.Regex.Expr

/-- In front of `text` and `rest` there is one way to read by the expression, which reads `text`. -/
def ReadsExactly (e : Expr) (text rest : List Char) : Prop :=
  ∀ ⦃α : Type⦄ ⦃k : Onwards α⦄ ⦃p : Cursor⦄ ⦃captures : Captures⦄, p.rest = text ++ rest →
    e.run k p captures = k (p.past text rest) captures

/-- In front of `text` and `rest` the way that the expression tries first reads `text`. -/
def ReadsFirst (e : Expr) (text rest : List Char) : Prop :=
  ∀ ⦃α : Type⦄ ⦃k : Onwards α⦄ ⦃p : Cursor⦄ ⦃captures : Captures⦄ ⦃x : α⦄, p.rest = text ++ rest →
    k (p.past text rest) captures = some x → e.run k p captures = some x

/-- In front of `rest` there is no way to read by the expression. -/
def Refuses (e : Expr) (rest : List Char) : Prop :=
  ∀ ⦃α : Type⦄ ⦃k : Onwards α⦄ ⦃p : Cursor⦄ ⦃captures : Captures⦄, p.rest = rest →
    e.run k p captures = none

/-- A part that may be left out. -/
abbrev optional (e : Expr) : Expr := .iterate 0 (some 1) true e

/-- At least one character of a set. -/
abbrev plus (set : CharSet) : Expr := .iterate 1 none true (.chars set)

/-- The characters of a text, one after the other. -/
def word (text : List Char) : Expr := .ofFactors (text.map fun c => .chars (.singleton c))

variable {a b body : Expr} {set : CharSet} {text text' rest : List Char}

theorem ReadsExactly.first (h : a.ReadsExactly text rest) : a.ReadsFirst text rest :=
  fun _ _ _ _ _ hp hk => (h hp).trans hk

/-! ## Characters -/

theorem ReadsExactly.chars {c : Char} (hc : set.contains c) :
    (Expr.chars set).ReadsExactly [c] rest :=
  fun _ _ _ _ hp => readChar_of_cons hp hc

theorem ReadsExactly.singleton {c : Char} : (Expr.chars (.singleton c)).ReadsExactly [c] rest :=
  .chars (CharSet.contains_singleton.2 rfl)

theorem Refuses.chars (h : ∀ c ∈ rest.head?, ¬ set.contains c) : (Expr.chars set).Refuses rest :=
  fun _ _ _ _ hp => readChar_eq_none (hp ▸ h)

theorem Refuses.singleton {d : Char} (h : ∀ c ∈ rest.head?, c ≠ d) :
    (Expr.chars (.singleton d)).Refuses rest :=
  .chars fun c hc hs => h c hc (CharSet.contains_singleton.1 hs)

theorem Refuses.chars_cons {c : Char} (h : ¬ set.contains c) :
    (Expr.chars set).Refuses (c :: rest) :=
  .chars (by simpa using h)

theorem Refuses.singleton_cons {c d : Char} (h : c ≠ d) :
    (Expr.chars (.singleton d)).Refuses (c :: rest) :=
  .singleton (by simpa using h)

/-! ## Sequences and choices -/

theorem ReadsExactly.seq (ha : a.ReadsExactly text (text' ++ rest))
    (hb : b.ReadsExactly text' rest) : (Expr.seq a b).ReadsExactly (text ++ text') rest := by
  intro α k p captures hp
  rw [List.append_assoc] at hp
  rw [run, ha hp, hb (Cursor.past_rest ..), Cursor.past_past]

theorem ReadsFirst.seq (ha : a.ReadsFirst text (text' ++ rest)) (hb : b.ReadsFirst text' rest) :
    (Expr.seq a b).ReadsFirst (text ++ text') rest := by
  intro α k p captures x hp hk
  rw [List.append_assoc] at hp
  rw [← Cursor.past_past _ _ _ (text' ++ rest)] at hk
  exact ha hp (hb (Cursor.past_rest ..) hk)

theorem Refuses.seq (ha : a.Refuses rest) : (Expr.seq a b).Refuses rest :=
  fun _ _ _ _ hp => ha hp

theorem Refuses.seq_of_reads (ha : a.ReadsExactly text rest) (hb : b.Refuses rest) :
    (Expr.seq a b).Refuses (text ++ rest) := by
  intro α k p captures hp
  rw [run, ha hp, hb (Cursor.past_rest ..)]

theorem ReadsExactly.alt_left (ha : a.ReadsExactly text rest) (hb : b.Refuses (text ++ rest)) :
    (Expr.alt a b).ReadsExactly text rest := by
  intro α k p captures hp
  rw [run]
  dsimp only
  rw [ha hp, hb hp, Option.or_none]

theorem ReadsExactly.alt_right (ha : a.Refuses (text ++ rest)) (hb : b.ReadsExactly text rest) :
    (Expr.alt a b).ReadsExactly text rest := by
  intro α k p captures hp
  rw [run]
  dsimp only
  rw [ha hp, hb hp, Option.none_or]

theorem ReadsFirst.alt_left (ha : a.ReadsFirst text rest) :
    (Expr.alt a b).ReadsFirst text rest := by
  intro α k p captures x hp hk
  rw [run]
  dsimp only
  rw [ha hp hk, Option.some_or]

theorem ReadsFirst.alt_right (ha : a.Refuses (text ++ rest)) (hb : b.ReadsFirst text rest) :
    (Expr.alt a b).ReadsFirst text rest := by
  intro α k p captures x hp hk
  rw [run]
  dsimp only
  rw [ha hp, hb hp hk, Option.none_or]

theorem Refuses.alt (ha : a.Refuses rest) (hb : b.Refuses rest) : (Expr.alt a b).Refuses rest := by
  intro α k p captures hp
  rw [run]
  dsimp only
  rw [ha hp, hb hp, Option.none_or]

theorem ReadsExactly.word (h : text ≠ []) : (word text).ReadsExactly text rest := by
  induction text with
  | nil => exact absurd rfl h
  | cons c text ih =>
    cases text with
    | nil => exact .singleton
    | cons d text => exact (ReadsExactly.singleton (c := c)).seq (ih (by simp))

theorem Refuses.word {d : Char} (h : ∀ c ∈ rest.head?, c ≠ d) (text : List Char) :
    (word (d :: text)).Refuses rest := by
  cases text with
  | nil => exact .singleton h
  | cons c text => exact (Refuses.singleton h).seq

/-! ## Repetitions -/

theorem run_optional {α : Type} (e : Expr) (k : Onwards α) (p : Cursor) (captures : Captures) :
    (optional e).run k p captures = (e.run k p captures).or (k p captures) := rfl

theorem ReadsFirst.optional (h : a.ReadsFirst text rest) : (optional a).ReadsFirst text rest := by
  intro α k p captures x hp hk
  rw [run_optional, h hp hk, Option.some_or]

/-- A part that cannot be read is left out. -/
theorem ReadsExactly.omitted (h : a.Refuses rest) : (optional a).ReadsExactly [] rest := by
  intro α k p captures hp
  rw [List.nil_append] at hp
  rw [run_optional, h hp, Option.none_or, ← hp, Cursor.past_nil]

theorem ReadsFirst.star (htext : ∀ c ∈ text, set.contains c)
    (hrest : ∀ c ∈ rest.head?, ¬ set.contains c) : (star true set).ReadsFirst text rest :=
  fun _ _ _ _ _ hp hk => run_greedy_of_some hp htext hrest hk

theorem ReadsFirst.plus (hne : text ≠ []) (htext : ∀ c ∈ text, set.contains c)
    (hrest : ∀ c ∈ rest.head?, ¬ set.contains c) : (plus set).ReadsFirst text rest := by
  cases text with
  | nil => exact absurd rfl hne
  | cons c text =>
    have hread : (Expr.seq (.chars set) (.star true set)).ReadsFirst ([c] ++ text) rest :=
      (ReadsExactly.chars (htext c (by simp))).first.seq
        (.star (fun d hd => htext d (by simp [hd])) hrest)
    exact hread

theorem Refuses.plus (h : ∀ c ∈ rest.head?, ¬ set.contains c) : (plus set).Refuses rest :=
  fun _ _ _ _ hp => readChar_eq_none (hp ▸ h)

/-- Members of a set are read up to their end, if what follows begins with no member. -/
theorem run_seq_star (htext : ∀ c ∈ text, set.contains c)
    (hrest : ∀ c ∈ rest.head?, ¬ set.contains c)
    (hb : ∀ c cs, set.contains c → b.Refuses (c :: cs)) {α : Type} {k : Onwards α} {p : Cursor}
    {captures : Captures} (hp : p.rest = text ++ rest) :
    (Expr.seq (.star true set) b).run k p captures = b.run k (p.past text rest) captures := by
  rw [run]
  refine run_star_of_blocked hp htext hrest fun q c hc hs => ?_
  obtain ⟨cs, hq⟩ := List.head?_eq_some_iff.1 hc
  exact hb c cs hs hq

theorem ReadsExactly.seq_star (htext : ∀ c ∈ text, set.contains c)
    (hrest : ∀ c ∈ (text' ++ rest).head?, ¬ set.contains c)
    (hblock : ∀ c cs, set.contains c → b.Refuses (c :: cs)) (hb : b.ReadsExactly text' rest) :
    (Expr.seq (.star true set) b).ReadsExactly (text ++ text') rest := by
  intro α k p captures hp
  rw [List.append_assoc] at hp
  rw [run_seq_star htext hrest hblock hp, hb (Cursor.past_rest ..), Cursor.past_past]

theorem Refuses.seq_star (htext : ∀ c ∈ text, set.contains c)
    (hrest : ∀ c ∈ rest.head?, ¬ set.contains c)
    (hblock : ∀ c cs, set.contains c → b.Refuses (c :: cs)) (hb : b.Refuses rest) :
    (Expr.seq (.star true set) b).Refuses (text ++ rest) := by
  intro α k p captures hp
  rw [run_seq_star htext hrest hblock hp, hb (Cursor.past_rest ..)]

/-- The rounds of a repetition are read up to where its body is refused, if what follows is refused
in front of each of them. -/
theorem run_seq_iterate (hpos : 0 < body.leastLength) {texts : List (List Char)}
    (htexts : ∀ t ∈ texts, ∀ r, body.ReadsExactly t r) (hrest : body.Refuses rest)
    (hb : ∀ t ∈ texts, ∀ r, b.Refuses (t ++ r)) {α : Type} {k : Onwards α} {p : Cursor}
    {captures : Captures} (hp : p.rest = texts.flatten ++ rest) :
    (Expr.seq (.iterate 0 none true body) b).run k p captures =
      b.run k (p.past texts.flatten rest) captures := by
  have hrounds : (Expr.seq (.iterate 0 none true body) b).run k =
      rounds true body.run (b.run k) := rfl
  rw [hrounds]
  induction texts generalizing p with
  | nil =>
    rw [List.flatten_nil, List.nil_append] at hp
    rw [rounds_of_pos hpos, hrest hp, List.flatten_nil, ← hp, Cursor.past_nil]
    rfl
  | cons t texts ih =>
    rw [List.flatten_cons, List.append_assoc] at hp
    have hp' : (p.past t (texts.flatten ++ rest)).rest = texts.flatten ++ rest :=
      Cursor.past_rest ..
    rw [rounds_of_pos hpos, htexts t (by simp) _ hp, hb t (by simp) _ hp,
      ih (fun u hu => htexts u (by simp [hu])) (fun u hu => hb u (by simp [hu])) hp',
      Cursor.past_past, List.flatten_cons]
    exact Option.or_none

theorem ReadsExactly.seq_iterate (hpos : 0 < body.leastLength) {texts : List (List Char)}
    (htexts : ∀ t ∈ texts, ∀ r, body.ReadsExactly t r) (hrest : body.Refuses (text ++ rest))
    (hblock : ∀ t ∈ texts, ∀ r, b.Refuses (t ++ r)) (hb : b.ReadsExactly text rest) :
    (Expr.seq (.iterate 0 none true body) b).ReadsExactly (texts.flatten ++ text) rest := by
  intro α k p captures hp
  rw [List.append_assoc] at hp
  rw [run_seq_iterate hpos htexts hrest hblock hp, hb (Cursor.past_rest ..), Cursor.past_past]

theorem Refuses.seq_iterate (hpos : 0 < body.leastLength) {texts : List (List Char)}
    (htexts : ∀ t ∈ texts, ∀ r, body.ReadsExactly t r) (hrest : body.Refuses rest)
    (hblock : ∀ t ∈ texts, ∀ r, b.Refuses (t ++ r)) (hb : b.Refuses rest) :
    (Expr.seq (.iterate 0 none true body) b).Refuses (texts.flatten ++ rest) := by
  intro α k p captures hp
  rw [run_seq_iterate hpos htexts hrest hblock hp, hb (Cursor.past_rest ..)]

/-! ## Matches -/

theorem ReadsFirst.matchAt {e : Expr} (h : e.ReadsFirst text rest) {p : Cursor}
    (hp : p.rest = text ++ rest) :
    e.matchAt p = some ⟨⟨p.offset, p.offset + Text.byteLength text⟩,
      (List.range (e.groupNames.length - 1)).map fun i => Captures.span? {} (i + 1)⟩ := by
  have hrun : e.run (fun q captures => some (q.offset, captures)) p {} =
      some (p.offset + Text.byteLength text, {}) := h hp rfl
  exact matchAt_of_run hrun

theorem ReadsFirst.length_eq {e : Expr} (h : e.ReadsFirst text rest) {p : Cursor}
    (hp : p.rest = text ++ rest) {m : Match} (hm : e.matchAt p = some m) :
    m.length = Text.byteLength text := by
  rw [h.matchAt hp, Option.some.injEq] at hm
  rw [← hm, Match.length, Span.length, Nat.add_sub_cancel_left]

theorem Refuses.matchAt {e : Expr} {p : Cursor} (h : e.Refuses p.rest) : e.matchAt p = none := by
  rw [Expr.matchAt, h rfl]
  rfl

end Munch.Regex.Expr
