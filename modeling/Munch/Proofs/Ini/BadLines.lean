import Munch.Proofs.Ini.Reader
import Munch.Proofs.Session.Location

/-!
# The lines that cannot be read

A line is reported if nothing matches at one of its places. Tokens come in the order of their lines,
so that comparing with the line reported last is enough to report each line once, and in order.

* `Ini.State.badLines_add`, `Ini.State.Reports.add`: what one token adds to the report.
* `Ini.State.reports_foldl_add`: the report on all tokens of a list in order of their lines.
* `Ini.badLines_of_parse`: the report on a source.
-/

namespace Munch.Ini

namespace State

variable {s : State}

/-! ## One token -/

theorem mem_mark {number n : Nat} :
    n ∈ (s.mark number).badLines ↔ n ∈ s.badLines ∨ number = n := by
  rw [mark]
  split
  next hhead =>
    refine ⟨.inl, fun h => h.elim id ?_⟩
    rintro rfl
    exact List.mem_of_mem_head? hhead
  next => rw [List.mem_cons, or_comm, eq_comm]

/-- A line that is not in front of those reported is reported once. -/
theorem decreasing_mark {number : Nat} (h : s.badLines.Pairwise (· > ·))
    (hle : ∀ n ∈ s.badLines, n ≤ number) : (s.mark number).badLines.Pairwise (· > ·) := by
  rw [mark]
  split
  · exact h
  next hhead =>
    refine List.pairwise_cons.2 ⟨fun n hn => (hle n hn).lt_of_ne ?_, h⟩
    rintro rfl
    -- All lines behind the one reported last are in front of it in the source.
    cases hlines : s.badLines with
    | nil => simp [hlines] at hn
    | cons last lines =>
      rw [hlines] at h hle hn hhead
      rcases List.mem_cons.1 hn with rfl | hn
      · exact hhead rfl
      · exact Nat.lt_irrefl _ (((List.pairwise_cons.1 h).1 n hn).trans_le (hle last (by simp)))

/-- A token that is a match reports nothing. -/
theorem badLines_add (s : State) (token : Token Kind) : (s.add token).badLines =
    if token.isFallback then (s.mark token.location.line).badLines else s.badLines := by
  cases hw : token.winner with
  | none => rw [add_of_none hw, Token.isFallback, hw, Option.isNone_none, if_pos rfl]
  | some w =>
    rw [Token.isFallback, hw, Option.isNone_some, if_neg Bool.false_ne_true, add, Token.tag?,
      Token.type?, hw, Option.map_some, Option.map_some]
    cases w.1.tag <;> rfl

/-! ## All tokens -/

/-- The lines reported are those of the tokens at which nothing matched, the last one first. -/
structure Reports (s : State) (tokens : List (Token Kind)) : Prop where
  decreasing : s.badLines.Pairwise (· > ·)
  mem_iff : ∀ n, n ∈ s.badLines ↔
    ∃ token ∈ tokens, token.isFallback = true ∧ token.location.line = n

theorem Reports.add {tokens : List (Token Kind)} (h : s.Reports tokens) {token : Token Kind}
    (hle : ∀ t ∈ tokens, t.location.line ≤ token.location.line) :
    (s.add token).Reports (tokens ++ [token]) := by
  have hreported : ∀ n ∈ s.badLines, n ≤ token.location.line := by
    intro n hn
    obtain ⟨t, ht, -, rfl⟩ := (h.mem_iff n).1 hn
    exact hle t ht
  constructor
  · rw [badLines_add]
    split
    · exact decreasing_mark h.decreasing hreported
    · exact h.decreasing
  · intro n
    rw [badLines_add]
    split
    next hfallback =>
      rw [mem_mark, h.mem_iff]
      simp [or_and_right, exists_or, hfallback]
    next hmatch =>
      rw [h.mem_iff]
      simp [or_and_right, exists_or, hmatch]

/-- Tokens in the order of their lines report each line at which nothing matched, once and in this
order. -/
theorem reports_foldl_add {tokens : List (Token Kind)}
    (h : tokens.Pairwise fun t t' => t.location.line ≤ t'.location.line) :
    (tokens.foldl add {}).Reports tokens := by
  induction tokens using List.reverseRecOn with
  | nil => exact ⟨.nil, by simp⟩
  | append_singleton tokens token ih =>
    obtain ⟨hbefore, -, hle⟩ := List.pairwise_append.1 h
    rw [List.foldl_concat]
    exact (ih hbefore).add fun t ht => hle t ht token (by simp)

end State

/-- Every source is read, whatever its line ends are. The lines that could not be read come in
increasing order, and are the lines of the tokens at which nothing matched, as they are counted by
the line breaks of the source. -/
theorem badLines_of_parse (source : List Char) : ∃ t document badLines,
    Tokenizer.build {} definitions = .ok t ∧ parse source = .ok (document, badLines) ∧
    badLines.Pairwise (· < ·) ∧
    (∀ n, n ∈ badLines ↔
      ∃ token ∈ t.scan source, token.isFallback = true ∧ token.location.line = n) ∧
    ∀ n ∈ badLines, 1 ≤ n ∧ n ≤ 1 + Text.lineBreaks source := by
  have hs := Session.sound_session tokenizer source
  have hlines := List.pairwise_map.1 hs.pairwise_line.of_cons
  have hreports := State.reports_foldl_add hlines
  refine ⟨tokenizer, _, _, build_definitions, parse_eq source, ?_, fun n => ?_, fun n hn => ?_⟩
  · exact List.pairwise_reverse.2 hreports.decreasing
  · rw [List.mem_reverse]
    exact hreports.mem_iff n
  · rw [List.mem_reverse] at hn
    obtain ⟨token, htoken, -, rfl⟩ := (hreports.mem_iff n).1 hn
    exact hs.line_of_mem rfl htoken

/-- An entry that takes two lines begins in the first, and no line behind it is reported twice. -/
example : parse "!\r=!\r\n!\n\r;c\r!!".toList =
    .ok ([("", [("!\r", "!\r")])], [3, 4, 5, 6]) := by
  rw [parse_eq]
  decide +kernel

end Munch.Ini
