import Mathlib.Algebra.Order.Kleene
import Munch.Proofs.Highlight.Grammar
import Munch.Proofs.Highlight.Patterns
import Munch.Proofs.Session.Step

/-!
# Matches of JSON lexemes

The expression of a class reads each lexeme of the class as a whole, and no other expression reads
as much: those of other classes cannot begin with the same character, but for keys and strings. The
string that a key begins with is shorter than the key, and there is no key where no colon follows a
string.

* `Highlight.reads_keyExpr`, `Highlight.refuses_keyExpr`, `Highlight.reads_stringExpr`: strings.
* `Highlight.reads_numberExpr`, `Highlight.reads_literalExpr`, `Highlight.reads_spaceExpr`.
* `Highlight.wins_of_fits`, `Highlight.wins_blanks`: lexemes win where they stand in a text.
-/

namespace Munch.Highlight

open Regex Regex.Expr CharSet Json Session
open scoped Computability

variable {text rest : List Char}

/-! ## Strings -/

/-- What `itemExpr` reads. -/
def items : Language Char :=
  oneOf plainSet.contains + Json.exactly "\\" * oneOf escapedSet.contains

/-- An escape by a number is read as an escape of two characters with four characters behind it. -/
theorem mem_kstar_items (h : text ∈ character) : text ∈ items∗ := by
  have hmono : ∀ {p q : Char → Bool}, (∀ c, p c → q c) → oneOf p ≤ oneOf q := by
    rintro p q h _ ⟨c, hc, rfl⟩
    exact ⟨c, h c hc, rfl⟩
  have hplain : oneOf plainSet.contains ≤ items := le_self_add
  have hescape : Json.exactly "\\" * oneOf escapedSet.contains ≤ items := le_add_self
  have hhex : oneOf isHexDigit ≤ items :=
    (hmono fun c hc => contains_plainSet.2 ⟨fun heq => by simp [heq, isHexDigit] at hc,
      fun heq => by simp [heq, isHexDigit] at hc⟩).trans hplain
  have hnumber : Json.exactly "u" ≤ oneOf escapedSet.contains := by
    rintro _ rfl
    exact ⟨'u', by decide, rfl⟩
  suffices hle : character ≤ items∗ from hle h
  rw [character, escaped, mul_add]
  refine add_le ?_ (add_le ?_ ?_)
  · refine ((hmono fun c hc => ?_).trans hplain).trans le_kstar
    simp only [Bool.and_eq_true, decide_eq_true_eq] at hc
    exact contains_plainSet.2 ⟨hc.1.2, hc.2⟩
  · refine ((mul_le_mul_right (hmono fun c hc => ?_) _).trans hescape).trans le_kstar
    refine contains_escapedSet.2 fun heq => ?_
    simp [heq] at hc
  · calc Json.exactly "\\" * (Json.exactly "u" * oneOf isHexDigit ^ 4)
      _ = Json.exactly "\\" * Json.exactly "u" * oneOf isHexDigit ^ 4 := (mul_assoc _ _ _).symm
      _ ≤ items * items∗ := mul_le_mul' ((mul_le_mul_right hnumber _).trans hescape)
        (pow_le_kstar.trans (kstar_mono hhex))
      _ ≤ items∗ := mul_kstar_le_kstar

theorem exists_items_of_mem_string (h : text ∈ Json.string) : ∃ texts : List (List Char),
    (∀ t ∈ texts, t ∈ items) ∧ text = '"' :: (texts.flatten ++ ['"']) := by
  obtain ⟨characters, hcharacters, rfl⟩ := mem_string.1 h
  have hmem : characters.flatten ∈ items∗∗ :=
    ⟨characters, rfl, fun c hc => mem_kstar_items (hcharacters c hc)⟩
  rw [kstar_idem] at hmem
  obtain ⟨texts, heq, htexts⟩ := hmem
  exact ⟨texts, htexts, by rw [heq]⟩

theorem mem_items : text ∈ items ↔ (∃ c, plainSet.contains c ∧ text = [c]) ∨
    ∃ c, escapedSet.contains c ∧ text = ['\\', c] := by
  rw [items, Language.mem_add, mem_oneOf, Language.mem_mul]
  constructor
  · rintro (h | ⟨_, rfl, _, ⟨c, hc, rfl⟩, rfl⟩)
    · exact .inl h
    · exact .inr ⟨c, hc, rfl⟩
  · rintro (h | ⟨c, hc, rfl⟩)
    · exact .inl h
    · exact .inr ⟨_, rfl, [c], ⟨c, hc, rfl⟩, rfl⟩

theorem reads_itemExpr (h : text ∈ items) (rest : List Char) : itemExpr.ReadsExactly text rest := by
  rcases mem_items.1 h with ⟨c, hc, rfl⟩ | ⟨c, hc, rfl⟩
  · exact .alt_left (.chars hc) (.seq (.singleton_cons (contains_plainSet.1 hc).2))
  · exact .alt_right (.chars_cons (by decide)) (ReadsExactly.singleton.seq (.chars hc))

theorem refuses_itemExpr (rest : List Char) : itemExpr.Refuses ('"' :: rest) :=
  .alt (.chars_cons (by decide)) (.seq (.singleton_cons (by decide)))

theorem refuses_quoteExpr (h : text ∈ items) (rest : List Char) :
    quoteExpr.Refuses (text ++ rest) := by
  rcases mem_items.1 h with ⟨c, hc, rfl⟩ | ⟨c, hc, rfl⟩
  · exact .singleton_cons (contains_plainSet.1 hc).1
  · exact .singleton_cons (by decide)

theorem leastLength_itemExpr : 0 < itemExpr.leastLength := leastLength_pos (by decide)

theorem contains_whiteSpace {c : Char} (h : Json.isBlank c) : Unicode.whiteSpace.contains c := by
  simp only [Json.isBlank, Bool.or_eq_true, decide_eq_true_eq] at h
  rcases h with ((rfl | rfl) | rfl) | rfl <;> decide

theorem refuses_colon_of_whiteSpace (c : Char) (cs : List Char)
    (h : Unicode.whiteSpace.contains c) :
    (Expr.chars (.singleton ':')).Refuses (c :: cs) := by
  refine .singleton_cons ?_
  rintro rfl
  revert h
  decide

theorem reads_colonExpr {before : List Char} (h : before ∈ blanks) (rest : List Char) :
    colonExpr.ReadsExactly (before ++ [':']) rest := by
  refine .seq_star (fun c hc => contains_whiteSpace (mem_blanks.1 h c hc)) (fun c hc => ?_)
    refuses_colon_of_whiteSpace .singleton
  obtain rfl : ':' = c := by simpa using hc
  decide

theorem refuses_colonExpr (h : FollowsValue rest) : colonExpr.Refuses rest := by
  obtain ⟨blank, hblank, tail, rfl, htail⟩ := h
  refine .seq_star (fun c hc => contains_whiteSpace (mem_blanks.1 hblank c hc)) (fun c hc => ?_)
    refuses_colon_of_whiteSpace (.singleton fun c hc => ?_)
  · rcases htail c hc with rfl | rfl | rfl <;> decide
  · rcases htail c hc with rfl | rfl | rfl <;> decide

section Quoted

variable {behind : Expr} {texts : List (List Char)}

/-- A string is read up to its quote, as nothing that is behind a string begins inside of it. -/
theorem reads_quoted (htexts : ∀ t ∈ texts, t ∈ items)
    (hblock : ∀ t ∈ items, ∀ r, behind.Refuses (t ++ r))
    (h : behind.ReadsExactly ('"' :: text) rest) :
    (quoted behind).ReadsExactly ('"' :: (texts.flatten ++ '"' :: text)) rest :=
  (ReadsExactly.singleton (c := '"')).seq (.seq_iterate leastLength_itemExpr
    (fun t ht => reads_itemExpr (htexts t ht)) (refuses_itemExpr _)
    (fun t ht => hblock t (htexts t ht)) h)

theorem refuses_quoted (htexts : ∀ t ∈ texts, t ∈ items)
    (hblock : ∀ t ∈ items, ∀ r, behind.Refuses (t ++ r)) (h : behind.Refuses ('"' :: rest)) :
    (quoted behind).Refuses ('"' :: (texts.flatten ++ '"' :: rest)) :=
  .seq_of_reads (ReadsExactly.singleton (c := '"')) (.seq_iterate leastLength_itemExpr
    (fun t ht => reads_itemExpr (htexts t ht)) (refuses_itemExpr _)
    (fun t ht => hblock t (htexts t ht)) h)

end Quoted

theorem reads_stringExpr (h : text ∈ Json.string) (rest : List Char) :
    stringExpr.ReadsExactly text rest := by
  obtain ⟨texts, htexts, rfl⟩ := exists_items_of_mem_string h
  exact reads_quoted htexts (fun t ht => refuses_quoteExpr ht) .singleton

theorem reads_keyExpr {before : List Char} (h : text ∈ Json.string) (hbefore : before ∈ blanks)
    (rest : List Char) : keyExpr.ReadsExactly (text ++ before ++ [':']) rest := by
  obtain ⟨texts, htexts, rfl⟩ := exists_items_of_mem_string h
  have hread : keyExpr.ReadsExactly ('"' :: (texts.flatten ++ '"' :: (before ++ [':']))) rest :=
    reads_quoted htexts (fun t ht r => .seq (refuses_quoteExpr ht r))
      ((ReadsExactly.singleton (c := '"')).seq (reads_colonExpr hbefore rest))
  simpa using hread

/-- A string with no colon behind it is no key. -/
theorem refuses_keyExpr (h : text ∈ Json.string) (hrest : FollowsValue rest) :
    keyExpr.Refuses (text ++ rest) := by
  obtain ⟨texts, htexts, rfl⟩ := exists_items_of_mem_string h
  have hrefuses : keyExpr.Refuses ('"' :: (texts.flatten ++ '"' :: rest)) :=
    refuses_quoted htexts (fun t ht r => .seq (refuses_quoteExpr ht r))
      (.seq_of_reads (ReadsExactly.singleton (c := '"')) (refuses_colonExpr hrest))
  simpa using hrefuses

/-! ## Numbers -/

/-- A part that may be left out is read, and it is refused where it is left out. -/
theorem reads_optional {e : Expr} {l : Language Char} (h : text ∈ 1 + l)
    (hread : ∀ t ∈ l, e.ReadsFirst t rest) (hrefuses : e.Refuses rest) :
    (optional e).ReadsFirst text rest := by
  rcases mem_optional.1 h with rfl | h
  · exact (ReadsExactly.omitted hrefuses).first
  · exact (hread text h).optional

/-! What the parts of a number begin with, and what is in front of `rest` if they are left out. -/

theorem exists_cons_of_mem_digits (h : text ∈ digits) : ∃ c cs, text = c :: cs ∧ c.isDigit := by
  obtain ⟨_, ⟨c, hc, rfl⟩, cs, -, rfl⟩ := h
  exact ⟨c, cs, rfl, hc⟩

theorem exists_cons_of_mem_integer (h : text ∈ integer) :
    ∃ c cs, text = c :: cs ∧ c.isDigit := by
  rcases h with rfl | ⟨_, ⟨c, hc, rfl⟩, cs, -, rfl⟩
  · exact ⟨'0', [], rfl, rfl⟩
  · exact ⟨c, cs, rfl, (Bool.and_eq_true_iff.1 hc).1⟩

theorem exists_cons_of_mem_number (h : text ∈ number) :
    ∃ c cs, text = c :: cs ∧ (firstSet .number).contains c := by
  obtain ⟨_, ⟨_, ⟨sign, hsign, int, hint, rfl⟩, frac, -, rfl⟩, exp, -, rfl⟩ := h
  rcases mem_optional.1 hsign with rfl | rfl
  · obtain ⟨c, cs, rfl, hc⟩ := exists_cons_of_mem_integer hint
    refine ⟨c, cs ++ frac ++ exp, rfl, ?_⟩
    have hdigit := contains_digitSet.2 hc
    simp only [digitSet, firstSet, contains_eq, inRanges_cons, inRanges_nil, or_false] at hdigit ⊢
    omega
  · exact ⟨'-', int ++ frac ++ exp, rfl, by decide⟩

theorem head_fraction (h : text ∈ 1 + fraction) :
    ∀ c ∈ (text ++ rest).head?, c = '.' ∨ c ∈ rest.head? := by
  rcases mem_optional.1 h with rfl | ⟨_, rfl, ds, -, rfl⟩ <;> intro c hc
  · exact .inr hc
  · obtain rfl : '.' = c := by simpa using hc
    exact .inl rfl

theorem head_exponent (h : text ∈ 1 + exponent) :
    ∀ c ∈ (text ++ rest).head?, (c = 'e' ∨ c = 'E') ∨ c ∈ rest.head? := by
  rcases mem_optional.1 h with rfl | ⟨_, ⟨_, ⟨d, hd, rfl⟩, sign, -, rfl⟩, ds, -, rfl⟩ <;>
    intro c hc
  · exact .inr hc
  · obtain rfl : d = c := by simpa using hc
    exact .inl (by simpa using hd)

theorem reads_digits (h : text ∈ digits) (hrest : ∀ c ∈ rest.head?, ¬ c.isDigit) :
    (plus digitSet).ReadsFirst text rest := by
  obtain ⟨hne, hdigits⟩ := mem_digits.1 h
  exact .plus hne (fun c hc => contains_digitSet.2 (hdigits c hc))
    fun c hc hs => hrest c hc (contains_digitSet.1 hs)

theorem reads_integer (h : text ∈ integer) (hrest : ∀ c ∈ rest.head?, ¬ c.isDigit) :
    integerExpr.ReadsFirst text rest := by
  rcases h with rfl | ⟨_, ⟨d, hd, rfl⟩, ds, hds, rfl⟩
  · exact ReadsExactly.singleton.first.alt_left
  · simp only [Bool.and_eq_true, decide_eq_true_eq] at hd
    exact .alt_right (.singleton_cons hd.2) ((ReadsExactly.chars (contains_leadSet.2 hd)).first.seq
      (.star (fun c hc => contains_digitSet.2 (mem_kstar_oneOf.1 hds c hc))
        fun c hc hs => hrest c hc (contains_digitSet.1 hs)))

theorem reads_fraction (h : text ∈ fraction) (hrest : ∀ c ∈ rest.head?, ¬ c.isDigit) :
    fractionExpr.ReadsFirst text rest := by
  obtain ⟨_, rfl, ds, hds, rfl⟩ := h
  exact ReadsExactly.singleton.first.seq (reads_digits hds hrest)

theorem reads_exponent (h : text ∈ exponent) (hrest : ∀ c ∈ rest.head?, ¬ c.isDigit) :
    exponentExpr.ReadsFirst text rest := by
  obtain ⟨_, ⟨_, ⟨c, hc, rfl⟩, sign, hsign, rfl⟩, ds, hds, rfl⟩ := h
  simp only [Bool.or_eq_true, decide_eq_true_eq] at hc
  have hread : (optional (.chars signSet)).ReadsFirst sign (ds ++ rest) := by
    refine reads_optional hsign ?_ ?_
    · rintro _ ⟨d, hd, rfl⟩
      simp only [Bool.or_eq_true, decide_eq_true_eq] at hd
      exact (ReadsExactly.chars (contains_signSet.2 hd)).first
    · obtain ⟨d, ds, rfl, hd⟩ := exists_cons_of_mem_digits hds
      refine .chars_cons fun hs => ?_
      rcases contains_signSet.1 hs with rfl | rfl <;> simp at hd
  exact (ReadsExactly.chars (contains_exponentSet.2 hc)).first.seq
    (hread.seq (reads_digits hds hrest))

/-- A number is read as a whole: no part of it can go on where it ends. -/
theorem reads_numberExpr (h : text ∈ number)
    (hrest : ∀ c ∈ rest.head?, ¬ c.isDigit ∧ c ≠ '.' ∧ c ≠ 'e' ∧ c ≠ 'E') :
    numberExpr.ReadsFirst text rest := by
  obtain ⟨_, ⟨_, ⟨sign, hsign, int, hint, rfl⟩, frac, hfrac, rfl⟩, exp, hexp, rfl⟩ := h
  dsimp only
  have hexp' : ∀ c ∈ (exp ++ rest).head?, ¬ c.isDigit ∧ c ≠ '.' := by
    intro c hc
    rcases head_exponent hexp c hc with (rfl | rfl) | hc
    · decide
    · decide
    · exact ⟨(hrest c hc).1, (hrest c hc).2.1⟩
  have hfrac' : ∀ c ∈ (frac ++ (exp ++ rest)).head?, ¬ c.isDigit := by
    intro c hc
    rcases head_fraction hfrac c hc with rfl | hc
    · decide
    · exact (hexp' c hc).1
  have hread₁ : (optional exponentExpr).ReadsFirst exp rest :=
    reads_optional hexp (fun t ht => reads_exponent ht fun c hc => (hrest c hc).1)
      (.seq (.chars fun c hc hs => (contains_exponentSet.1 hs).elim (hrest c hc).2.2.1
        (hrest c hc).2.2.2))
  have hread₂ : (optional fractionExpr).ReadsFirst frac (exp ++ rest) :=
    reads_optional hfrac (fun t ht => reads_fraction ht fun c hc => (hexp' c hc).1)
      (.seq (.singleton fun c hc => (hexp' c hc).2))
  have hread₃ : integerExpr.ReadsFirst int (frac ++ (exp ++ rest)) := reads_integer hint hfrac'
  have hread₄ : (optional (.chars (.singleton '-'))).ReadsFirst sign
      (int ++ (frac ++ (exp ++ rest))) := by
    refine reads_optional hsign ?_ ?_
    · rintro _ rfl
      exact ReadsExactly.singleton.first
    · obtain ⟨c, cs, rfl, hc⟩ := exists_cons_of_mem_integer hint
      refine .singleton_cons ?_
      rintro rfl
      simp at hc
  have hread : numberExpr.ReadsFirst (sign ++ (int ++ (frac ++ exp))) rest := by
    refine .seq ?_ (.seq ?_ (hread₂.seq hread₁)) <;> simpa only [List.append_assoc]
  simpa only [List.append_assoc] using hread

/-! ## Other lexemes -/

theorem reads_literalExpr (h : text ∈ Json.literal) : literalExpr.ReadsFirst text rest := by
  have hrefuses : ∀ {c d : Char} (cs ds : List Char), c ≠ d →
      (Expr.word (d :: ds)).Refuses (c :: cs ++ rest) := by
    intro c d cs ds hne
    exact .word (by simpa using hne) ds
  rcases h with (rfl | rfl) | rfl
  · exact .alt_left (ReadsExactly.word (by decide)).first
  · exact .alt_right (hrefuses _ _ (by decide)) (.alt_left (ReadsExactly.word (by decide)).first)
  · exact .alt_right (hrefuses _ _ (by decide))
      (.alt_right (hrefuses _ _ (by decide)) (ReadsExactly.word (by decide)).first)

/-- Blanks are read up to where they end. -/
theorem reads_spaceExpr (hne : text ≠ []) (h : text ∈ blanks)
    (hrest : ∀ c ∈ rest.head?, ¬ Unicode.whiteSpace.contains c) : spaceExpr.ReadsFirst text rest :=
  .plus hne (fun c hc => contains_whiteSpace (mem_blanks.1 h c hc)) hrest

/-! ## Winners -/

/-- In front of `rest` a lexeme is the match that wins, and its class is the type that wins. -/
def Wins (rest : List Char) (l : Lexeme) : Prop :=
  ∀ p : Cursor, p.rest = l.2 ++ rest → ∃ m, winnerAt jsonTokenizer.types p = some (typeOf l.1, m) ∧
    m.span = ⟨p.offset, p.offset + Text.byteLength l.2⟩

theorem mem_types {t : TokenType Kind} :
    t ∈ jsonTokenizer.types ↔ ∃ kind, typeOf kind = t := by
  rw [jsonTokenizer, List.mem_map]
  exact ⟨fun ⟨kind, _, h⟩ => ⟨kind, h⟩, fun ⟨kind, h⟩ => ⟨kind, mem_kinds kind, h⟩⟩

/-- What the expression of a class reads wins. Only for keys and strings there is another class
whose lexemes begin with the same character, which must have a shorter match or none. -/
theorem wins_of_reads (kind : Kind) {c : Char} {cs : List Char}
    (hc : (firstSet kind).contains c) (hread : (exprOf kind).ReadsFirst (c :: cs) rest)
    (h : ∀ kind', (kind = .key ∧ kind' = .string) ∨ (kind = .string ∧ kind' = .key) →
      ∀ p : Cursor, p.rest = c :: cs ++ rest → ∀ m, (exprOf kind').matchAt p = some m →
        m.length < Text.byteLength (c :: cs)) :
    Wins rest (kind, c :: cs) := by
  intro p hp
  have hm := hread.matchAt hp
  have hlength := hread.length_eq hp hm
  have hpos : 0 < Text.byteLength (c :: cs) :=
    (Nat.zero_lt_succ cs.length).trans_le (Text.length_le_byteLength (c :: cs))
  refine ⟨_, winnerAt_of_lt (mem_types.2 ⟨kind, rfl⟩) ((matchAt_typeOf kind p).trans hm)
    (by rwa [hlength]) ?_, rfl⟩
  intro t' ht' hne m' hm'
  obtain ⟨kind', rfl⟩ := mem_types.1 ht'
  rw [matchAt_typeOf] at hm'
  by_cases hc' : (firstSet kind').contains c
  · rw [hlength]
    rcases eq_of_first hc hc' with rfl | hkinds
    · exact absurd rfl hne
    · exact h kind' hkinds p hp m' hm'
  · have hrefuses : (exprOf kind').Refuses p.rest := by
      refine refuses_of_first kind' fun d hd => ?_
      obtain rfl : c = d := by simpa [hp] using hd
      exact hc'
    rw [hrefuses.matchAt] at hm'
    cases hm'

theorem wins_of_unique (kind : Kind) (hkey : kind ≠ .key) (hstring : kind ≠ .string) {c : Char}
    {cs : List Char} (hc : (firstSet kind).contains c)
    (hread : (exprOf kind).ReadsFirst (c :: cs) rest) : Wins rest (kind, c :: cs) := by
  refine wins_of_reads kind hc hread fun kind' h => ?_
  rcases h with ⟨h, -⟩ | ⟨h, -⟩
  · exact absurd h hkey
  · exact absurd h hstring

theorem exists_cons_of_mem_string (h : text ∈ Json.string) : ∃ cs, text = '"' :: cs := by
  obtain ⟨texts, -, rfl⟩ := mem_string.1 h
  exact ⟨_, rfl⟩

/-- The string that a key begins with is shorter. -/
theorem wins_key {name before : List Char} (hname : name ∈ Json.string)
    (hbefore : before ∈ blanks) : Wins rest (.key, name ++ before ++ [':']) := by
  have hread : keyExpr.ReadsFirst (name ++ before ++ [':']) rest :=
    (reads_keyExpr hname hbefore rest).first
  have hstring : ∀ p : Cursor, p.rest = name ++ before ++ [':'] ++ rest →
      ∀ m, stringExpr.matchAt p = some m →
        m.length < Text.byteLength (name ++ before ++ [':']) := by
    intro p hp m hm
    rw [List.append_assoc, List.append_assoc] at hp
    have hcolon : Text.byteLength [':'] = 1 := rfl
    rw [(reads_stringExpr hname _).first.length_eq hp hm, Text.byteLength_append,
      Text.byteLength_append]
    omega
  obtain ⟨cs, rfl⟩ := exists_cons_of_mem_string hname
  refine wins_of_reads .key (by decide) hread fun kind' h => ?_
  obtain rfl : kind' = .string := by simpa using h
  exact hstring

/-- There is no key where no colon follows. -/
theorem wins_string (h : text ∈ Json.string) (hrest : FollowsValue rest) :
    Wins rest (.string, text) := by
  have hread : stringExpr.ReadsFirst text rest := (reads_stringExpr h rest).first
  have hkey := refuses_keyExpr h hrest
  obtain ⟨cs, rfl⟩ := exists_cons_of_mem_string h
  refine wins_of_reads .string (by decide) hread fun kind' h p hp m hm => ?_
  obtain rfl : kind' = .key := by simpa using h
  rw [show exprOf .key = keyExpr from rfl, Refuses.matchAt (hp ▸ hkey)] at hm
  cases hm

/-- A number ends where a value ends. -/
theorem head_of_followsValue (h : FollowsValue rest) :
    ∀ c ∈ rest.head?, ¬ c.isDigit ∧ c ≠ '.' ∧ c ≠ 'e' ∧ c ≠ 'E' := by
  obtain ⟨blank, hblank, tail, rfl, htail⟩ := h
  intro c hc
  cases blank with
  | nil => rcases htail c hc with rfl | rfl | rfl <;> decide
  | cons b blank =>
    obtain rfl : b = c := by simpa using hc
    have hb := mem_blanks.1 hblank b (by simp)
    simp only [Json.isBlank, Bool.or_eq_true, decide_eq_true_eq] at hb
    rcases hb with ((rfl | rfl) | rfl) | rfl <;> decide

/-- Each piece but blanks wins. -/
theorem wins_of_fits {l : Lexeme} (h : Fits rest l) (hl : l.1 ≠ .space) : Wins rest l := by
  obtain ⟨kind, text⟩ := l
  cases kind with
  | key =>
    obtain ⟨name, hname, before, hbefore, rfl⟩ := h
    exact wins_key hname hbefore
  | string => exact wins_string h.1 h.2
  | number =>
    have hread := reads_numberExpr h.1 (head_of_followsValue h.2)
    obtain ⟨c, cs, rfl, hc⟩ := exists_cons_of_mem_number h.1
    exact wins_of_unique .number (by decide) (by decide) hc hread
  | literal =>
    have hread : literalExpr.ReadsFirst text rest := reads_literalExpr h
    rcases h with (rfl | rfl) | rfl <;>
      exact wins_of_unique .literal (by decide) (by decide) (by decide) hread
  | punct =>
    obtain ⟨c, hc, rfl⟩ := h
    have hc : punctSet.contains c := by
      simp only [List.mem_cons, List.not_mem_nil, or_false] at hc
      rcases hc with rfl | rfl | rfl | rfl | rfl <;> decide
    exact wins_of_unique .punct (by decide) (by decide) hc (ReadsExactly.chars hc).first
  | space => exact absurd rfl hl

theorem wins_blanks (hne : text ≠ []) (h : text ∈ blanks)
    (hrest : ∀ c ∈ rest.head?, ¬ Unicode.whiteSpace.contains c) : Wins rest (.space, text) := by
  have hread := reads_spaceExpr hne h hrest
  have hfirst := mem_blanks.1 h
  cases text with
  | nil => exact absurd rfl hne
  | cons c cs =>
    exact wins_of_unique .space (by decide) (by decide)
      (contains_whiteSpace (hfirst c (by simp))) hread

end Munch.Highlight
