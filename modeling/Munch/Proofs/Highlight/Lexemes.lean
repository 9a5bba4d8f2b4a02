import Munch.Proofs.Highlight.Matches
import Munch.Proofs.Session.PlainScan

/-!
# The tokens of JSON texts

A session over a text in which each lexeme wins reads the lexemes one after the other. In a JSON
text each lexeme wins, so that its tokens are its lexemes.

* `Highlight.allWin_lexemesFrom`: the lexemes of pieces that fit.
* `Highlight.map_piece_tokens`: sessions over lexemes that win.
* `Highlight.scan_eq_lexemes`: the tokens of a JSON text.
-/

namespace Munch.Highlight

open Json Session

/-- The class and the text of a token. -/
def piece (token : Token Kind) : Option Kind × List Char := (token.tag?, token.text)

/-- Each of some lexemes wins in front of the others. -/
def AllWin : List Lexeme → Prop
  | [] => True
  | l :: ls => Wins (text ls) l ∧ AllWin ls

/-- Where a class wins one of its lexemes begins. -/
theorem Wins.exists_cons {rest : List Char} {l : Lexeme} (h : Wins rest l) :
    ∃ c cs, l.2 = c :: cs ∧ (firstSet l.1).contains c := by
  obtain ⟨kind, text⟩ := l
  obtain ⟨m, hw, hspan⟩ := h (.ofText (text ++ rest)) rfl
  obtain ⟨-, hm, hpos⟩ := of_winnerAt hw
  cases text with
  | nil => simp [Match.length, Span.length, hspan] at hpos
  | cons c cs =>
    refine ⟨c, cs, rfl, ?_⟩
    by_contra hc
    rw [matchAt_typeOf, (refuses_of_first kind fun d hd => ?_).matchAt] at hm
    · cases hm
    · obtain rfl : c = d := by simpa [Cursor.ofText] using hd
      exact hc

/-- Blanks win as far as they reach. -/
theorem allWin_lexemesFrom {pieces : List Lexeme} (h : AllFit [] pieces) {blank : List Char}
    (hblank : blank ∈ blanks) : AllWin (lexemesFrom blank pieces) := by
  induction pieces generalizing blank with
  | nil =>
    rw [lexemesFrom, spaceOf]
    split
    · trivial
    next hne => exact ⟨wins_blanks hne hblank (by simp), trivial⟩
  | cons l ls ih =>
    obtain ⟨hl, hls⟩ := h
    rw [lexemesFrom]
    split
    next hspace =>
      obtain ⟨kind, behind⟩ := l
      obtain rfl : kind = .space := hspace
      exact ih hls (append_mem_blanks hblank hl)
    next hspace =>
      have hwins : Wins (text (lexemesFrom [] ls)) l := by
        rw [text_lexemesFrom, List.nil_append]
        rw [List.append_nil] at hl
        exact wins_of_fits hl hspace
      have hls := ih hls nil_mem_blanks
      rw [spaceOf]
      split
      · exact ⟨hwins, hls⟩
      next hne =>
        obtain ⟨c, cs, htext, hc⟩ := hwins.exists_cons
        have hfirst : ¬ (firstSet .space).contains c := by
          intro hs
          rcases eq_of_first hc hs with heq | ⟨-, heq⟩ | ⟨-, heq⟩
          · exact hspace heq
          · cases heq
          · cases heq
        refine ⟨wins_blanks hne hblank fun d hd => ?_, hwins, hls⟩
        obtain rfl : c = d := by simpa [htext] using hd
        exact hfirst

/-- A session in front of lexemes that win reads them. -/
theorem map_piece_tokens {s : Session Kind} (hs : s.Sound) (htypes : s.types = jsonTokenizer.types)
    {ls : List Lexeme} (hrest : s.cursor.rest = text ls) (h : AllWin ls) :
    s.tokens.map piece = ls.map fun l => (some l.1, l.2) := by
  induction ls generalizing s with
  | nil => rw [tokens_of_rest_eq_nil hrest, List.map_nil, List.map_nil]
  | cons l ls ih =>
    obtain ⟨hl, hls⟩ := h
    obtain ⟨m, hw, hspan⟩ := hl s.cursor hrest
    rw [← htypes] at hw
    obtain ⟨c, cs, htext, -⟩ := hl.exists_cons
    obtain ⟨token, after, hreads, hafter, htokens⟩ :=
      hs.exists_tokens_eq_cons (by simp [hrest, htext])
    obtain ⟨htext, hrest'⟩ := hreads.text_eq hw hrest hspan
    have hpiece : piece token = (some l.1, l.2) := by
      rw [piece, Token.tag?, Token.type?, hreads.winner, hw, htext]
      rfl
    rw [htokens, List.map_cons, List.map_cons, hpiece,
      ih hafter (hreads.types.trans htypes) hrest' hls]

/-- The tokens of a JSON text are its lexemes, with their classes. No character is left over, and
blanks are never cut into two tokens. -/
theorem scan_eq_lexemes {pieces : List Lexeme} (h : IsText pieces) :
    ∃ t, tokenizer = .ok t ∧
      (t.scan (text pieces)).map piece = (lexemes pieces).map (fun l => (some l.1, l.2)) ∧
      (∀ token ∈ t.scan (text pieces), token.isFallback = false) ∧
      (t.scan (text pieces)).IsChain fun token token' =>
        token.tag? = some .space → token'.tag? ≠ some .space := by
  have htokens : (jsonTokenizer.scan (text pieces)).map piece =
      (lexemes pieces).map fun l => (some l.1, l.2) :=
    map_piece_tokens (sound_session jsonTokenizer (text pieces)) rfl (text_lexemes pieces).symm
      (allWin_lexemesFrom h.allFit nil_mem_blanks)
  refine ⟨jsonTokenizer, tokenizer_eq, htokens, fun token htoken => ?_, ?_⟩
  · have hmem := List.mem_map_of_mem (f := piece) htoken
    rw [htokens] at hmem
    obtain ⟨l, -, hl⟩ := List.mem_map.1 hmem
    have htag : token.tag? = some l.1 := (congrArg Prod.fst hl).symm
    cases hw : token.winner with
    | none => simp [Token.tag?, Token.type?, hw] at htag
    | some w => rw [Token.isFallback, hw, Option.isNone_some]
  · have hchain : ((lexemes pieces).map fun l => (some l.1, l.2)).IsChain fun a b =>
        a.1 = some .space → b.1 ≠ some .space := by
      rw [List.isChain_map]
      refine (isChain_lexemesFrom [] pieces).imp fun l l' h hl => ?_
      simpa using h (by simpa using hl)
    rwa [← htokens, List.isChain_map] at hchain

/-- The pieces of an object, whose member has a name with escapes. -/
def sample : List Lexeme := [
  (.space, [' ']), (.space, []), (.punct, ['\x7b']), (.space, []),
  (.key, "\"a\\u00e9\\\"\" :".toList), (.space, []),
  (.space, []), (.punct, ['[']), (.space, ['\t']),
  (.number, "-0.5e+10".toList),
  (.space, []), (.punct, [',']), (.space, [' ']),
  (.string, "\"x:\"".toList),
  (.space, []), (.punct, [']']), (.space, ['\n']),
  (.space, [' ']), (.punct, ['\x7d']), (.space, []), (.space, [])]

theorem isText_sample : IsText sample := by
  have hblank : ∀ c, Json.isBlank c → [c] ∈ blanks := fun c hc => mem_blanks.2 (by simpa using hc)
  have hname : "\"a\\u00e9\\\"\"".toList ∈ Json.string := by
    refine mem_string.2 ⟨["a".toList, "\\u00e9".toList, "\\\"".toList], fun t ht => ?_, by decide⟩
    simp only [List.mem_cons, List.not_mem_nil, or_false] at ht
    rcases ht with rfl | rfl | rfl
    · exact .inl ⟨'a', by decide, rfl⟩
    · refine .inr ⟨_, rfl, _, .inr ⟨_, rfl, "00e9".toList, Language.mem_pow.2 ?_, rfl⟩, rfl⟩
      refine ⟨[['0'], ['0'], ['e'], ['9']], by decide, rfl, fun u hu => ?_⟩
      simp only [List.mem_cons, List.not_mem_nil, or_false] at hu
      rcases hu with rfl | rfl | rfl | rfl <;> exact ⟨_, by decide, rfl⟩
    · exact .inr ⟨_, rfl, ['"'], .inl ⟨'"', by decide, rfl⟩, rfl⟩
  have hnumber : "-0.5e+10".toList ∈ number := by
    have hfraction : ".5".toList ∈ fraction := ⟨_, rfl, ['5'], mem_digits.2 (by simp), rfl⟩
    have hexponent : "e+10".toList ∈ exponent := ⟨['e', '+'],
      ⟨['e'], ⟨'e', by decide, rfl⟩, ['+'], .inr ⟨'+', by decide, rfl⟩, rfl⟩, ['1', '0'],
      mem_digits.2 (by simp), rfl⟩
    exact ⟨_, ⟨_, ⟨['-'], .inr rfl, ['0'], .inl rfl, rfl⟩, _, .inr hfraction, rfl⟩, _,
      .inr hexponent, rfl⟩
  have hstring : "\"x:\"".toList ∈ Json.string := by
    refine mem_string.2 ⟨[['x'], [':']], fun t ht => ?_, by decide⟩
    simp only [List.mem_cons, List.not_mem_nil, or_false] at ht
    rcases ht with rfl | rfl <;> exact .inl ⟨_, by decide, rfl⟩
  have helements := Derives.elements (.number hnumber)
    ⟨[], nil_mem_blanks, [' '], hblank _ (by decide), rfl⟩ (.lastElement (.string hstring))
  have hmember := Derives.member hname (hblank ' ' (by decide)) nil_mem_blanks
    (.array ⟨[], nil_mem_blanks, ['\t'], hblank _ (by decide), rfl⟩ helements
      ⟨[], nil_mem_blanks, ['\n'], hblank _ (by decide), rfl⟩)
  have hobject := Derives.object ⟨[], nil_mem_blanks, [], nil_mem_blanks, rfl⟩ (.lastMember hmember)
    ⟨[' '], hblank _ (by decide), [], nil_mem_blanks, rfl⟩
  exact ⟨[' '], hblank _ (by decide), [], nil_mem_blanks, _, hobject, rfl⟩

theorem scan_sample : IsText sample ∧ ∃ t, tokenizer = .ok t ∧
    (t.scan (text sample)).map piece = [
      (some .space, [' ']), (some .punct, ['\x7b']), (some .key, "\"a\\u00e9\\\"\" :".toList),
      (some .punct, ['[']), (some .space, ['\t']), (some .number, "-0.5e+10".toList),
      (some .punct, [',']), (some .space, [' ']), (some .string, "\"x:\"".toList),
      (some .punct, [']']), (some .space, ['\n', ' ']), (some .punct, ['\x7d'])] := by
  obtain ⟨t, ht, htokens, -⟩ := scan_eq_lexemes isText_sample
  exact ⟨isText_sample, t, ht, htokens⟩

end Munch.Highlight
