import Munch.Proofs.Session.Tokens
import Munch.Proofs.Tokenizer

/-!
# Verbatim definitions

If all definitions are verbatim texts, no search is needed to say what the tokens are: the next
token is the longest of the texts with which the rest of the source begins, of the first definition
with that text, or a single character if there is none. So the tokens from some place on depend on
the rest of the source only.

* `Text.longestPrefix`: the longest of some texts with which another one begins.
* `Tokenizer.verbatimTokens`: the tokens by recursion on the rest of the source.
* `Session.winnerAt_verbatim`, `Session.Sound.tokens_eq_verbatimTokens`: sessions give these.
* `Tokenizer.verbatimTokens_shiftedBy`: the tokens of the same text elsewhere.
* `Tokenizer.scan_verbatim`: the tokens of a source, and those from a token on.
-/

namespace Munch

variable {τ : Type}

namespace Text

/-- The longest of the texts that are not empty and with which `rest` begins. -/
def longestPrefix (texts : List (List Char)) (rest : List Char) : Option (List Char) :=
  (texts.filter fun text => text ≠ [] ∧ text <+: rest).argmax byteLength

variable {texts : List (List Char)} {rest text : List Char}

theorem of_longestPrefix (h : longestPrefix texts rest = some text) :
    text ∈ texts ∧ text ≠ [] ∧ text <+: rest ∧
      ∀ text' ∈ texts, text' <+: rest → byteLength text' ≤ byteLength text := by
  have hmem := List.argmax_mem h
  simp only [List.mem_filter, decide_eq_true_eq] at hmem
  obtain ⟨hmem, hne, hpre⟩ := hmem
  refine ⟨hmem, hne, hpre, fun text' hmem' hpre' => ?_⟩
  by_cases hnil : text' = []
  · simp [hnil]
  · exact List.le_of_mem_argmax (List.mem_filter.2 ⟨hmem', by simpa using ⟨hnil, hpre'⟩⟩) h

theorem longestPrefix_eq_none_iff :
    longestPrefix texts rest = none ↔ ∀ text ∈ texts, text <+: rest → text = [] := by
  rw [longestPrefix, List.argmax_eq_none, List.filter_eq_nil_iff]
  grind

/-- The text that is read in front of `c :: cs`: the longest prefix, or a single character. -/
def nextText (texts : List (List Char)) (c : Char) (cs : List Char) : List Char :=
  (longestPrefix texts (c :: cs)).getD [c]

theorem nextText_ne_nil (texts : List (List Char)) (c : Char) (cs : List Char) :
    nextText texts c cs ≠ [] := by
  rw [nextText]
  cases h : longestPrefix texts (c :: cs) with
  | none => exact List.cons_ne_nil c []
  | some text => exact (of_longestPrefix h).2.1

end Text

/-! ## The tokens of verbatim definitions -/

namespace Tokenizer

/-- The types search for the given texts verbatim, type number `k` for text number `k`. -/
def AreVerbatim (types : List (TokenType τ)) (texts : List (List Char)) : Prop :=
  types.map (·.matcher) = texts.map fun text => .literal ⟨text⟩

/-- The winner in front of `rest` at byte `offset`, among types with the given texts. -/
def verbatimWinner (types : List (TokenType τ)) (texts : List (List Char)) (offset : Nat)
    (rest : List Char) : Option (TokenType τ × Match) :=
  (Text.longestPrefix texts rest).bind fun text =>
    (types[texts.idxOf text]?).map (·, (⟨text⟩ : Needle).matchAt offset)

/-- The tokens of the rest of a source, which begins at byte `offset`, of types with the given
texts. -/
def verbatimTokens (types : List (TokenType τ)) (texts : List (List Char)) (source : List Char)
    (offset : Nat) (tracker : Option LineTracker) : List Char → List (Token τ)
  | [] => []
  | c :: cs =>
    let text := Text.nextText texts c cs
    let length := Text.byteLength text
    let location := (tracker.map (·.toLocation offset)).getD ⟨0, 0, offset⟩
    { winner := verbatimWinner types texts offset (c :: cs), index := offset, text, length,
      location, source } ::
      verbatimTokens types texts source (offset + length) (tracker.map (·.advance text))
        ((c :: cs).drop text.length)
termination_by rest => rest.length
decreasing_by
  have := List.length_pos_iff.2 (Text.nextText_ne_nil texts c cs)
  rw [List.length_drop, List.length_cons]
  omega

end Tokenizer

namespace Session

section Winner

variable {types : List (TokenType τ)} {texts : List (List Char)} {p : Cursor}

theorem exists_verbatim (h : Tokenizer.AreVerbatim types texts) {j : Nat} {text : List Char}
    (ht : texts[j]? = some text) :
    ∃ type, types[j]? = some type ∧ type.matcher = .literal ⟨text⟩ := by
  have hj := congrArg (·[j]?) h
  simp only [List.getElem?_map, ht, Option.map_some] at hj
  exact Option.map_eq_some_iff.1 hj

theorem matchAt?_verbatim (h : Tokenizer.AreVerbatim types texts) {j : Nat} {x : Match}
    (hx : matchAt? types p j = some x) :
    ∃ text, texts[j]? = some text ∧ text <+: p.rest ∧ x.length = Text.byteLength text := by
  obtain ⟨type, htype, hx⟩ := Option.bind_eq_some_iff.1 hx
  have hj := congrArg (·[j]?) h
  simp only [List.getElem?_map, htype, Option.map_some] at hj
  obtain ⟨text, htext, hmatcher⟩ := Option.map_eq_some_iff.1 hj.symm
  rw [← hmatcher, Matcher.matchAt_literal_eq_some_iff] at hx
  obtain ⟨hpre, rfl⟩ := hx
  exact ⟨text, htext, hpre, Needle.length_matchAt _ _⟩

/-- The longest prefix wins. -/
theorem winnerAt_verbatim (h : Tokenizer.AreVerbatim types texts) (p : Cursor) :
    winnerAt types p = Tokenizer.verbatimWinner types texts p.offset p.rest := by
  rw [Tokenizer.verbatimWinner]
  cases hl : Text.longestPrefix texts p.rest with
  | none =>
    rw [Option.bind_none, winnerAt_eq_none_iff]
    intro j x hx
    obtain ⟨text, htext, hpre, hlength⟩ := matchAt?_verbatim h hx
    rw [hlength, Text.longestPrefix_eq_none_iff.1 hl text (List.mem_of_getElem? htext) hpre,
      Text.byteLength_nil]
  | some text =>
    obtain ⟨hmem, hne, hpre, hmax⟩ := Text.of_longestPrefix hl
    obtain ⟨type, htype, hmatcher⟩ := exists_verbatim h (List.getElem?_idxOf hmem)
    have hpos : 0 < Text.byteLength text :=
      Nat.lt_of_lt_of_le (List.length_pos_iff.2 hne) (Text.length_le_byteLength text)
    rw [Option.bind_some, htype, Option.map_some]
    refine winnerAt_of_position htype ?_ ?_ fun j x hx => ?_
    · rw [hmatcher]
      exact Matcher.matchAt_literal_eq_some_iff.2 ⟨hpre, rfl⟩
    · rw [Needle.length_matchAt]
      exact hpos
    · obtain ⟨text', htext', hpre', hlength⟩ := matchAt?_verbatim h hx
      rw [hlength, Needle.length_matchAt]
      have hle := hmax text' (List.mem_of_getElem? htext') hpre'
      refine ⟨hle, fun hj => Nat.lt_of_le_of_ne hle fun heq => ?_⟩
      -- Two beginnings of the rest that are equally long are the same text.
      obtain ⟨later, hlater⟩ := hpre
      obtain ⟨later', hlater'⟩ := hpre'
      obtain rfl : text' = text := Text.eq_of_append_eq (hlater'.trans hlater.symm) heq
      obtain ⟨hlt, hget⟩ := List.getElem?_eq_some_iff.1 htext'
      have := List.not_of_lt_findIdx hj
      rw [hget, beq_self_eq_true] at this
      cases this

end Winner

/-! ## Steps and runs -/

variable {s after : Session τ} {token : Token τ} {texts : List (List Char)}

/-- One step reads the next text. -/
theorem Reads.text_eq_nextText (h : s.Reads token after)
    (hverbatim : Tokenizer.AreVerbatim s.types texts) {c : Char} {cs : List Char}
    (hrest : s.cursor.rest = c :: cs) :
    token.text = Text.nextText texts c cs := by
  have hwinner := winnerAt_verbatim hverbatim s.cursor
  rw [hrest, Tokenizer.verbatimWinner] at hwinner
  rw [Text.nextText]
  cases hl : Text.longestPrefix texts (c :: cs) with
  | none =>
    rw [hl, Option.bind_none, ← h.winner] at hwinner
    obtain ⟨d, hd⟩ := h.single hwinner
    have happend := h.rest
    rw [hrest, hd, List.singleton_append] at happend
    rw [hd, (List.cons.inj happend).1, Option.getD_none]
  | some text =>
    obtain ⟨hmem, -, ⟨later, hlater⟩, -⟩ := Text.of_longestPrefix hl
    obtain ⟨type, htype, -⟩ := exists_verbatim hverbatim (List.getElem?_idxOf hmem)
    rw [hl, Option.bind_some, htype, Option.map_some] at hwinner
    exact (h.text_eq hwinner (hrest.trans hlater.symm) rfl).1

/-- One step is one step of the recursion on the rest. -/
theorem Reads.verbatimTokens_eq_cons (h : s.Reads token after)
    (hverbatim : Tokenizer.AreVerbatim s.types texts) :
    Tokenizer.verbatimTokens s.types texts s.source s.offset s.tracker s.cursor.rest =
      token :: Tokenizer.verbatimTokens after.types texts after.source after.offset after.tracker
        after.cursor.rest := by
  obtain ⟨c, cs, hrest⟩ := h.exists_rest_eq_cons
  have htext := h.text_eq_nextText hverbatim hrest
  have hwinner := winnerAt_verbatim hverbatim s.cursor
  have hoffset : after.offset = s.offset + Text.byteLength token.text := by
    rw [offset, h.cursor]
    rfl
  have hdrop : after.cursor.rest = (c :: cs).drop token.text.length := by
    rw [← hrest, h.rest, List.drop_left]
  rw [hrest] at hwinner
  rw [hrest, Tokenizer.verbatimTokens, ← htext, ← location_eq, h.types, h.source, h.tracker,
    hoffset, hdrop, List.cons.injEq]
  refine ⟨?_, rfl⟩
  rw [h.token_eq, hwinner]
  rfl

theorem Sound.tokens_eq_verbatimTokens (hs : s.Sound)
    (hverbatim : Tokenizer.AreVerbatim s.types texts) :
    s.tokens =
      Tokenizer.verbatimTokens s.types texts s.source s.offset s.tracker s.cursor.rest := by
  induction hs using Sound.step_induction with
  | done s hs hnil => rw [tokens_of_rest_eq_nil hnil, hnil, Tokenizer.verbatimTokens]
  | step s token after hs hafter hreads htokens ih =>
    rw [htokens, ih (hreads.types ▸ hverbatim), hreads.verbatimTokens_eq_cons hverbatim]

end Session

/-! ## Other places -/

/-- The span `d` bytes later. -/
def Span.shift (d : Nat) (s : Span) : Span := ⟨s.start + d, s.stop + d⟩

/-- The match `d` bytes later. -/
def Match.shift (d : Nat) (m : Match) : Match :=
  ⟨m.span.shift d, m.groups.map (Option.map (·.shift d))⟩

/-- The token `b` is the token `a` but `d` bytes later, in whatever line and column. -/
structure Token.ShiftedBy (d : Nat) (a b : Token τ) : Prop where
  winner : b.winner = a.winner.map (Prod.map id (·.shift d))
  index : b.index = a.index + d
  text : b.text = a.text
  length : b.length = a.length
  offset : b.location.offset = a.location.offset + d

namespace Tokenizer

theorem verbatimWinner_add (types : List (TokenType τ)) (texts : List (List Char))
    (offset d : Nat) (rest : List Char) :
    verbatimWinner types texts (offset + d) rest =
      (verbatimWinner types texts offset rest).map (Prod.map id (·.shift d)) := by
  rw [verbatimWinner, verbatimWinner, Option.map_bind]
  refine Option.bind_congr fun text _ => ?_
  have hshift : (⟨text⟩ : Needle).matchAt (offset + d) =
      ((⟨text⟩ : Needle).matchAt offset).shift d := by
    simp only [Needle.matchAt, Match.shift, Span.shift, List.map_nil, Nat.add_right_comm]
  rw [Function.comp_apply, Option.map_map, hshift]
  rfl

theorem offset_getD_toLocation (tracker : Option LineTracker) (offset : Nat) :
    ((tracker.map (LineTracker.toLocation · offset)).getD ⟨0, 0, offset⟩ : Location).offset =
      offset := by
  cases tracker <;> rfl

/-- The same text at another place of another source has the same tokens. -/
theorem verbatimTokens_shiftedBy (types : List (TokenType τ)) (texts : List (List Char))
    (source source' : List Char) (offset d : Nat) (tracker tracker' : Option LineTracker)
    (rest : List Char) :
    List.Forall₂ (Token.ShiftedBy d) (verbatimTokens types texts source offset tracker rest)
      (verbatimTokens types texts source' (offset + d) tracker' rest) := by
  induction hlen : rest.length using Nat.strongRecOn generalizing offset tracker tracker' rest with
  | _ len ih =>
    cases rest with
    | nil =>
      rw [verbatimTokens, verbatimTokens]
      exact .nil
    | cons c cs =>
      have htext := List.length_pos_iff.2 (Text.nextText_ne_nil texts c cs)
      have hlt : ((c :: cs).drop (Text.nextText texts c cs).length).length < len := by
        rw [List.length_cons] at hlen
        rw [List.length_drop, List.length_cons]
        omega
      rw [verbatimTokens, verbatimTokens]
      refine .cons ⟨verbatimWinner_add types texts offset d _, rfl, rfl, rfl, ?_⟩ ?_
      · dsimp only
        rw [offset_getD_toLocation, offset_getD_toLocation]
      · rw [Nat.add_right_comm]
        exact ih _ hlt _ _ _ _ rfl

end Tokenizer

/-- Two sessions in front of the same text give the same tokens, but for their places. -/
theorem Session.Sound.tokens_shiftedBy {s s' : Session τ} (hs : s.Sound) (hs' : s'.Sound)
    {texts : List (List Char)} {d : Nat}
    (hverbatim : Tokenizer.AreVerbatim s.types texts)
    (htypes : s'.types = s.types) (hrest : s'.cursor.rest = s.cursor.rest)
    (hoffset : s'.offset = s.offset + d) :
    List.Forall₂ (Token.ShiftedBy d) s.tokens s'.tokens := by
  rw [hs.tokens_eq_verbatimTokens hverbatim, hs'.tokens_eq_verbatimTokens (htypes ▸ hverbatim),
    htypes, hrest, hoffset]
  exact Tokenizer.verbatimTokens_shiftedBy ..

namespace Tokenizer

/-- The tokenizer that the given texts make. -/
def verbatim (config : Config) (literals : List (τ × String)) : Tokenizer τ :=
  ⟨literals.mapIdx fun k l => ⟨l.1, .literal l.2, .literal ⟨l.2.toList⟩, k⟩, config⟩

variable (config : Config) (literals : List (τ × String))

theorem build_verbatim :
    build config (literals.map fun l => ⟨l.1, .literal l.2⟩) = .ok (verbatim config literals) := by
  obtain ⟨t, ht⟩ : ∃ t, build config (literals.map fun l => ⟨l.1, .literal l.2⟩) = .ok t := by
    rw [exists_build_iff]
    intro d hd
    obtain ⟨l, -, rfl⟩ := List.mem_map.1 hd
    exact ⟨_, rfl⟩
  have htypes : t.types = (verbatim config literals).types := by
    refine List.ext_getElem? fun k => Option.ext fun type => ?_
    rw [getElem?_types_eq_some_iff ht, verbatim, List.getElem?_mapIdx, List.getElem?_map,
      Option.map_eq_some_iff, Option.map_eq_some_iff]
    constructor
    · rintro ⟨rfl, ⟨l, hl, hdef⟩, hmatcher⟩
      obtain ⟨tag, pattern, matcher, index⟩ := type
      cases hdef
      cases hmatcher
      exact ⟨l, hl, rfl⟩
    · rintro ⟨l, hl, rfl⟩
      exact ⟨rfl, ⟨l, hl, rfl⟩, rfl⟩
  rw [ht]
  obtain ⟨types, config'⟩ := t
  exact congrArg Except.ok (congrArg₂ Tokenizer.mk htypes (build_eq_ok_iff.1 ht).2)

theorem areVerbatim_verbatim :
    AreVerbatim (verbatim config literals).types (literals.map (·.2.toList)) := by
  refine List.ext_getElem? fun k => ?_
  cases hk : literals[k]? <;> simp [verbatim, hk]

/-- Texts make a tokenizer. Its tokens of a source are those of `verbatimTokens`, and its tokens
behind the first `n` ones are the tokens of the text that is left there, scanned as a source of its
own, but for their places. -/
theorem scan_verbatim :
    build config (literals.map fun l => ⟨l.1, .literal l.2⟩) = .ok (verbatim config literals) ∧
      ∀ source, let t := verbatim config literals
        t.scan source = verbatimTokens t.types (literals.map (·.2.toList)) source 0
          (if config.trackLocations then some .start else none) source ∧
        ∀ n, let boundary := (((t.scan source).take n).map (·.length)).sum
          ∃ rest, Text.dropBytes boundary source = some rest ∧
            List.Forall₂ (Token.ShiftedBy boundary) (t.scan rest) ((t.scan source).drop n) := by
  refine ⟨build_verbatim config literals, fun source => ?_⟩
  intro t
  have hverbatim := areVerbatim_verbatim config literals
  have hs := Session.sound_session t source
  refine ⟨hs.tokens_eq_verbatimTokens hverbatim, fun n => ?_⟩
  intro boundary
  have hrun := hs.run_reads n
  have hoffset : ((t.session source).run n).2.2.offset = 0 + boundary := by
    rw [hs.offset_run, hs.run_fst, ← hs.sum_length_take]
    rfl
  refine ⟨((t.session source).run n).2.2.cursor.rest, ?_, ?_⟩
  · have hdrop := hrun.sound.cursor.dropBytes
    rwa [hrun.source, ← Session.offset, hoffset, Nat.zero_add] at hdrop
  · rw [show (t.scan source).drop n = ((t.session source).run n).2.2.tokens from
      (hs.tokens_run n).symm]
    exact (Session.sound_session t _).tokens_shiftedBy hrun.sound hverbatim hrun.types rfl hoffset

end Tokenizer

end Munch
