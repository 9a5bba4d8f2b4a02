import Munch.Proofs.Session.LongestMatch
import Munch.Proofs.Session.Tokens

/-!
# Definitions that never win

A type that does not win at a place has no say in which of the others does. So a definition that
wins nowhere in a source can be left out: the tokens stay as they are, and only the types behind it
get the next lower numbers.

* `Session.winnerAt_eraseIdx`: a place without the loser.
* `Session.Without`, `Session.Reads.without`: sessions with and without a type, and one step.
* `Tokenizer.types_eraseIdx`: the types without a definition.
* `Tokenizer.scan_eraseIdx`: the tokens without a definition that never wins.
-/

namespace Munch

variable {τ : Type}

/-- The type as it is numbered when definition number `k`, which is another one, is left out. -/
def TokenType.without (k : Nat) (type : TokenType τ) : TokenType τ :=
  { type with index := if k < type.index then type.index - 1 else type.index }

/-- The token with its type numbered as if there were no definition number `k`. -/
def Token.without (k : Nat) (token : Token τ) : Token τ :=
  { token with winner := token.winner.map (Prod.map (·.without k) id) }

namespace Session

/-! ## The winner -/

section Winner

variable {types : List (TokenType τ)} {p : Cursor} {k : Nat}

theorem matchAt?_eraseIdx (types : List (TokenType τ)) (p : Cursor) (k j : Nat) :
    matchAt? (types.eraseIdx k) p j = matchAt? types p (if j < k then j else j + 1) := by
  rw [matchAt?, matchAt?, List.getElem?_eraseIdx, apply_ite (types[·]?)]

/-- A type that does not win can be left out. -/
theorem winnerAt_eraseIdx
    (h : ∀ t m, types[k]? = some t → winnerAt types p ≠ some (t, m)) :
    winnerAt (types.eraseIdx k) p = winnerAt types p := by
  cases hw : winnerAt types p with
  | none =>
    rw [winnerAt_eq_none_iff] at hw ⊢
    intro j x hx
    rw [matchAt?_eraseIdx] at hx
    exact hw _ x hx
  | some w =>
    obtain ⟨t, m⟩ := w
    obtain ⟨i, ht, hm, hpos, hmax⟩ := exists_position_of_winnerAt hw
    have hik : i ≠ k := by
      rintro rfl
      exact h t m ht hw
    have ht' : (types.eraseIdx k)[if i < k then i else i - 1]? = some t := by
      rw [List.getElem?_eraseIdx]
      by_cases hlt : i < k
      · rw [if_pos hlt, if_pos hlt, ht]
      · rw [if_neg hlt, if_neg (by omega), Nat.sub_add_cancel (by omega), ht]
    refine winnerAt_of_position ht' hm hpos fun j x hx => ?_
    rw [matchAt?_eraseIdx] at hx
    obtain ⟨hle, hlt⟩ := hmax _ x hx
    exact ⟨hle, fun hj => hlt (by split at hj <;> split <;> omega)⟩

end Winner

/-! ## Steps and runs -/

/-- Two sessions at the same place of the same source, of which the second does without type number
`k`, and the first gives no token of this type any more. -/
structure Without (k : Nat) (s s' : Session τ) : Prop where
  cursor : s.cursor = s'.cursor
  source : s.source = s'.source
  tracker : s.tracker = s'.tracker
  index : ∀ (i : Nat) t, s.types[i]? = some t → t.index = i
  types : s'.types = (s.types.eraseIdx k).map (·.without k)
  unused : ∀ token ∈ s.tokens, token.type?.map (·.index) ≠ some k

variable {s s' after after' : Session τ} {token token' : Token τ} {k : Nat}

theorem Reads.winner_without (h : s.Reads token after) (h' : s'.Reads token' after')
    (hs : s.Without k s') (htoken : token ∈ s.tokens) :
    token'.winner = token.winner.map (Prod.map (·.without k) id) := by
  have herase : winnerAt (s.types.eraseIdx k) s.cursor = winnerAt s.types s.cursor := by
    refine winnerAt_eraseIdx fun t m ht hw => hs.unused token htoken ?_
    rw [Token.type?, h.winner, hw, ← hs.index k t ht]
    rfl
  rw [h'.winner, hs.types, ← hs.cursor, h.winner, ← herase]
  exact winnerAt_map _ id (fun t _ => Option.map_id_apply.symm) fun _ => rfl

/-- One step of sessions with and without a type that does not win. -/
theorem Reads.without (h : s.Reads token after) (h' : s'.Reads token' after')
    (hs : s.Without k s') (htokens : s.tokens = token :: after.tokens) :
    token.without k = token' ∧ after.Without k after' := by
  have hwinner := h.winner_without h' hs (htokens ▸ List.mem_cons_self)
  have hlength : token.winner.map (·.2.length) = token'.winner.map (·.2.length) := by
    rw [hwinner, Option.map_map]
    rfl
  obtain ⟨-, htext, -, hcursor⟩ := h.piece_eq_of_length h' hs.cursor hlength
  have hoffset : s.offset = s'.offset := congrArg Cursor.offset hs.cursor
  constructor
  · have hlocation : s.location = s'.location := by
      rw [Session.location, Session.location, hs.tracker, hoffset]
    rw [h.token_eq, h'.token_eq, ← h'.winner, hwinner, h.winner, htext, hoffset, hlocation,
      hs.source, Token.without]
  · refine ⟨hcursor, ?_, ?_, ?_, ?_, ?_⟩
    · rw [h.source, h'.source, hs.source]
    · rw [h.tracker, h'.tracker, hs.tracker, htext]
    · rw [h.types]
      exact hs.index
    · rw [h.types, h'.types, hs.types]
    · exact fun later hlater => hs.unused later (htokens ▸ List.mem_cons_of_mem token hlater)

theorem Sound.tokens_without (hs : s.Sound) (hs' : s'.Sound) (h : s.Without k s') :
    s'.tokens = s.tokens.map (·.without k) := by
  have hall : List.Forall₂ (fun token token' => token.without k = token') s.tokens s'.tokens :=
    hs.tokens_forall₂ (fun hwithout => congrArg Cursor.rest hwithout.cursor)
      (fun _ _ hwithout hreads hreads' htokens => hreads.without hreads' hwithout htokens) hs' h
  rw [← List.forall₂_map_left_iff, List.forall₂_eq_eq_eq] at hall
  exact hall.symm

end Session

namespace Tokenizer

variable {config : Config} {defs : List (Definition τ)} {t t' : Tokenizer τ} {k : Nat}

/-- The types of the definitions but one. -/
theorem types_eraseIdx (ht : build config defs = .ok t)
    (ht' : build config (defs.eraseIdx k) = .ok t') :
    t'.types = (t.types.eraseIdx k).map (·.without k) := by
  refine List.ext_getElem? fun i => Option.ext fun type => ?_
  rw [getElem?_types_eq_some_iff ht', List.getElem?_map, List.getElem?_eraseIdx,
    List.getElem?_eraseIdx, ← apply_ite (defs[·]?), ← apply_ite (t.types[·]?),
    Option.map_eq_some_iff]
  -- Type number `i` of the second list is number `j` of the first.
  generalize hj : (if i < k then i else i + 1) = j
  have hback : (if k < j then j - 1 else j) = i := by
    by_cases hlt : i < k
    · rw [if_pos hlt] at hj
      rw [if_neg (by omega), hj]
    · rw [if_neg hlt] at hj
      rw [if_pos (by omega)]
      omega
  constructor
  · rintro ⟨rfl, hdef, hmatcher⟩
    refine ⟨{ type with index := j },
      (getElem?_types_eq_some_iff ht).2 ⟨rfl, hdef, hmatcher⟩, ?_⟩
    rw [TokenType.without, hback]
  · rintro ⟨former, hformer, rfl⟩
    obtain ⟨rfl, hdef, hmatcher⟩ := of_build ht hformer
    exact ⟨hback, hdef, hmatcher⟩

/-- A definition that wins no token of a source can be left out: the tokens of the source are the
same, with the same types but for the numbers of those behind it, which are less by one. -/
theorem scan_eraseIdx (ht : build config defs = .ok t) {source : List Char}
    (hunused : ∀ token ∈ t.scan source, token.type?.map (·.index) ≠ some k) :
    ∃ t', build config (defs.eraseIdx k) = .ok t' ∧
      t'.scan source = (t.scan source).map (·.without k) := by
  obtain ⟨t', ht'⟩ : ∃ t', build config (defs.eraseIdx k) = .ok t' := by
    rw [exists_build_iff]
    exact fun d hd => (exists_build_iff config defs).1 ⟨t, ht⟩ d (List.mem_of_mem_eraseIdx hd)
  refine ⟨t', ht', (Session.sound_session t source).tokens_without
    (Session.sound_session t' source) ⟨rfl, rfl, ?_, fun i type hi => (of_build ht hi).1,
      types_eraseIdx ht ht', hunused⟩⟩
  simp only [session, (build_eq_ok_iff.1 ht).2, (build_eq_ok_iff.1 ht').2]

/-- Number 2 of the definitions `overlapping` loses against number 1 at the start of `abxb`. Without
it the type of the last token has number 2. -/
theorem scan_overlapping_eraseIdx :
    ∃ t t' : Tokenizer Nat, build {} overlapping = .ok t ∧
      (∀ token ∈ t.scan "abxb".toList, token.type?.map (·.index) ≠ some 2) ∧
      build {} (overlapping.eraseIdx 2) = .ok t' ∧
      t'.scan "abxb".toList = (t.scan "abxb".toList).map (·.without 2) ∧
      (t'.scan "abxb".toList).map (fun token => (token.tag?, token.type?.map (·.index))) =
        [(some 1, some 1), (none, none), (some 3, some 2)] := by
  let t : Tokenizer Nat := (build {} overlapping).toOption.getD default
  have hbuild : build {} overlapping = .ok t := by decide +kernel
  have hunused : ∀ token ∈ t.scan "abxb".toList, token.type?.map (·.index) ≠ some 2 := by
    decide +kernel
  obtain ⟨t', hbuild', hscan⟩ := scan_eraseIdx hbuild hunused
  refine ⟨t, t', hbuild, hunused, hbuild', hscan, ?_⟩
  rw [hscan]
  decide +kernel

end Tokenizer

end Munch
