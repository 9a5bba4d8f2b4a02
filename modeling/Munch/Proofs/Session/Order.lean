import Mathlib.Order.Bounds.Defs
import Munch.Proofs.Session.LongestMatch
import Munch.Proofs.Session.Tokens

/-!
# The order of the definitions

The order of the definitions decides which of several equally long matches wins, and nothing else:
how long the longest match at a place is depends only on which matchers there are.

* `Session.winnerAt_length_congr`: the length of the winner does not depend on the order.
* `Session.Reads.samePiece`, `Session.Sound.tokens_samePiece`: one step and all steps of two
  sessions with the same matchers.
* `Tokenizer.scan_perm`: the tokens under two orders of the same definitions.
-/

namespace Munch

variable {τ : Type}

/-- Two tokens that are the same but for the type that won and its match. -/
structure Token.SamePiece (a b : Token τ) : Prop where
  index : a.index = b.index
  text : a.text = b.text
  length : a.length = b.length
  location : a.location = b.location
  isFallback : a.isFallback = b.isFallback

/-- If the token is a match, its type is made of the first of the definitions whose match at the
place of the token is as long as the token. -/
def Token.WonByFirst (t : Tokenizer τ) (defs : List (Definition τ)) (source : List Char)
    (token : Token τ) : Prop :=
  ∀ type m, token.winner = some (type, m) →
    t.types[type.index]? = some type ∧ defs[type.index]? = some ⟨type.tag, type.pattern⟩ ∧
      IsLeast {k | t.anchoredLength? source token.index k = some token.length} type.index

namespace Session

/-! ## The length of the winner -/

section Winner

variable {types types' : List (TokenType τ)} {p : Cursor}

/-- A winner among some types has one that is at least as long among more matchers. -/
theorem exists_winnerAt_of_subset
    (h : types.map (·.matcher) ⊆ types'.map (·.matcher)) {w : TokenType τ × Match}
    (hw : winnerAt types p = some w) :
    ∃ w', winnerAt types' p = some w' ∧ w.2.length ≤ w'.2.length := by
  obtain ⟨ht, hat, hpos⟩ := of_winnerAt hw
  obtain ⟨t', ht', hmatcher⟩ := List.mem_map.1 (h (List.mem_map_of_mem ht))
  rw [← hmatcher] at hat
  obtain ⟨w', hw'⟩ := exists_winnerAt ht' hat hpos
  exact ⟨w', hw', length_le_of_winnerAt hw' ht' hat⟩

/-- How long the winner is depends only on which matchers there are. -/
theorem winnerAt_length_congr
    (h : ∀ m, m ∈ types.map (·.matcher) ↔ m ∈ types'.map (·.matcher)) (p : Cursor) :
    (winnerAt types p).map (·.2.length) = (winnerAt types' p).map (·.2.length) := by
  have hsub : types.map (·.matcher) ⊆ types'.map (·.matcher) := fun m hm => (h m).1 hm
  have hsub' : types'.map (·.matcher) ⊆ types.map (·.matcher) := fun m hm => (h m).2 hm
  cases hw : winnerAt types p with
  | none =>
    cases hw' : winnerAt types' p with
    | none => rfl
    | some w' =>
      obtain ⟨w, hw'', -⟩ := exists_winnerAt_of_subset hsub' hw'
      rw [hw] at hw''
      cases hw''
  | some w =>
    obtain ⟨w', hw', hle⟩ := exists_winnerAt_of_subset hsub hw
    obtain ⟨w'', hw'', hle'⟩ := exists_winnerAt_of_subset hsub' hw'
    rw [hw, Option.some.injEq] at hw''
    subst hw''
    rw [hw', Option.map_some, Option.map_some, Nat.le_antisymm hle hle']

end Winner

/-! ## Steps and runs -/

/-- Two sessions at the same place of the same source, with the same matchers in any order. -/
structure SameMatchers (s s' : Session τ) : Prop where
  cursor : s.cursor = s'.cursor
  tracker : s.tracker = s'.tracker
  matchers : ∀ m, m ∈ s.types.map (·.matcher) ↔ m ∈ s'.types.map (·.matcher)

variable {s s' after after' : Session τ} {token token' : Token τ}

theorem Reads.winner_length_eq (h : s.Reads token after) (h' : s'.Reads token' after')
    (hs : s.SameMatchers s') :
    token.winner.map (·.2.length) = token'.winner.map (·.2.length) := by
  rw [h.winner, h'.winner, ← hs.cursor]
  exact winnerAt_length_congr hs.matchers s.cursor

/-- Steps from the same place with winners of the same length read the same piece, and lead to the
same place with the same lines and columns. -/
theorem Reads.samePiece_of_length (h : s.Reads token after) (h' : s'.Reads token' after')
    (hcursor : s.cursor = s'.cursor) (htracker : s.tracker = s'.tracker)
    (hlength : token.winner.map (·.2.length) = token'.winner.map (·.2.length)) :
    token.SamePiece token' ∧ after.cursor = after'.cursor ∧ after.tracker = after'.tracker := by
  obtain ⟨hindex, htext, hlen, hafter⟩ := h.piece_eq_of_length h' hcursor hlength
  have hlocation : token.location = token'.location := by
    rw [h.location, h'.location, Session.location, Session.location, htracker, offset, offset,
      hcursor]
  have hfallback : token.isFallback = token'.isFallback := by
    have := congrArg Option.isNone hlength
    rwa [Option.isNone_map, Option.isNone_map] at this
  refine ⟨⟨hindex, htext, hlen, hlocation, hfallback⟩, hafter, ?_⟩
  rw [h.tracker, h'.tracker, htracker, htext]

/-- One step of sessions with the same matchers reads the same piece, and leaves sessions with the
same matchers. -/
theorem Reads.samePiece (h : s.Reads token after) (h' : s'.Reads token' after')
    (hs : s.SameMatchers s') : token.SamePiece token' ∧ after.SameMatchers after' := by
  obtain ⟨hpiece, hcursor, htracker⟩ :=
    h.samePiece_of_length h' hs.cursor hs.tracker (h.winner_length_eq h' hs)
  refine ⟨hpiece, hcursor, htracker, ?_⟩
  rw [h.types, h'.types]
  exact hs.matchers

/-- Sessions with the same matchers read the same pieces. -/
theorem Sound.tokens_samePiece (hs : s.Sound) (hs' : s'.Sound) (h : s.SameMatchers s') :
    List.Forall₂ Token.SamePiece s.tokens s'.tokens :=
  hs.tokens_forall₂ (fun hsame => congrArg Cursor.rest hsame.cursor)
    (fun _ _ hsame hreads hreads' _ => hreads.samePiece hreads' hsame) hs' h

end Session

namespace Tokenizer

variable {config : Config} {defs defs' : List (Definition τ)} {t : Tokenizer τ}
  {source : List Char}

/-- The type of a match is the first of those whose match is as long as the token. -/
theorem wonByFirst_of_mem_scan (ht : build config defs = .ok t) {token : Token τ}
    (htoken : token ∈ t.scan source) : token.WonByFirst t defs source := by
  intro type m hw
  obtain ⟨s, after, hs, htypes, hsource, hreads⟩ :=
    (Session.sound_session t source).exists_reads htoken
  replace htypes : s.types = t.types := htypes
  replace hsource : s.source = source := hsource
  subst hsource
  have hlength := hs.anchoredLength?_eq htypes
  have hm := hreads.length_match hw
  have hwinner := hreads.winner
  rw [hw, eq_comm] at hwinner
  obtain ⟨i, hi, hat, -, hmax⟩ := Session.exists_position_of_winnerAt hwinner
  have hat' : Session.matchAt? s.types s.cursor i = some m := by
    rw [Session.matchAt?, hi]
    exact hat
  rw [htypes] at hi
  obtain ⟨rfl, hdef, -⟩ := of_build ht hi
  refine ⟨hi, hdef, ?_, ?_⟩
  · change t.anchoredLength? s.source token.index type.index = some token.length
    rw [hreads.index, hlength, hat', ← hm]
    rfl
  · intro k hk
    change t.anchoredLength? s.source token.index k = some token.length at hk
    rw [hreads.index, hlength, Option.map_eq_some_iff] at hk
    obtain ⟨x, hx, hxm⟩ := hk
    -- A type in front of the winner has no match of that length.
    by_contra hlt
    have := (hmax k x hx).2 (by omega)
    omega

/-- Definitions that make a tokenizer make one in every order. The tokens of a source are the same
pieces under both orders, and under each of them a match is won by the definition that is the first
in that order of those whose match there is as long. -/
theorem scan_perm (ht : build config defs = .ok t) (hperm : defs.Perm defs')
    (source : List Char) : ∃ t', build config defs' = .ok t' ∧
      List.Forall₂ Token.SamePiece (t.scan source) (t'.scan source) ∧
      (∀ token ∈ t.scan source, token.WonByFirst t defs source) ∧
      ∀ token ∈ t'.scan source, token.WonByFirst t' defs' source := by
  obtain ⟨t', ht'⟩ : ∃ t', build config defs' = .ok t' := by
    rw [exists_build_iff]
    exact fun d hd => (exists_build_iff config defs).1 ⟨t, ht⟩ d (hperm.mem_iff.2 hd)
  refine ⟨t', ht', ?_, fun _ => wonByFirst_of_mem_scan ht, fun _ => wonByFirst_of_mem_scan ht'⟩
  refine (Session.sound_session t source).tokens_samePiece (Session.sound_session t' source) ?_
  refine ⟨rfl, ?_, fun m => ?_⟩
  · simp only [session, (build_eq_ok_iff.1 ht).2, (build_eq_ok_iff.1 ht').2]
  · change m ∈ t.types.map (·.matcher) ↔ m ∈ t'.types.map (·.matcher)
    rw [mem_matchers_iff ht, mem_matchers_iff ht']
    simp only [hperm.mem_iff]

/-- The definitions `overlapping` the other way round: number 1 of them now wins at the start of
`abx` as well, but it is another one. -/
theorem scan_overlapping_reverse :
    ∃ t t' : Tokenizer Nat, build {} overlapping = .ok t ∧
      build {} overlapping.reverse = .ok t' ∧ overlapping.Perm overlapping.reverse ∧
      List.Forall₂ Token.SamePiece (t.scan "abx".toList) (t'.scan "abx".toList) ∧
      (t.scan "abx".toList).map (·.tag?) = [some 1, none] ∧
      (t'.scan "abx".toList).map (·.tag?) = [some 2, none] := by
  let t : Tokenizer Nat := (build {} overlapping).toOption.getD default
  have hbuild : build {} overlapping = .ok t := by decide +kernel
  have hperm : overlapping.Perm overlapping.reverse := (List.reverse_perm _).symm
  obtain ⟨t', hbuild', hpieces, -, -⟩ := scan_perm hbuild hperm "abx".toList
  have ht' : t' = (build {} overlapping.reverse).toOption.getD default := by
    rw [hbuild']
    rfl
  refine ⟨t, t', hbuild, hbuild', hperm, hpieces, by decide +kernel, ?_⟩
  rw [ht']
  decide +kernel

end Tokenizer

end Munch
