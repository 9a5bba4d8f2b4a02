import Mathlib.Data.List.Forall2
import Munch.Proofs.Except
import Munch.Proofs.Session.Order

/-!
# Definitions put in place of others

Of a matcher a session sees only where its matches end. So definitions can be put in place of others
with the same tags whose matches have the same spans: each token stays the piece that it is, with
the same tag and the same number of its type.

* `TokenType.Alike`, `Session.winnerAt_outline`: types that a session does not tell apart, and the
  winner of a place.
* `Session.Reads.alike`, `Session.Sound.tokens_alike`: one step and all steps of two sessions.
* `Tokenizer.scan_alike`: the tokens under both lists of definitions.
-/

namespace Munch

variable {τ : Type}

/-- Two matchers whose matches right at a place have the same span, at each place. -/
def Matcher.SameSpans (m m' : Matcher) : Prop :=
  ∀ p, (m.matchAt p).map (·.span) = (m'.matchAt p).map (·.span)

/-- Two types with the same tag and the same number, whose matches have the same spans. -/
structure TokenType.Alike (t t' : TokenType τ) : Prop where
  tag : t.tag = t'.tag
  index : t.index = t'.index
  spans : t.matcher.SameSpans t'.matcher

/-- Two tokens that are the same piece, with the same tag and the same number of their type. -/
structure Token.Alike (a b : Token τ) : Prop extends a.SamePiece b where
  tag : a.tag? = b.tag?
  type : a.type?.map (·.index) = b.type?.map (·.index)

/-- Two definitions with the same tag, whose matchers, if they compile, have the same spans. -/
structure Definition.Alike (config : Config) (d d' : Definition τ) : Prop where
  tag : d.tag = d'.tag
  spans : ∀ m m', d.pattern.matcher config = .ok m → d'.pattern.matcher config = .ok m' →
    m.SameSpans m'

theorem Matcher.SameSpans.refl (m : Matcher) : m.SameSpans m := fun _ => rfl

theorem Matcher.SameSpans.symm {m m' : Matcher} (h : m.SameSpans m') : m'.SameSpans m :=
  fun p => (h p).symm

/-- Searches by matchers with the same spans find the same spans. -/
theorem Matcher.SameSpans.find {m m' : Matcher} (h : m.SameSpans m') (p : Cursor) :
    (m.find p).map (·.span) = (m'.find p).map (·.span) := by
  rw [find_eq, find_eq, List.map_findSome?, List.map_findSome?]
  exact congrArg (fun f => p.places.findSome? f) (funext h)

namespace Session

/-! ## The winner -/

/-- What is seen of a winner: tag and number of its type, and its span. -/
def outline (w : TokenType τ × Match) : τ × Nat × Span := (w.1.tag, w.1.index, w.2.span)

theorem length_eq_of_outline {w w' : TokenType τ × Match} (h : outline w = outline w') :
    w.2.length = w'.2.length :=
  congrArg (·.2.2.length) h

theorem winnerAt_outline {types types' : List (TokenType τ)}
    (h : List.Forall₂ TokenType.Alike types types') (p : Cursor) :
    (winnerAt types p).map outline = (winnerAt types' p).map outline := by
  induction h with
  | nil => rfl
  | @cons t t' ts ts' ht _ ih =>
    have hspan := ht.spans p
    rw [winnerAt_cons, winnerAt_cons]
    cases hm : t.matcher.matchAt p with
    | none =>
      rw [hm, Option.map_none, eq_comm, Option.map_eq_none_iff] at hspan
      rw [hspan]
      exact ih
    | some m =>
      rw [hm, Option.map_some, eq_comm, Option.map_eq_some_iff] at hspan
      obtain ⟨m', hm', hspan⟩ := hspan
      have houtline : outline (t, m) = outline (t', m') := by
        rw [outline, outline, ht.tag, ht.index, hspan]
      have hlength : m.length = m'.length := length_eq_of_outline houtline
      rw [hm', Option.filter_some, Option.filter_some, hlength]
      by_cases hpos : 0 < m'.length
      · rw [if_pos (by simpa using hpos), if_pos (by simpa using hpos)]
        cases hw : winnerAt ts p with
        | none =>
          rw [hw, Option.map_none, eq_comm, Option.map_eq_none_iff] at ih
          rw [ih]
          exact congrArg some houtline
        | some w =>
          rw [hw, Option.map_some, eq_comm, Option.map_eq_some_iff] at ih
          obtain ⟨w', hw', hout⟩ := ih
          rw [hw']
          dsimp only
          rw [hlength, ← length_eq_of_outline hout]
          by_cases hlt : m'.length < w'.2.length
          · rw [if_pos hlt, if_pos hlt]
            exact congrArg some hout.symm
          · rw [if_neg hlt, if_neg hlt]
            exact congrArg some houtline
      · rw [if_neg (by simpa using hpos), if_neg (by simpa using hpos)]
        exact ih

/-! ## Steps and runs -/

/-- Two sessions at the same place of the same source, whose types are alike one by one. -/
structure AlikeTypes (s s' : Session τ) : Prop where
  cursor : s.cursor = s'.cursor
  tracker : s.tracker = s'.tracker
  types : List.Forall₂ TokenType.Alike s.types s'.types

variable {s s' after after' : Session τ} {token token' : Token τ}

/-- One step of sessions with types that are alike reads the same piece. -/
theorem Reads.alike (h : s.Reads token after) (h' : s'.Reads token' after')
    (hs : s.AlikeTypes s') : token.Alike token' ∧ after.AlikeTypes after' := by
  have hwinner : token.winner.map outline = token'.winner.map outline := by
    rw [h.winner, h'.winner, ← hs.cursor]
    exact winnerAt_outline hs.types s.cursor
  have hlength : token.winner.map (·.2.length) = token'.winner.map (·.2.length) := by
    have := congrArg (Option.map (·.2.2.length)) hwinner
    rwa [Option.map_map, Option.map_map] at this
  obtain ⟨hpiece, hcursor, htracker⟩ := h.samePiece_of_length h' hs.cursor hs.tracker hlength
  refine ⟨⟨hpiece, ?_, ?_⟩, hcursor, htracker, ?_⟩
  · have := congrArg (Option.map (·.1)) hwinner
    rw [Option.map_map, Option.map_map] at this
    rw [Token.tag?, Token.tag?, Token.type?, Token.type?, Option.map_map, Option.map_map]
    exact this
  · have := congrArg (Option.map (·.2.1)) hwinner
    rw [Option.map_map, Option.map_map] at this
    rw [Token.type?, Token.type?, Option.map_map, Option.map_map]
    exact this
  · rw [h.types, h'.types]
    exact hs.types

theorem Sound.tokens_alike (hs : s.Sound) (hs' : s'.Sound) (h : s.AlikeTypes s') :
    List.Forall₂ Token.Alike s.tokens s'.tokens :=
  hs.tokens_forall₂ (fun halike => congrArg Cursor.rest halike.cursor)
    (fun _ _ halike hreads hreads' _ => hreads.alike hreads' halike) hs' h

end Session

namespace Tokenizer

variable {config : Config} {defs defs' : List (Definition τ)}

/-- Definitions make a tokenizer if others do in place of which they can be put. -/
theorem exists_build_of_forall₂
    (h : List.Forall₂ (fun d d' : Definition τ => ∀ m, d.pattern.matcher config = .ok m →
      ∃ m', d'.pattern.matcher config = .ok m') defs defs') {t : Tokenizer τ}
    (ht : build config defs = .ok t) : ∃ t', build config defs' = .ok t' := by
  have hdefs := (exists_build_iff config defs).1 ⟨t, ht⟩
  rw [exists_build_iff]
  clear ht
  induction h with
  | nil => exact hdefs
  | cons hd _ ih =>
    rw [List.forall_mem_cons] at hdefs ⊢
    obtain ⟨⟨m, hm⟩, hdefs⟩ := hdefs
    exact ⟨hd m hm, ih hdefs⟩

theorem typesFrom_alike (h : List.Forall₂ (Definition.Alike config) defs defs') {index : Nat}
    {types types' : List (TokenType τ)} (htypes : typesFrom config index defs = .ok types)
    (htypes' : typesFrom config index defs' = .ok types') :
    List.Forall₂ TokenType.Alike types types' := by
  induction h generalizing index types types' with
  | nil =>
    cases htypes
    cases htypes'
    exact .nil
  | cons hd _ ih =>
    rw [typesFrom] at htypes htypes'
    split at htypes
    · cases htypes
    next m hm =>
      split at htypes'
      · cases htypes'
      next m' hm' =>
        obtain ⟨rest, hrest, rfl⟩ := Except.map_eq_ok_iff.1 htypes
        obtain ⟨rest', hrest', rfl⟩ := Except.map_eq_ok_iff.1 htypes'
        exact .cons ⟨hd.tag, rfl, hd.spans m m' hm hm'⟩ (ih hrest hrest')

/-- Definitions that are alike one by one give tokens that are alike one by one. -/
theorem scan_alike {t t' : Tokenizer τ} (ht : build config defs = .ok t)
    (ht' : build config defs' = .ok t') (h : List.Forall₂ (Definition.Alike config) defs defs')
    (source : List Char) : List.Forall₂ Token.Alike (t.scan source) (t'.scan source) := by
  obtain ⟨htypes, hconfig⟩ := build_eq_ok_iff.1 ht
  obtain ⟨htypes', hconfig'⟩ := build_eq_ok_iff.1 ht'
  refine (Session.sound_session t source).tokens_alike (Session.sound_session t' source)
    ⟨rfl, ?_, typesFrom_alike h htypes htypes'⟩
  simp only [session, hconfig, hconfig']

end Tokenizer

end Munch
