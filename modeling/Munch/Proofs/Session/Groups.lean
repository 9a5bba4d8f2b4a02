import Munch.Proofs.Regex.Captures
import Munch.Proofs.Regex.Names
import Munch.Proofs.Session.Coverage
import Munch.Proofs.Tokenizer

/-!
# What a token tells of its match

A token either tells nothing but its text, or it tells which type won at its place and what its
match was. Then the match takes the whole token, and each group that took part in it is a piece of
the token, which is found by its number and, if it has a name, by its name.

* `Matcher.WellNamed`: a name stands for one group.
* `Token.Unmatched`, `Token.MatchedBy`: all that a token tells.
* `Session.Reads.matchedBy`: a step that reads a match.
* `Tokenizer.coherent_of_mem_scan`: the tokens of a source, and what is kept of them without it.
-/

namespace Munch

/-! ## Matchers -/

/-- A pattern whose expression, if it has been compiled before, is the result of compiling. -/
def Pattern.IsGenuine : Pattern → Prop
  | .compiled r => ∃ limits mode source, Regex.compile limits mode source = .ok r
  | _ => True

/-- Each group of a matcher has a place in the list of names, and a name stands for one group. -/
structure Matcher.WellNamed (m : Matcher) : Prop where
  ne_nil : m.groupNames ≠ []
  unique : ∀ (i j : Nat) (name : String), m.groupNames[i]? = some (some name) →
    m.groupNames[j]? = some (some name) → i = j

namespace Matcher

variable {m : Matcher} {name : String}

theorem wellNamed_of_compile {limits : Regex.Limits} {mode : Regex.Mode} {source : String}
    {r : Regex} (h : Regex.compile limits mode source = .ok r) : (regex r).WellNamed where
  ne_nil := Regex.groupNames_ne_nil h
  unique _ _ _ := Regex.eq_of_groupNames h

theorem wellNamed {config : Config} {pattern : Pattern} (hpattern : pattern.IsGenuine)
    (h : pattern.matcher config = .ok m) : m.WellNamed := by
  cases pattern with
  | literal text =>
    cases h
    exact ⟨List.cons_ne_nil _ _, fun i j name hi => by cases i <;> cases hi⟩
  | regex source flags =>
    obtain ⟨r, hr, rfl⟩ := Except.map_eq_ok_iff.1 h
    exact wellNamed_of_compile hr
  | compiled r =>
    cases h
    obtain ⟨limits, mode, source, hr⟩ := hpattern
    exact wellNamed_of_compile hr

theorem groupIndex?_eq_none_iff : m.groupIndex? name = none ↔ some name ∉ m.groupNames := by
  cases m with
  | literal needle => simp [groupIndex?, groupNames]
  | regex r => exact List.idxOf?_eq_none_iff

/-- The group with a name is the one that has it. -/
theorem WellNamed.groupIndex? (hm : m.WellNamed) {i : Nat}
    (hi : m.groupNames[i]? = some (some name)) : m.groupIndex? name = some i := by
  cases m with
  | literal needle => cases i <;> cases hi
  | regex r =>
    cases hj : r.groupIndex? name with
    | none =>
      have hmem := List.mem_of_getElem? hi
      exact absurd hmem (groupIndex?_eq_none_iff.1 hj)
    | some j =>
      obtain ⟨hlt, heq, -⟩ := List.idxOf?_eq_some_iff.1 hj
      have hj' : (regex r).groupNames[j]? = some (some name) :=
        List.getElem?_eq_some_iff.2 ⟨hlt, heq⟩
      rw [hm.unique i j name hi hj']
      exact hj

/-- A match counts the groups that have a place in the list of names. -/
theorem WellNamed.groupCount (hm : m.WellNamed) {p : Cursor} {x : Match}
    (h : m.matchAt p = some x) : x.groupCount = m.groupNames.length := by
  cases m with
  | literal needle =>
    obtain ⟨-, rfl⟩ := matchAt_literal_eq_some_iff.1 h
    rfl
  | regex r =>
    obtain ⟨y, -, rfl⟩ := Option.map_eq_some_iff.1 h
    have hpos : 0 < r.groupNames.length := List.length_pos_iff.2 hm.ne_nil
    simp only [Match.groupCount, Regex.groupCount, groupNames, List.length_map, List.length_range]
    omega

end Matcher

theorem Match.groupSpan_of_le {m : Match} {i : Nat} (h : m.groupCount ≤ i) :
    m.groupSpan i = none := by
  cases i with
  | zero => simp [groupCount] at h
  | succ i =>
    rw [groupSpan, List.getElem?_eq_none (by simpa [groupCount] using h), Option.join_none]

/-! ## Tokens -/

variable {τ : Type}

/-- A token that tells nothing but its text. -/
structure Token.Unmatched (token : Token τ) : Prop where
  isFallback : token.isFallback = true
  type : token.type? = none
  tag : token.tag? = none
  pattern : token.pattern? = none
  matcher : token.matcher? = none
  found : token.match? = none
  group : ∀ i, token.group? i = none
  named : ∀ name, token.named? name = none

/-- A token of `source` that tells that the type `t` won at its place with the match `m`. -/
structure Token.MatchedBy (token : Token τ) (source : List Char) (t : TokenType τ) (m : Match) :
    Prop where
  isFallback : token.isFallback = false
  type : token.type? = some t
  tag : token.tag? = some t.tag
  pattern : token.pattern? = some t.pattern
  matcher : token.matcher? = some t.matcher
  found : token.match? = some m
  span : m.span = ⟨token.index, token.index + token.length⟩
  span_eq : m.span = token.span
  whole : token.group? 0 = some token.text
  /-- A group that took part is a piece of the token. -/
  group : ∀ i span, m.groupSpan i = some span →
    m.span.start ≤ span.start ∧ span.start ≤ span.stop ∧ span.stop ≤ m.span.stop ∧
      ∃ text, Text.slice source span = some text ∧ token.group? i = some text
  /-- A group that took no part has no text. -/
  absent : ∀ i, m.groupSpan i = none → token.group? i = none
  bounded : ∀ i, m.groupCount ≤ i → m.groupSpan i = none
  count : m.groupCount = t.matcher.groupNames.length
  /-- A name stands for one group. -/
  named : ∀ (i : Nat) (name : String), t.matcher.groupNames[i]? = some (some name) →
    token.named? name = token.group? i ∧
      ∀ j : Nat, t.matcher.groupNames[j]? = some (some name) → j = i
  unnamed : ∀ name, some name ∉ t.matcher.groupNames → token.named? name = none

/-- What is kept of a token without its source and its tokenizer. -/
structure OwnedToken.Keeps (owned : OwnedToken τ) (token : Token τ) : Prop where
  isFallback : owned.isFallback = token.isFallback
  tag : owned.tag? = token.tag?
  pattern : owned.pattern? = token.pattern?
  found : owned.match? = token.match?
  index : owned.index = token.index
  text : owned.text.toList = token.text
  length : owned.length = token.length
  location : owned.location = token.location

theorem Token.toOwned_keeps (token : Token τ) : token.toOwned.Keeps token where
  isFallback := by
    rw [OwnedToken.isFallback, Token.isFallback, Token.toOwned, Token.tag?, Token.type?,
      Option.isNone_map, Option.isNone_map]
  tag := rfl
  pattern := rfl
  found := rfl
  index := rfl
  text := String.toList_ofList
  length := rfl
  location := rfl

theorem Token.unmatched_of_winner {token : Token τ} (h : token.winner = none) :
    token.Unmatched := by
  have hmatch : token.match? = none := by rw [Token.match?, h, Option.map_none]
  have htype : token.type? = none := by rw [Token.type?, h, Option.map_none]
  have hmatcher : token.matcher? = none := by rw [Token.matcher?, htype, Option.map_none]
  refine ⟨?_, htype, ?_, ?_, hmatcher, hmatch, fun i => ?_, fun name => ?_⟩
  · rw [Token.isFallback, h, Option.isNone_none]
  · rw [Token.tag?, htype, Option.map_none]
  · rw [Token.pattern?, htype, Option.map_none]
  · rw [Token.group?, hmatch]
    rfl
  · rw [Token.named?, hmatcher]
    rfl

namespace Session

variable {s after : Session τ} {token : Token τ} {t : TokenType τ} {m : Match}

theorem Reads.matchAt_winner (h : s.Reads token after) (hw : token.winner = some (t, m)) :
    t.matcher.matchAt s.cursor = some m := by
  rw [h.winner] at hw
  obtain ⟨i, -, hat, -⟩ := exists_position_of_winnerAt hw
  exact hat

/-- The slice of the source at a group of the match that is read. -/
theorem Reads.exists_slice (h : s.Reads token after) (hs : s.Sound)
    (hw : token.winner = some (t, m)) {i : Nat} {span : Span} (hspan : m.groupSpan i = some span) :
    m.span.start ≤ span.start ∧ span.start ≤ span.stop ∧ span.stop ≤ m.span.stop ∧
      ∃ text, Text.slice s.source span = some text := by
  have hat := h.matchAt_winner hw
  obtain ⟨p, q, r, hp, hpq, hqr, hstop, rfl⟩ := Matcher.within_of_matchAt hat hspan
  have hstart : m.span.start = s.cursor.offset := Matcher.start_of_matchAt hat
  refine ⟨hstart ▸ hp.offset_le, hpq.offset_le, hstop ▸ hqr.offset_le, ?_⟩
  obtain ⟨text, hrest, hq⟩ := hpq
  refine ⟨text, ?_⟩
  rw [hq, Cursor.past_offset]
  exact (hs.cursor.trans hp).slice hrest

/-- A step that reads a match gives a token that tells all of it. -/
theorem Reads.matchedBy (h : s.Reads token after) (hs : s.Sound) (hw : token.winner = some (t, m))
    (hnamed : t.matcher.WellNamed) : token.MatchedBy s.source t m := by
  have hmatch : token.match? = some m := by rw [Token.match?, hw, Option.map_some]
  have htype : token.type? = some t := by rw [Token.type?, hw, Option.map_some]
  have hmatcher : token.matcher? = some t.matcher := by
    rw [Token.matcher?, htype, Option.map_some]
  have hgroup : ∀ i, token.group? i = (m.groupSpan i).bind (Text.slice s.source) := by
    intro i
    rw [Token.group?, hmatch, h.token_source]
    rfl
  have hname : ∀ name, token.named? name = (t.matcher.groupIndex? name).bind token.group? := by
    intro name
    rw [Token.named?, hmatcher]
    rfl
  have hspan : m.span = token.span := h.span_eq hw
  refine ⟨?_, htype, ?_, ?_, hmatcher, hmatch, hspan, hspan, ?_, fun i span hi => ?_,
    fun i hi => ?_, fun i => Match.groupSpan_of_le, hnamed.groupCount (h.matchAt_winner hw),
    fun i name hi => ⟨?_, fun j hj => hnamed.unique j i name hj hi⟩, fun name hnot => ?_⟩
  · rw [Token.isFallback, hw, Option.isNone_some]
  · rw [Token.tag?, htype, Option.map_some]
  · rw [Token.pattern?, htype, Option.map_some]
  · rw [hgroup, Match.groupSpan, hspan, Option.bind_some, h.slice_span hs]
  · obtain ⟨hstart, hle, hstop, text, htext⟩ := h.exists_slice hs hw hi
    exact ⟨hstart, hle, hstop, text, htext, by rw [hgroup, hi, Option.bind_some, htext]⟩
  · rw [hgroup, hi, Option.bind_none]
  · rw [hname, hnamed.groupIndex? hi, Option.bind_some]
  · rw [hname, Matcher.groupIndex?_eq_none_iff.2 hnot, Option.bind_none]

end Session

namespace Tokenizer

variable {config : Config} {defs : List (Definition τ)} {t : Tokenizer τ}

theorem wellNamed_of_mem_types (ht : build config defs = .ok t)
    (hdefs : ∀ d ∈ defs, d.pattern.IsGenuine) {type : TokenType τ} (htype : type ∈ t.types) :
    type.matcher.WellNamed := by
  obtain ⟨i, hi⟩ := List.mem_iff_getElem?.1 htype
  obtain ⟨-, hdef, hmatcher⟩ := of_build ht hi
  exact Matcher.wellNamed (hdefs _ (List.mem_of_getElem? hdef)) hmatcher

/-- A token of a source tells nothing but its text, or all of the match that won at its place. What
is kept of it without the source says the same, also if the tag is one of an optional kind and is
absent. -/
theorem coherent_of_mem_scan (ht : build config defs = .ok t)
    (hdefs : ∀ d ∈ defs, d.pattern.IsGenuine) {source : List Char} {token : Token τ}
    (htoken : token ∈ t.scan source) :
    (token.Unmatched ∨ ∃ type ∈ t.types, ∃ m, token.MatchedBy source type m) ∧
      token.toOwned.Keeps token := by
  obtain ⟨s, after, hs, htypes, hsource, hreads⟩ :=
    (Session.sound_session t source).exists_reads htoken
  replace hsource : s.source = source := hsource
  refine ⟨?_, token.toOwned_keeps⟩
  cases hw : token.winner with
  | none => exact .inl (Token.unmatched_of_winner hw)
  | some w =>
    obtain ⟨type, m⟩ := w
    have htype : type ∈ t.types := by
      have hwinner := hreads.winner
      rw [hw, eq_comm] at hwinner
      obtain ⟨i, hi, -⟩ := Session.exists_position_of_winnerAt hwinner
      rw [htypes] at hi
      exact List.mem_of_getElem? hi
    refine .inr ⟨type, htype, m, ?_⟩
    rw [← hsource]
    exact hreads.matchedBy hs hw (wellNamed_of_mem_types ht hdefs htype)

/-- Definitions with tags that may be absent; the tag of the first one is. -/
def optionalTags : List (Definition (Option Nat)) :=
  [⟨none, .regex "(?P<first>é)((?<last>b)|c)*" .empty⟩, ⟨some 1, .literal "c"⟩]

/-- The token `écbc` has an absent tag and is not a fallback. The group `last` took no part in the
last round and keeps what it read in the one before. -/
theorem coherent_of_optionalTags :
    ∃ (t : Tokenizer (Option Nat)) (token : Token (Option Nat)),
      build {} optionalTags = .ok t ∧ (∀ d ∈ optionalTags, d.pattern.IsGenuine) ∧
      (t.scan "xécbc".toList)[1]? = some token ∧ token.tag? = some none ∧
      token.named? "last" = some ['b'] ∧ token.group? 3 = some ['b'] ∧
      (∃ type ∈ t.types, ∃ m, token.MatchedBy "xécbc".toList type m) ∧
      token.toOwned.isFallback = false ∧ token.toOwned.Keeps token := by
  let t : Tokenizer (Option Nat) := (build {} optionalTags).toOption.getD default
  let token : Token (Option Nat) := ((t.scan "xécbc".toList)[1]?).getD default
  have ht : build {} optionalTags = .ok t := by decide +kernel
  have hdefs : ∀ d ∈ optionalTags, d.pattern.IsGenuine := by
    intro d hd
    rcases List.mem_cons.1 hd with rfl | hd
    · trivial
    · cases List.mem_singleton.1 hd
      trivial
  have htoken : (t.scan "xécbc".toList)[1]? = some token := by decide +kernel
  have hfallback : token.isFallback = false := by decide +kernel
  obtain ⟨hmatch, hkeeps⟩ := coherent_of_mem_scan ht hdefs (List.mem_of_getElem? htoken)
  have hmatched := hmatch.resolve_left fun h => by simp [h.isFallback] at hfallback
  exact ⟨t, token, ht, hdefs, htoken, by decide +kernel, by decide +kernel, by decide +kernel,
    hmatched, hkeeps.isFallback.trans hfallback, hkeeps⟩

end Tokenizer

end Munch
