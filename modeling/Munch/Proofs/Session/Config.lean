import Mathlib.Data.List.Forall2
import Munch.Proofs.Regex.Parses
import Munch.Proofs.Session.Tokens
import Munch.Proofs.Tokenizer.Build

/-!
# What a configuration changes

The limits of a configuration decide whether a pattern compiles, and not what it compiles to; so
definitions make the same types under all configurations that let them make any. A session that does
not count lines and columns reads what one reads that counts them.

* `Regex.compile_agree`, `Tokenizer.types_eq_of_build`: patterns and definitions under two
  configurations.
* `Session.Reads.sameReading`, `Session.Sound.tokens_sameReading`: one step and all steps of two
  sessions that count differently.
* `Session.Sound.location_of_uncounted`: the tokens of a session that does not count.
* `Tokenizer.scan_config`: the tokens under two configurations.
-/

namespace Munch

variable {τ : Type}

/-! ## What is compiled -/

/-- The limits do not change what a pattern compiles to. -/
theorem Regex.compile_agree (limits limits' : Limits) (mode : Mode) (source : String) :
    (compile limits mode source).Agree (compile limits' mode source) := by
  intro r r' hr hr'
  obtain ⟨tree, e, after, htree, he, rfl⟩ := exists_tree_of_compile hr
  obtain ⟨tree', e', after', htree', he', rfl⟩ := exists_tree_of_compile hr'
  cases htree.symm.trans htree'
  cases he.symm.trans he'
  rfl

theorem Pattern.matcher_agree (config config' : Config) (pattern : Pattern) :
    (pattern.matcher config).Agree (pattern.matcher config') := by
  cases pattern with
  | literal text => exact .refl _
  | compiled r => exact .refl _
  | regex source flags =>
    intro m m' hm hm'
    obtain ⟨r, hr, rfl⟩ := Except.map_eq_ok_iff.1 hm
    obtain ⟨r', hr', rfl⟩ := Except.map_eq_ok_iff.1 hm'
    rw [Regex.compile_agree _ _ _ _ r r' hr hr']

/-- Definitions that make types under two configurations make the same types. -/
theorem Tokenizer.types_eq_of_build {config config' : Config} {defs : List (Definition τ)}
    {t t' : Tokenizer τ} (ht : build config defs = .ok t) (ht' : build config' defs = .ok t') :
    t.types = t'.types := by
  refine List.ext_getElem? fun k => ?_
  cases hd : defs[k]? with
  | none =>
    rw [List.getElem?_eq_none_iff] at hd
    rw [List.getElem?_eq_none (by rwa [length_types_of_build ht]),
      List.getElem?_eq_none (by rwa [length_types_of_build ht'])]
  | some d =>
    obtain ⟨m, hm, htype⟩ := exists_type_of_build ht hd
    obtain ⟨m', hm', htype'⟩ := exists_type_of_build ht' hd
    rw [htype, htype', d.pattern.matcher_agree config config' m m' hm hm']

/-! ## Steps and runs -/

/-- Two tokens that are the same but for their lines and columns: type and match that won, place,
text and source. -/
structure Token.SameReading (a b : Token τ) : Prop where
  winner : a.winner = b.winner
  index : a.index = b.index
  text : a.text = b.text
  length : a.length = b.length
  offset : a.location.offset = b.location.offset
  source : a.source = b.source

namespace Session

/-- Two sessions with the same types at the same place of the same source, which may count lines and
columns in different ways. -/
structure SameButTracker (s s' : Session τ) : Prop where
  types : s.types = s'.types
  source : s.source = s'.source
  cursor : s.cursor = s'.cursor

variable {s s' after after' : Session τ} {token token' : Token τ}

theorem location_offset (s : Session τ) : s.location.offset = s.offset := by
  rw [location]
  cases s.tracker <;> rfl

/-- Counting takes no part in a step. -/
theorem Reads.sameReading (h : s.Reads token after) (h' : s'.Reads token' after')
    (hs : s.SameButTracker s') : token.SameReading token' ∧ after.SameButTracker after' := by
  have hwinner : token.winner = token'.winner := by
    rw [h.winner, h'.winner, hs.types, hs.cursor]
  obtain ⟨hindex, htext, hlength, hcursor⟩ := h.piece_eq_of_length h' hs.cursor
    (congrArg (Option.map (·.2.length)) hwinner)
  refine ⟨⟨hwinner, hindex, htext, hlength, ?_, ?_⟩, ?_, ?_, hcursor⟩
  · rw [h.location, h'.location, location_offset, location_offset, ← h.index, ← h'.index, hindex]
  · rw [h.token_source, h'.token_source, hs.source]
  · rw [h.types, h'.types, hs.types]
  · rw [h.source, h'.source, hs.source]

theorem Sound.tokens_sameReading (hs : s.Sound) (hs' : s'.Sound) (h : s.SameButTracker s') :
    List.Forall₂ Token.SameReading s.tokens s'.tokens :=
  hs.tokens_forall₂ (fun hsame => congrArg Cursor.rest hsame.cursor)
    (fun _ _ hsame hreads hreads' _ => hreads.sameReading hreads' hsame) hs' h

/-- A session that does not count never begins to. -/
theorem Sound.location_of_uncounted (hs : s.Sound) (h : s.tracker = none)
    (htoken : token ∈ s.tokens) : token.location = ⟨0, 0, token.index⟩ := by
  obtain ⟨n, hn⟩ := List.mem_iff_getElem?.1 htoken
  have hreads := hs.reads_of_getElem? hn
  rw [hreads.location, hreads.index, location, hs.tracker_run, h]
  rfl

end Session

namespace Tokenizer

/-- Two configurations under which definitions make a tokenizer give the same tokens but for their
lines and columns. These are the same as well if both configurations count them, or neither does;
and they are 0 if they are not counted. -/
theorem scan_config {config config' : Config} {defs : List (Definition τ)} {t t' : Tokenizer τ}
    (ht : build config defs = .ok t) (ht' : build config' defs = .ok t') (source : List Char) :
    List.Forall₂ Token.SameReading (t.scan source) (t'.scan source) ∧
    (config.trackLocations = config'.trackLocations → t.scan source = t'.scan source) ∧
    (config.trackLocations = false → ∀ token ∈ t.scan source,
      token.location.line = 0 ∧ token.location.column = 0) := by
  have htypes := types_eq_of_build ht ht'
  obtain ⟨-, hconfig⟩ := build_eq_ok_iff.1 ht
  obtain ⟨-, hconfig'⟩ := build_eq_ok_iff.1 ht'
  have hs := Session.sound_session t source
  refine ⟨hs.tokens_sameReading (Session.sound_session t' source) ⟨htypes, rfl, rfl⟩,
    fun htrack => ?_, fun htrack token htoken => ?_⟩
  · rw [scan, scan, session, session, hconfig, hconfig', htypes, htrack]
  · have htracker : (t.session source).tracker = none := by
      rw [session, hconfig, htrack]
      rfl
    rw [hs.location_of_uncounted htracker htoken]
    exact ⟨rfl, rfl⟩

/-- Narrow limits, without counting and with it, beside the usual configuration, on a text of two
lines with a character that no type matches. -/
theorem scan_config_narrow :
    let defs : List (Definition Nat) := [⟨0, .regex "\\s(b+)" .empty⟩, ⟨1, .literal "a"⟩]
    let uncounted : Config := ⟨some 5000, some 1, some 3, false⟩
    let counted : Config := ⟨some 5000, some 1, some 3, true⟩
    ∃ t t' t₀ : Tokenizer Nat, build uncounted defs = .ok t ∧ build counted defs = .ok t' ∧
      build {} defs = .ok t₀ ∧
      List.Forall₂ Token.SameReading (t.scan "a\nbb?".toList) (t₀.scan "a\nbb?".toList) ∧
      counted.trackLocations = ({} : Config).trackLocations ∧
      t'.scan "a\nbb?".toList = t₀.scan "a\nbb?".toList ∧
      (t₀.scan "a\nbb?".toList).map (fun token => (token.tag?, token.group? 1)) =
        [(some 1, none), (some 0, some ['b', 'b']), (none, none)] ∧
      (t₀.scan "a\nbb?".toList).map (·.location) = [⟨1, 1, 0⟩, ⟨1, 2, 1⟩, ⟨2, 3, 4⟩] ∧
      uncounted.trackLocations = false ∧
      ∀ token ∈ t.scan "a\nbb?".toList, token.location.line = 0 ∧ token.location.column = 0 := by
  intro defs uncounted counted
  let t : Tokenizer Nat := (build uncounted defs).toOption.getD default
  let t' : Tokenizer Nat := (build counted defs).toOption.getD default
  let t₀ : Tokenizer Nat := (build {} defs).toOption.getD default
  have ht : build uncounted defs = .ok t := by decide +kernel
  have ht' : build counted defs = .ok t' := by decide +kernel
  have ht₀ : build {} defs = .ok t₀ := by decide +kernel
  obtain ⟨hsame, -, hzero⟩ := scan_config ht ht₀ "a\nbb?".toList
  obtain ⟨-, heq, -⟩ := scan_config ht' ht₀ "a\nbb?".toList
  exact ⟨t, t', t₀, ht, ht', ht₀, hsame, rfl, heq rfl, by decide +kernel, by decide +kernel, rfl,
    hzero rfl⟩

end Tokenizer

end Munch
