import Mathlib.Data.List.MinMax
import Munch.Proofs.Session.Cache

/-!
# Steps of a session

What one step does, said once: a session that is `Sound` either stands at the end of its source, or
takes the text of the next token off what is left (`Reads`) and is `Sound` again. The token is a
match of the winner of the place (`winnerAt`), or the next character if there is none. All laws on
runs follow from these.

* `step_eq_none_iff`, `Sound.step_cases`, `Sound.step_reads`: one step.
* `Sound.run_reads`, `Sound.exists_reads`, `Sound.rest_run_eq_nil`: several steps.
-/

namespace Munch.Session

variable {τ : Type}

/-! ## The winner of a place -/

/-- The types with a match that begins right at a place and is not empty, with these matches. -/
def candidates (types : List (TokenType τ)) (p : Cursor) : List (TokenType τ × Match) :=
  types.filterMap fun t => ((t.matcher.matchAt p).filter (0 < ·.length)).map (t, ·)

/-- The longest of these matches, the first among equals. -/
def winnerAt (types : List (TokenType τ)) (p : Cursor) : Option (TokenType τ × Match) :=
  (candidates types p).argmax (·.2.length)

/-- The winner is a type with a match that begins here and is not empty. -/
theorem of_winnerAt {types : List (TokenType τ)} {p : Cursor} {t : TokenType τ} {m : Match}
    (h : winnerAt types p = some (t, m)) :
    t ∈ types ∧ t.matcher.matchAt p = some m ∧ 0 < m.length := by
  obtain ⟨t', ht', heq⟩ := List.mem_filterMap.1 (List.argmax_mem h)
  obtain ⟨m', hm', heq⟩ := Option.map_eq_some_iff.1 heq
  obtain ⟨hat, hlen⟩ := Option.filter_eq_some_iff.1 hm'
  cases heq
  exact ⟨ht', hat, by simpa using hlen⟩

theorem winnerAt_cons (t : TokenType τ) (ts : List (TokenType τ)) (p : Cursor) :
    winnerAt (t :: ts) p =
      match (t.matcher.matchAt p).filter (0 < ·.length) with
      | none => winnerAt ts p
      | some m => some (match winnerAt ts p with
        | none => (t, m)
        | some w => if m.length < w.2.length then w else (t, m)) := by
  rw [winnerAt, candidates]
  cases h : (t.matcher.matchAt p).filter (0 < ·.length) with
  | none =>
    rw [List.filterMap_cons_none (by rw [h]; rfl)]
    rfl
  | some m =>
    rw [List.filterMap_cons_some (by rw [h]; rfl), List.argmax_cons, ← candidates, ← winnerAt]
    cases winnerAt ts p with
    | none => rfl
    | some w =>
      dsimp only
      split <;> rfl

theorem winnerAt_cons_of_none {t : TokenType τ} {ts : List (TokenType τ)} {p : Cursor}
    (h : t.matcher.matchAt p = none) : winnerAt (t :: ts) p = winnerAt ts p := by
  rw [winnerAt_cons, h]
  rfl

/-- A type wins over those behind it if none of them has a longer match. -/
theorem winnerAt_cons_of_le {t : TokenType τ} {ts : List (TokenType τ)} {p : Cursor} {m : Match}
    (h : t.matcher.matchAt p = some m) (hpos : 0 < m.length)
    (hle : ∀ t' ∈ ts, ∀ m', t'.matcher.matchAt p = some m' → m'.length ≤ m.length) :
    winnerAt (t :: ts) p = some (t, m) := by
  rw [winnerAt_cons, h, Option.filter_some, if_pos (by simpa using hpos)]
  dsimp only
  cases hw : winnerAt ts p with
  | none => rfl
  | some w =>
    obtain ⟨ht, hat, -⟩ := of_winnerAt hw
    have := hle w.1 ht w.2 hat
    dsimp only
    rw [if_neg (by omega)]

theorem longest_map_snd_filter (types : List (TokenType τ)) (p : Cursor) (best : Nat) :
    (longest p.offset best types (freshCache types p)).map (·.2) =
      (winnerAt types p).filter (best < ·.2.length) := by
  induction types generalizing best with
  | nil => rfl
  | cons t ts ih =>
    rw [longest_cons, winnerAt_cons]
    cases hm : t.matcher.matchAt p with
    | none => simpa [Option.map_map, Function.comp_def] using ih best
    | some m =>
      by_cases hb : best < m.length
      · have h0 : 0 < m.length := by omega
        have ih := ih m.length
        simp only [Option.filter_some, hb, h0, decide_true, if_true, Option.map_some]
        cases hl : longest p.offset m.length ts (freshCache ts p) with
        | none =>
          rw [hl, Option.map_none, eq_comm, Option.filter_eq_none_iff] at ih
          cases hw : winnerAt ts p with
          | none => simp [hb]
          | some w =>
            have hle := ih w hw
            simp only [decide_eq_true_eq, Nat.not_lt] at hle
            simp [hb, Nat.not_lt.2 hle]
        | some w =>
          rw [hl, Option.map_some, eq_comm, Option.filter_eq_some_iff] at ih
          obtain ⟨hw, hlt⟩ := ih
          simp only [decide_eq_true_eq] at hlt
          have : best < w.2.2.length := by omega
          simp [hw, hlt, this]
      · have ih := ih best
        simp only [Option.filter_some, hb, decide_false, Bool.false_eq_true, if_false,
          Option.map_map, Function.comp_def, ih]
        by_cases h0 : 0 < m.length
        · simp only [h0, decide_true, if_true]
          cases hw : winnerAt ts p with
          | none => simp [hb, Option.filter_some]
          | some w =>
            dsimp only
            split
            · rfl
            · have : ¬ best < w.2.length := by omega
              simp [hb, this, Option.filter_some]
        · simp [h0]

/-- The session gives the winner of a place, with its position. -/
theorem longest_map_snd (types : List (TokenType τ)) (p : Cursor) :
    (longest p.offset 0 types (freshCache types p)).map (·.2) = winnerAt types p := by
  rw [longest_map_snd_filter]
  cases hw : winnerAt types p with
  | none => rfl
  | some w => simp [Option.filter_some, (of_winnerAt hw).2.2]

/-- The winner has a position: no other match that begins here is longer, and none of an earlier
type is as long. -/
theorem exists_position_of_winnerAt {types : List (TokenType τ)} {p : Cursor} {t : TokenType τ}
    {m : Match} (h : winnerAt types p = some (t, m)) :
    ∃ i, types[i]? = some t ∧ t.matcher.matchAt p = some m ∧ 0 < m.length ∧
      ∀ j x, matchAt? types p j = some x →
        x.length ≤ m.length ∧ (j < i → x.length < m.length) := by
  rw [← longest_map_snd, Option.map_eq_some_iff] at h
  obtain ⟨⟨i, w⟩, hl, rfl⟩ := h
  exact ⟨i, longest_eq_some hl⟩

/-- Without a winner all matches that begin here are empty. -/
theorem winnerAt_eq_none_iff {types : List (TokenType τ)} {p : Cursor} :
    winnerAt types p = none ↔ ∀ j x, matchAt? types p j = some x → x.length = 0 := by
  constructor
  · intro h j x hx
    rw [← longest_map_snd, Option.map_eq_none_iff] at h
    exact Nat.le_zero.1 (longest_eq_none h j x hx)
  · intro h
    rw [Option.eq_none_iff_forall_ne_some]
    rintro ⟨t, m⟩ hw
    obtain ⟨i, ht, hat, hlen, -⟩ := exists_position_of_winnerAt hw
    have := h i m (by rw [matchAt?, ht]; exact hat)
    omega

section Longest

variable {types : List (TokenType τ)} {p : Cursor} {t : TokenType τ} {m : Match}

/-- A winner is at least as long as each match. -/
theorem length_le_of_winnerAt {w : TokenType τ × Match} (h : winnerAt types p = some w)
    (ht : t ∈ types) (hm : t.matcher.matchAt p = some m) : m.length ≤ w.2.length := by
  obtain ⟨i, -, -, -, hmax⟩ := exists_position_of_winnerAt h
  obtain ⟨j, hj⟩ := List.mem_iff_getElem?.1 ht
  exact (hmax j m (by rw [matchAt?, hj]; exact hm)).1

/-- There is a winner as soon as there is a match that is not empty. -/
theorem exists_winnerAt (ht : t ∈ types) (hm : t.matcher.matchAt p = some m)
    (hpos : 0 < m.length) : ∃ w, winnerAt types p = some w := by
  rw [← Option.isSome_iff_exists, Option.isSome_iff_ne_none]
  intro hnone
  obtain ⟨j, hj⟩ := List.mem_iff_getElem?.1 ht
  have := winnerAt_eq_none_iff.1 hnone j m (by rw [matchAt?, hj]; exact hm)
  omega

/-- A match wins that no other match exceeds and no match of an earlier type equals. -/
theorem winnerAt_of_position {i : Nat} (ht : types[i]? = some t) (hm : t.matcher.matchAt p = some m)
    (hpos : 0 < m.length) (hmax : ∀ j x, matchAt? types p j = some x →
      x.length ≤ m.length ∧ (j < i → x.length < m.length)) :
    winnerAt types p = some (t, m) := by
  obtain ⟨⟨t', m'⟩, hw⟩ := exists_winnerAt (List.mem_of_getElem? ht) hm hpos
  obtain ⟨i', ht', hm', -, hmax'⟩ := exists_position_of_winnerAt hw
  have hle := hmax i' m' (by rw [matchAt?, ht']; exact hm')
  have hle' := hmax' i m (by rw [matchAt?, ht]; exact hm)
  -- Neither of the two positions is in front of the other.
  obtain rfl : i = i' := by omega
  rw [ht, Option.some.injEq] at ht'
  subst ht'
  rw [hm, Option.some.injEq] at hm'
  rw [hw, hm']

/-- A match that is longer than those of all other types wins. -/
theorem winnerAt_of_lt (ht : t ∈ types) (hm : t.matcher.matchAt p = some m) (hpos : 0 < m.length)
    (hlt : ∀ t' ∈ types, t' ≠ t → ∀ m', t'.matcher.matchAt p = some m' → m'.length < m.length) :
    winnerAt types p = some (t, m) := by
  obtain ⟨⟨t', m'⟩, hw⟩ := exists_winnerAt ht hm hpos
  obtain ⟨ht', hm', -⟩ := of_winnerAt hw
  have hle : m.length ≤ m'.length := length_le_of_winnerAt hw ht hm
  by_cases heq : t' = t
  · subst heq
    rw [hm, Option.some.injEq] at hm'
    rw [hw, hm']
  · have := hlt t' ht' heq m' hm'
    omega

end Longest

/-- If other types have the same matches at another place, up to what they are called and where they
stand, then so has the winner. -/
theorem winnerAt_map {σ : Type} {types : List (TokenType τ)} {p p' : Cursor}
    (f : TokenType τ → TokenType σ) (g : Match → Match)
    (hmatch : ∀ t ∈ types, (f t).matcher.matchAt p' = (t.matcher.matchAt p).map g)
    (hlength : ∀ m, (g m).length = m.length) :
    winnerAt (types.map f) p' = (winnerAt types p).map (Prod.map f g) := by
  induction types with
  | nil => rfl
  | cons t ts ih =>
    have ih := ih fun t' ht' => hmatch t' (List.mem_cons_of_mem t ht')
    rw [List.map_cons, winnerAt_cons, winnerAt_cons, hmatch t List.mem_cons_self, ih]
    cases hm : t.matcher.matchAt p with
    | none => rfl
    | some m =>
      by_cases hpos : 0 < m.length
      · cases hw : winnerAt ts p with
        | none => simp [hlength, hpos, Option.filter_some]
        | some w =>
          by_cases hlt : m.length < w.2.length <;> simp [hlength, hpos, hlt, Option.filter_some]
      · simp [hlength, hpos, Option.filter_some]

/-! ## One step -/

/-- What holds of a session between two steps. -/
structure Sound (s : Session τ) : Prop where
  /-- The session has come to a place of its source. -/
  cursor : (Cursor.ofText s.source).Precedes s.cursor
  /-- What it keeps is of searches that it has made. -/
  cache : List.Forall₂ (fun t c => c.Remembers t.matcher s.cursor) s.types s.cache

/-- What one step does: `token` is taken off the text that is left to `s`, which leaves `after`. -/
structure Reads (s : Session τ) (token : Token τ) (after : Session τ) : Prop where
  rest : s.cursor.rest = token.text ++ after.cursor.rest
  cursor : after.cursor = s.cursor.past token.text after.cursor.rest
  types : after.types = s.types
  source : after.source = s.source
  tracker : after.tracker = s.tracker.map (·.advance token.text)
  text_ne_nil : token.text ≠ []
  winner : token.winner = winnerAt s.types s.cursor
  index : token.index = s.offset
  length : token.length = Text.byteLength token.text
  location : token.location = s.location
  token_source : token.source = s.source
  /-- A match is taken as a whole. -/
  span : ∀ t m, token.winner = some (t, m) → m.span = ⟨s.offset, s.offset + token.length⟩
  /-- Without a match one character is taken. -/
  single : token.winner = none → ∃ c, token.text = [c]

theorem sound_session (t : Tokenizer τ) (source : List Char) : (t.session source).Sound where
  cursor := .refl _
  cache := by
    rw [Tokenizer.session, List.forall₂_iff_get]
    refine ⟨by simp, fun i h₁ h₂ => ?_⟩
    simp [Cached.Remembers]

theorem step_eq_none_iff {s : Session τ} : s.step = none ↔ s.cursor.rest = [] := by
  rw [step]
  split
  · simp_all
  · dsimp only
    split <;> simp_all

/-- Taking the text up to a later place. -/
theorem take_eq {s : Session τ} {winner : Option (TokenType τ × Match)} {cache : List Cached}
    {text rest : List Char} (h : s.cursor.rest = text ++ rest) :
    s.take winner cache (s.offset + Text.byteLength text) =
      ({ winner, index := s.offset, text, length := Text.byteLength text, location := s.location,
         source := s.source },
        { s with
          cursor := s.cursor.past text rest, cache,
          tracker := s.tracker.map (·.advance text) }) := by
  rw [take, offset, Cursor.readTo_past h]

/-- Taking a text that is not empty is a step, if the winner says so. -/
theorem Sound.take_reads {s : Session τ} (hs : s.Sound) {text rest : List Char}
    (h : s.cursor.rest = text ++ rest) (htext : text ≠ [])
    {winner : Option (TokenType τ × Match)} (hwinner : winner = winnerAt s.types s.cursor)
    (hspan : ∀ t m, winner = some (t, m) → m.span = ⟨s.offset, s.offset + Text.byteLength text⟩)
    (hsingle : winner = none → ∃ c, text = [c]) {cache : List Cached}
    (hcache : List.Forall₂ (fun t c => c.Remembers t.matcher s.cursor) s.types cache) :
    s.Reads (s.take winner cache (s.offset + Text.byteLength text)).1
        (s.take winner cache (s.offset + Text.byteLength text)).2 ∧
      (s.take winner cache (s.offset + Text.byteLength text)).2.Sound := by
  rw [take_eq h]
  have hle := Cursor.Precedes.of_rest h
  exact ⟨⟨h, rfl, rfl, rfl, rfl, htext, hwinner, rfl, rfl, rfl, rfl, hspan, hsingle⟩,
    hs.cursor.trans hle, hcache.imp fun _ _ hc => hc.of_precedes hle⟩

/-- What a step can do. It brings what is known of all types up to the place, and then takes the
match of the winner, which is not known any more after that, or the next character if there is
none. -/
theorem Sound.step_cases {s after : Session τ} {token : Token τ} {events : List Event}
    (hs : s.Sound) (h : s.step = some (token, events, after)) :
    (∃ i t m, s.types[i]? = some t ∧ t.matcher.matchAt s.cursor = some m ∧ 0 < m.length ∧
      winnerAt s.types s.cursor = some (t, m) ∧
      s.take (some (t, m)) ((freshCache s.types s.cursor).set i .stale) m.span.stop =
        (token, after) ∧
      events = (refresh s.cursor s.types s.cache).2 ++ [.matched t.index s.offset token.text]) ∨
    (∃ c cs, s.cursor.rest = c :: cs ∧ winnerAt s.types s.cursor = none ∧
      s.take none (freshCache s.types s.cursor) (s.offset + c.utf8Size) = (token, after) ∧
      events = (refresh s.cursor s.types s.cache).2 ++ [.unmatched s.offset c]) := by
  rw [step] at h
  split at h
  · cases h
  next c cs hr =>
    have hcache := refresh_fst hs.cache
    generalize refresh s.cursor s.types s.cache = r at h hcache
    obtain ⟨cache, searches⟩ := r
    dsimp only at h hcache
    subst hcache
    have hwinner := longest_map_snd s.types s.cursor
    cases hl : longest s.offset 0 s.types (freshCache s.types s.cursor) with
    | none =>
      rw [hl] at h
      rw [show longest s.cursor.offset _ _ _ = _ from hl] at hwinner
      simp only [Option.some.injEq, Prod.mk.injEq] at h
      obtain ⟨rfl, rfl, rfl⟩ := h
      exact .inr ⟨c, cs, hr, hwinner.symm, rfl, rfl⟩
    | some w =>
      obtain ⟨i, t, m⟩ := w
      rw [hl] at h
      rw [show longest s.cursor.offset _ _ _ = _ from hl] at hwinner
      obtain ⟨ht, hat, hlen, -⟩ := longest_eq_some hl
      simp only [Option.some.injEq, Prod.mk.injEq] at h
      obtain ⟨rfl, rfl, rfl⟩ := h
      exact .inl ⟨i, t, m, ht, hat, hlen, hwinner.symm, rfl, rfl⟩

theorem Sound.step_reads {s after : Session τ} {token : Token τ} {events : List Event}
    (hs : s.Sound) (h : s.step = some (token, events, after)) :
    s.Reads token after ∧ after.Sound := by
  have hfresh := freshCache_remembers s.types s.cursor
  obtain ⟨i, t, m, -, hat, hlen, hwinner, htake, -⟩ | ⟨c, cs, hr, hwinner, htake, -⟩ :=
    hs.step_cases h
  · obtain ⟨q, ⟨text, hrest, hq⟩, hstop⟩ := Matcher.stop_of_matchAt hat
    have hspan : m.span = ⟨s.offset, s.offset + Text.byteLength text⟩ := by
      have hstart : m.span.start = s.offset := Matcher.start_of_matchAt hat
      rw [hq, Cursor.past_offset] at hstop
      exact congrArg₂ Span.mk hstart hstop.symm
    have htext : text ≠ [] := by
      rintro rfl
      simp [Match.length, Span.length, hspan] at hlen
    have hspans : ∀ t' m', some (t, m) = some (t', m') →
        m'.span = ⟨s.offset, s.offset + Text.byteLength text⟩ := by
      intro t' m' heq
      cases heq
      exact hspan
    have hreads := hs.take_reads hrest htext hwinner.symm hspans (by simp)
      (set_stale_remembers hfresh i)
    rw [hspan] at htake
    rwa [htake] at hreads
  · have hc : s.offset + c.utf8Size = s.offset + Text.byteLength [c] := by simp
    have hreads := hs.take_reads (show s.cursor.rest = [c] ++ cs from hr) (by simp) hwinner.symm
      (by simp) (fun _ => ⟨c, rfl⟩) hfresh
    rwa [← hc, htake] at hreads

/-- A step makes its token of the text that it takes. -/
theorem Reads.token_eq {s after : Session τ} {token : Token τ} (h : s.Reads token after) :
    token = ⟨winnerAt s.types s.cursor, s.offset, token.text, Text.byteLength token.text,
      s.location, s.source⟩ := by
  rw [← h.winner, ← h.index, ← h.length, ← h.location, ← h.token_source]

/-- A step takes at least one character. -/
theorem Reads.exists_rest_eq_cons {s after : Session τ} {token : Token τ}
    (h : s.Reads token after) : ∃ c cs, s.cursor.rest = c :: cs := by
  obtain ⟨c, cs, hc⟩ := List.exists_cons_of_ne_nil h.text_ne_nil
  exact ⟨c, cs ++ after.cursor.rest, by rw [h.rest, hc, List.cons_append]⟩

/-- The match of a winner is as long as its token. -/
theorem Reads.length_match {s after : Session τ} {token : Token τ} (h : s.Reads token after)
    {type : TokenType τ} {m : Match} (hw : token.winner = some (type, m)) :
    m.length = token.length := by
  rw [Match.length, Span.length, h.span type m hw]
  exact Nat.add_sub_cancel_left _ _

/-- A step takes what the winner matches. -/
theorem Reads.text_eq {s after : Session τ} {token : Token τ} (h : s.Reads token after)
    {type : TokenType τ} {m : Match} (hw : winnerAt s.types s.cursor = some (type, m))
    {text rest : List Char} (hrest : s.cursor.rest = text ++ rest)
    (hm : m.span = ⟨s.cursor.offset, s.cursor.offset + Text.byteLength text⟩) :
    token.text = text ∧ after.cursor.rest = rest := by
  have hspan := h.span type m (h.winner.trans hw)
  have hlen : s.cursor.offset + Text.byteLength text = s.offset + token.length := by
    rw [hm] at hspan
    exact congrArg Span.stop hspan
  rw [offset, h.length] at hlen
  have happend := h.rest.symm.trans hrest
  have htext : token.text = text := Text.eq_of_append_eq happend (by omega)
  rw [htext] at happend
  exact ⟨htext, List.append_cancel_left happend⟩

/-! ## Several steps -/

theorem run_succ_of_none {s : Session τ} (h : s.step = none) (n : Nat) :
    s.run (n + 1) = ([], [], s) := by rw [run, h]

theorem run_succ_of_some {s after : Session τ} {token : Token τ} {events : List Event}
    (h : s.step = some (token, events, after)) (n : Nat) :
    s.run (n + 1) = (token :: (after.run n).1, events ++ (after.run n).2.1, (after.run n).2.2) := by
  rw [run, h]

/-- What several steps do: the texts of the tokens are taken off the text that is left. -/
structure ReadsAll (s : Session τ) (tokens : List (Token τ)) (after : Session τ) : Prop where
  sound : after.Sound
  types : after.types = s.types
  source : after.source = s.source
  rest : s.cursor.rest = tokens.flatMap (·.text) ++ after.cursor.rest
  length_rest : after.cursor.rest.length + tokens.length ≤ s.cursor.rest.length

theorem Sound.run_reads {s : Session τ} (hs : s.Sound) (n : Nat) :
    s.ReadsAll (s.run n).1 (s.run n).2.2 := by
  induction n generalizing s with
  | zero => exact ⟨hs, rfl, rfl, rfl, Nat.le_refl _⟩
  | succ n ih =>
    cases hstep : s.step with
    | none =>
      rw [run_succ_of_none hstep]
      exact ⟨hs, rfl, rfl, rfl, Nat.le_refl _⟩
    | some r =>
      obtain ⟨token, events, after⟩ := r
      obtain ⟨hreads, hafter⟩ := hs.step_reads hstep
      obtain ⟨hsound, htypes, hsource, hrest, hlength⟩ := ih hafter
      rw [run_succ_of_some hstep]
      have htext := List.length_pos_iff.2 hreads.text_ne_nil
      have hlen := congrArg List.length hreads.rest
      rw [List.length_append] at hlen
      refine ⟨hsound, htypes.trans hreads.types, hsource.trans hreads.source, ?_, ?_⟩
      · rw [hreads.rest, hrest, List.flatMap_cons, List.append_assoc]
      · simp only [List.length_cons]
        omega

/-- Each token of several steps is read by one of them. -/
theorem Sound.exists_reads {s : Session τ} (hs : s.Sound) {n : Nat} {token : Token τ}
    (h : token ∈ (s.run n).1) :
    ∃ before after : Session τ, before.Sound ∧ before.types = s.types ∧
      before.source = s.source ∧ before.Reads token after := by
  induction n generalizing s with
  | zero => cases h
  | succ n ih =>
    cases hstep : s.step with
    | none =>
      rw [run_succ_of_none hstep] at h
      cases h
    | some r =>
      obtain ⟨first, events, after⟩ := r
      obtain ⟨hreads, hafter⟩ := hs.step_reads hstep
      rw [run_succ_of_some hstep] at h
      rcases List.mem_cons.1 h with rfl | h
      · exact ⟨s, after, hs, rfl, rfl, hreads⟩
      · obtain ⟨before, last, hsound, htypes, hsource, hlast⟩ := ih hafter h
        exact ⟨before, last, hsound, htypes.trans hreads.types, hsource.trans hreads.source, hlast⟩

/-- As many steps as there are characters left lead to the end of the source. -/
theorem Sound.rest_run_eq_nil {s : Session τ} (hs : s.Sound) {n : Nat}
    (hn : s.cursor.rest.length ≤ n) : (s.run n).2.2.cursor.rest = [] := by
  induction n generalizing s with
  | zero => exact List.eq_nil_of_length_eq_zero (Nat.le_zero.1 hn)
  | succ n ih =>
    cases hstep : s.step with
    | none =>
      rw [run_succ_of_none hstep]
      exact step_eq_none_iff.1 hstep
    | some r =>
      obtain ⟨token, events, after⟩ := r
      obtain ⟨hreads, hafter⟩ := hs.step_reads hstep
      rw [run_succ_of_some hstep]
      have htext := List.length_pos_iff.2 hreads.text_ne_nil
      have hlen := congrArg List.length hreads.rest
      rw [List.length_append] at hlen
      exact ih hafter (by omega)

end Munch.Session
