import Munch.Proofs.Session.Step

/-!
# A scanner that remembers nothing

The plain scanner asks every type at every place anew what it finds from there on, keeps what begins
right there, and cuts the token out of the source by its offsets. `scan_eq_plainScan`: sessions, for
all that they remember, give the same tokens.
-/

namespace Munch

variable {τ : Type}

/-- The match that a fresh search from byte `offset` of a source finds, if it begins right there. -/
def TokenType.anchored? (t : TokenType τ) (source : List Char) (offset : Nat) : Option Match :=
  (t.matcher.findAt source offset).filter (·.start = offset)

namespace Tokenizer

/-- The longest match right at an offset among those that are not empty, the first among equals. -/
def plainWinner (types : List (TokenType τ)) (source : List Char) (offset : Nat) :
    Option (TokenType τ × Match) :=
  (types.filterMap fun t =>
    ((t.anchored? source offset).filter (0 < ·.length)).map (t, ·)).argmax (·.2.length)

/-- At most `fuel` tokens from byte `offset` on. -/
def plainTokens (types : List (TokenType τ)) (source : List Char) :
    Nat → Nat → Option LineTracker → List (Token τ)
  | 0, _, _ => []
  | fuel + 1, offset, tracker =>
    match Text.dropBytes offset source with
    | some (c :: _) =>
      let winner := plainWinner types source offset
      let stop := match winner with
        | some (_, m) => m.span.stop
        | none => offset + c.utf8Size
      let text := (Text.slice source ⟨offset, stop⟩).getD []
      let location := (tracker.map (·.toLocation offset)).getD ⟨0, 0, offset⟩
      { winner, index := offset, text, length := stop - offset, location, source } ::
        plainTokens types source fuel stop (tracker.map (·.advance text))
    | _ => []

/-- The tokens of a source; there are no more of them than characters. -/
def plainScan (t : Tokenizer τ) (source : List Char) : List (Token τ) :=
  plainTokens t.types source source.length 0 (if t.config.trackLocations then some .start else none)

theorem length_plainTokens_le (types : List (TokenType τ)) (source : List Char)
    (fuel offset : Nat) (tracker : Option LineTracker) :
    (plainTokens types source fuel offset tracker).length ≤ fuel := by
  induction fuel generalizing offset tracker with
  | zero => exact Nat.le_refl 0
  | succ fuel ih =>
    rw [plainTokens]
    split
    · exact Nat.succ_le_succ (ih _ _)
    · exact Nat.zero_le _

theorem length_plainScan_le (t : Tokenizer τ) (source : List Char) :
    (t.plainScan source).length ≤ source.length :=
  length_plainTokens_le _ _ _ _ _

end Tokenizer

namespace Session

variable {s : Session τ}

theorem Sound.anchored?_eq (hs : s.Sound) (t : TokenType τ) :
    t.anchored? s.source s.offset = t.matcher.matchAt s.cursor := by
  rw [TokenType.anchored?, offset, Matcher.findAt_eq _ hs.cursor, Matcher.find_filter_start]

theorem Sound.plainWinner_eq (hs : s.Sound) :
    Tokenizer.plainWinner s.types s.source s.offset = winnerAt s.types s.cursor := by
  simp only [Tokenizer.plainWinner, hs.anchored?_eq]
  rfl

theorem location_eq (s : Session τ) :
    s.location = (s.tracker.map (·.toLocation s.offset)).getD ⟨0, 0, s.offset⟩ := by
  rw [location]
  cases s.tracker <;> rfl

/-- One step of the plain scanner is one step of a session. -/
theorem Reads.plainTokens_succ {after : Session τ} {token : Token τ} (h : s.Reads token after)
    (hs : s.Sound) (fuel : Nat) :
    Tokenizer.plainTokens s.types s.source (fuel + 1) s.offset s.tracker =
      token :: Tokenizer.plainTokens after.types after.source fuel after.offset after.tracker := by
  obtain ⟨c, cs, hr⟩ := h.exists_rest_eq_cons
  have hstop : (match Tokenizer.plainWinner s.types s.source s.offset with
      | some (_, m) => m.span.stop
      | none => s.offset + c.utf8Size) = s.offset + token.length := by
    rw [hs.plainWinner_eq, ← h.winner]
    cases hw : token.winner with
    | some w => exact congrArg Span.stop (h.span w.1 w.2 hw)
    | none =>
      obtain ⟨d, hd⟩ := h.single hw
      have hrest := h.rest
      rw [hr, hd, List.singleton_append] at hrest
      rw [h.length, hd, (List.cons.inj hrest).1]
      rfl
  have hslice : Text.slice s.source ⟨s.offset, s.offset + token.length⟩ = some token.text := by
    rw [h.length]
    exact hs.cursor.slice h.rest
  have hafter : after.offset = s.offset + token.length := by
    rw [offset, h.cursor, h.length]
    rfl
  have hdrop := hs.cursor.dropBytes
  rw [hr] at hdrop
  rw [Tokenizer.plainTokens, offset, hdrop]
  dsimp only
  rw [show s.cursor.offset = s.offset from rfl, hstop, hslice, Option.getD_some, h.types, h.source,
    h.tracker, hafter, List.cons.injEq]
  refine ⟨?_, rfl⟩
  rw [← location_eq, ← h.location, hs.plainWinner_eq, ← h.winner, Nat.add_sub_cancel_left,
    ← h.index, ← h.token_source]

/-- The tokens of the plain scanner from the place of a session on are those of the session. -/
theorem Sound.run_eq_plainTokens (hs : s.Sound) {fuel : Nat} (hfuel : s.cursor.rest.length ≤ fuel)
    (n : Nat) :
    (s.run n).1 = (Tokenizer.plainTokens s.types s.source fuel s.offset s.tracker).take n := by
  induction fuel generalizing s n with
  | zero =>
    have := (hs.run_reads n).length_rest
    rw [Tokenizer.plainTokens, List.take_nil]
    exact List.eq_nil_of_length_eq_zero (by omega)
  | succ fuel ih =>
    cases n with
    | zero => rfl
    | succ n =>
      cases hstep : s.step with
      | none =>
        have hdrop := hs.cursor.dropBytes
        rw [step_eq_none_iff.1 hstep] at hdrop
        rw [run_succ_of_none hstep, Tokenizer.plainTokens, offset, hdrop]
        rfl
      | some r =>
        obtain ⟨token, events, after⟩ := r
        obtain ⟨hreads, hafter⟩ := hs.step_reads hstep
        have htext := List.length_pos_iff.2 hreads.text_ne_nil
        have hlen := congrArg List.length hreads.rest
        rw [List.length_append] at hlen
        rw [run_succ_of_some hstep, hreads.plainTokens_succ hs, List.take_succ_cons,
          ih hafter (by omega)]

/-- Steps beyond the end of the source give nothing. -/
theorem Sound.run_eq_tokens (hs : s.Sound) {n : Nat} (hn : s.cursor.rest.length ≤ n) :
    (s.run n).1 = s.tokens := by
  have hle := Tokenizer.length_plainTokens_le s.types s.source s.cursor.rest.length s.offset
    s.tracker
  rw [tokens, finish, hs.run_eq_plainTokens (Nat.le_refl _), hs.run_eq_plainTokens (Nat.le_refl _),
    List.take_of_length_le (by omega), List.take_of_length_le hle]

theorem tokens_of_rest_eq_nil (h : s.cursor.rest = []) : s.tokens = [] := by
  rw [tokens, finish, h]
  rfl

/-- The tokens of a session are the one of its next step and those of the session after it. -/
theorem Sound.tokens_of_step (hs : s.Sound) {token : Token τ} {events : List Event}
    {after : Session τ} (h : s.step = some (token, events, after)) :
    s.tokens = token :: after.tokens := by
  obtain ⟨hreads, hafter⟩ := hs.step_reads h
  have htext := List.length_pos_iff.2 hreads.text_ne_nil
  have hlen := congrArg List.length hreads.rest
  rw [List.length_append] at hlen
  rw [← hs.run_eq_tokens (Nat.le_succ _), run_succ_of_some h, hafter.run_eq_tokens (by omega)]

theorem Sound.exists_tokens_eq_cons (hs : s.Sound) (h : s.cursor.rest ≠ []) :
    ∃ token after, s.Reads token after ∧ after.Sound ∧ s.tokens = token :: after.tokens := by
  cases hstep : s.step with
  | none => exact absurd (step_eq_none_iff.1 hstep) h
  | some r =>
    obtain ⟨token, events, after⟩ := r
    obtain ⟨hreads, hafter⟩ := hs.step_reads hstep
    exact ⟨token, after, hreads, hafter, hs.tokens_of_step hstep⟩

/-- The scan of a tokenizer begins as a plain scan does. -/
theorem plainTokens_session (t : Tokenizer τ) (source : List Char) :
    Tokenizer.plainTokens (t.session source).types (t.session source).source source.length
      (t.session source).offset (t.session source).tracker = t.plainScan source := rfl

end Session

/-- What a session remembers is not seen: whatever the definitions and the configuration of a
tokenizer were, the tokens that its sessions give, one after the other, are those of the plain
scanner, and a scan gives all of them. -/
theorem Tokenizer.scan_eq_plainScan (t : Tokenizer τ) (source : List Char) :
    t.scan source = t.plainScan source ∧
      ∀ n, ((t.session source).run n).1 = (t.plainScan source).take n := by
  have hs := Session.sound_session t source
  have hrun : ∀ n, ((t.session source).run n).1 = (t.plainScan source).take n := by
    intro n
    rw [← Session.plainTokens_session]
    exact hs.run_eq_plainTokens (Nat.le_refl source.length) n
  refine ⟨?_, hrun⟩
  have hlength : (t.plainScan source).length ≤ source.length := t.length_plainScan_le source
  rw [scan, Session.tokens, Session.finish, hrun]
  exact List.take_of_length_le hlength

end Munch
