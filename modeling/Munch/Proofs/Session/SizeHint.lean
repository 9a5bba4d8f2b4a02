import Munch.Proofs.Session.Stream

/-!
# The end of a session

Asked for one token after the other, a session comes to the end of its source, whatever its types
match: every token takes at least one character. So the characters that are left bound the number of
tokens to come, and so do the bytes that are left, which `Session.sizeHint` tells.

* `Session.Gives`: the tokens that a session gives before it gives none.
* `Session.Sound.gives_iff`, `Session.Sound.length_tokens_le`: which these are, and how many.
* `Session.Sound.sizeHint_bounds`, `Session.Reads.sizeHint_snd_add`: the bounds at one place, and
  the upper one from one token to the next.
* `Tokenizer.sizeHint_after`: a session after any readings.
-/

namespace Munch

variable {τ : Type}

namespace Session

/-- Asked for the next token again and again, the session gives these tokens, and then none. -/
inductive Gives : Session τ → List (Token τ) → Prop
  | done {s : Session τ} : s.next = none → Gives s []
  | token {s after : Session τ} {token : Token τ} {tokens : List (Token τ)} :
      s.next = some (token, after) → Gives after tokens → Gives s (token :: tokens)

variable {s : Session τ} {tokens : List (Token τ)}

/-! ## The tokens to come -/

theorem Gives.unique {tokens' : List (Token τ)} (h : s.Gives tokens) (h' : s.Gives tokens') :
    tokens = tokens' := by
  induction h generalizing tokens' with
  | done hnone =>
    cases h' with
    | done => rfl
    | token hnext => simp [hnone] at hnext
  | token hnext _ ih =>
    cases h' with
    | done hnone => simp [hnext] at hnone
    | token hnext' hgives =>
      rw [hnext, Option.some.injEq, Prod.mk.injEq] at hnext'
      obtain ⟨rfl, rfl⟩ := hnext'
      rw [ih hgives]

theorem Sound.gives_tokens (hs : s.Sound) : s.Gives s.tokens := by
  induction htokens : s.tokens generalizing s with
  | nil =>
    refine .done ?_
    rw [hs.next_eq_none_iff, ← hs.remainder_eq_nil_iff]
    exact hs.tokens_eq_nil_iff.1 htokens
  | cons token tokens ih =>
    obtain ⟨first, events, after, hstep⟩ := exists_step_of_getElem? (n := 0) (by rw [htokens]; rfl)
    rw [hs.tokens_of_step hstep, List.cons.injEq] at htokens
    obtain ⟨rfl, rfl⟩ := htokens
    exact .token (by rw [next, hstep]; rfl) (ih (hs.step_reads hstep).2 rfl)

/-- A session comes to its end, and gives all of its remaining tokens before. -/
theorem Sound.gives_iff (hs : s.Sound) : s.Gives tokens ↔ tokens = s.tokens :=
  ⟨fun h => h.unique hs.gives_tokens, fun h => h ▸ hs.gives_tokens⟩

theorem Sound.length_tokens_le (hs : s.Sound) : s.tokens.length ≤ s.remainder.length :=
  Nat.le_of_add_left_le (hs.run_reads s.cursor.rest.length).length_rest

/-! ## Bounds -/

/-- The upper bound is the number of bytes that are left. -/
theorem Sound.sizeHint_snd (hs : s.Sound) : s.sizeHint.2 = Text.byteLength s.remainder := by
  have := hs.offset_eq
  rw [sizeHint]
  dsimp only
  omega

theorem Sound.sizeHint_fst (hs : s.Sound) : s.sizeHint.1 = min 1 (Text.byteLength s.remainder) := by
  rw [← hs.sizeHint_snd, sizeHint]
  dsimp only
  split <;> omega

theorem Sound.sizeHint_bounds (hs : s.Sound) :
    s.sizeHint.1 ≤ s.tokens.length ∧ s.tokens.length ≤ s.sizeHint.2 ∧
      (s.sizeHint.1 = 0 ↔ s.tokens.length = 0) := by
  have hchars := hs.length_tokens_le
  have hbytes := Text.length_le_byteLength s.remainder
  rw [hs.sizeHint_fst, hs.sizeHint_snd]
  by_cases hnil : s.remainder = []
  · have htokens : s.tokens = [] := hs.tokens_eq_nil_iff.2 hnil
    simp [hnil, htokens]
  · have htokens : 0 < s.tokens.length :=
      List.length_pos_iff.2 fun htokens => hnil (hs.tokens_eq_nil_iff.1 htokens)
    omega

/-- A token takes its bytes off those that are left. -/
theorem Reads.sizeHint_snd_add {after : Session τ} {token : Token τ} (h : s.Reads token after)
    (hs : s.Sound) (hafter : after.Sound) : after.sizeHint.2 + token.length = s.sizeHint.2 := by
  rw [hs.sizeHint_snd, hafter.sizeHint_snd, h.length, remainder, remainder, h.rest,
    Text.byteLength_append, Nat.add_comm]

end Session

/-- After any readings a session gives as many further tokens as it has characters left, or fewer,
and then none. Its place and the upper bound add up to the source. Both bounds hold, the lower one
is 0 if and only if there are no further tokens, and each token lowers the upper one by its
length. -/
theorem Tokenizer.sizeHint_after (t : Tokenizer τ) (source : List Char) (readings : List Reading) :
    let s := (t.session source).after readings
    (∀ tokens, s.Gives tokens ↔ tokens = s.tokens) ∧
    s.tokens.length ≤ s.remainder.length ∧
    s.offset + s.sizeHint.2 = Text.byteLength source ∧
    s.sizeHint.1 ≤ s.tokens.length ∧ s.tokens.length ≤ s.sizeHint.2 ∧
    (s.sizeHint.1 = 0 ↔ s.tokens.length = 0) ∧
    ∀ token after, s.next = some (token, after) →
      after.sizeHint.2 + token.length = s.sizeHint.2 := by
  intro s
  have hfollows := (Session.follows_stream t source).after readings
  have hs : s.Sound := hfollows.sound
  have hsource : s.source = source := hfollows.source.trans (TokenStream.source_after _ _)
  obtain ⟨hlower, hupper, hzero⟩ := hs.sizeHint_bounds
  refine ⟨fun tokens => hs.gives_iff, hs.length_tokens_le, ?_, hlower, hupper, hzero, ?_⟩
  · rw [hs.sizeHint_snd, hs.offset_eq, hsource]
  · intro token after h
    obtain ⟨hreads, hafter⟩ := hs.next_reads h
    exact hreads.sizeHint_snd_add hs hafter

/-- Behind `a`, where nothing but empty texts matches, there are two tokens of three bytes. -/
theorem Tokenizer.sizeHint_after_emptyTexts :
    ∃ (t : Tokenizer Nat) (token : Token Nat) (last : Session Nat),
      build {} [⟨0, .literal ""⟩, ⟨1, .regex "x*" .empty⟩] = .ok t ∧
      let s := (t.session "aéb".toList).after [.next]
      s.Gives s.tokens ∧ s.tokens.length = 2 ∧ s.sizeHint = (1, 3) ∧
      s.next = some (token, last) ∧ token.length = 2 ∧ last.sizeHint.2 + token.length = 3 := by
  let t : Tokenizer Nat :=
    (build {} [⟨0, .literal ""⟩, ⟨1, .regex "x*" .empty⟩]).toOption.getD default
  let s : Session Nat := (t.session "aéb".toList).after [.next]
  let r : Token Nat × Session Nat := s.next.getD default
  obtain ⟨hgives, -, -, -, -, -, hlower⟩ := sizeHint_after t "aéb".toList [.next]
  have hnext : s.next = some (r.1, r.2) := by decide +kernel
  have hhint : s.sizeHint = (1, 3) := by decide +kernel
  refine ⟨t, r.1, r.2, by decide +kernel, (hgives _).2 rfl, by decide +kernel, hhint, hnext,
    by decide +kernel, (hlower r.1 r.2 hnext).trans ?_⟩
  exact congrArg Prod.snd hhint

end Munch
