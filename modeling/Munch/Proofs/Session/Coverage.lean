import Munch.Proofs.Session.Step

/-!
# Tokens cover the source

A session always stands between two characters of its source, every step takes a text that is not
empty and begins where the session stands, and the texts of all steps are the source. All spans that
a step reads lie in the source and between its characters.

* `Session.Reads.slice_span`, `Session.Reads.span_eq`, `Session.Reads.char_of_none`: what one step
  reads.
* `Tokenizer.run_covers`: where a session stands after any number of steps, and what its next step
  reads.
-/

namespace Munch

variable {τ : Type}

namespace Session

variable {s after : Session τ} {token : Token τ}

/-! ## Where a session stands -/

theorem Sound.offset_eq (hs : s.Sound) :
    s.offset + Text.byteLength s.remainder = Text.byteLength s.source := by
  have := hs.cursor.byteLength_rest
  rwa [Cursor.ofText, Nat.zero_add] at this

theorem Sound.slice_remainder (hs : s.Sound) :
    Text.slice s.source ⟨s.offset, Text.byteLength s.source⟩ = some s.remainder := by
  rw [← hs.offset_eq]
  exact hs.cursor.slice (List.append_nil _).symm

theorem Sound.remainder_eq_nil_iff (hs : s.Sound) :
    s.remainder = [] ↔ s.offset = Text.byteLength s.source := by
  rw [remainder, hs.cursor.rest_eq_nil_iff, Cursor.ofText, Nat.zero_add]
  rfl

theorem Sound.isDone_iff (hs : s.Sound) :
    s.isDone = true ↔ s.offset = Text.byteLength s.source := by
  rw [isDone, List.isEmpty_iff]
  exact hs.remainder_eq_nil_iff

/-- A session gives a token as long as it has not come to the end of its source. -/
theorem Sound.next_eq_none_iff (hs : s.Sound) :
    s.next = none ↔ s.offset = Text.byteLength s.source := by
  rw [next, Option.map_eq_none_iff, step_eq_none_iff]
  exact hs.remainder_eq_nil_iff

theorem Sound.next_reads (hs : s.Sound) (h : s.next = some (token, after)) :
    s.Reads token after ∧ after.Sound := by
  obtain ⟨⟨token', events, after'⟩, hstep, heq⟩ := Option.map_eq_some_iff.1 h
  cases heq
  exact hs.step_reads hstep

/-! ## What a step reads -/

theorem Reads.length_pos (h : s.Reads token after) : 0 < token.length := by
  rw [h.length]
  exact Nat.lt_of_lt_of_le (List.length_pos_iff.2 h.text_ne_nil) (Text.length_le_byteLength _)

theorem Reads.offset_after (h : s.Reads token after) :
    after.offset = token.index + token.length := by
  rw [offset, h.cursor, h.index, h.length]
  rfl

theorem Reads.slice_span (h : s.Reads token after) (hs : s.Sound) :
    Text.slice s.source token.span = some token.text := by
  rw [Token.span, h.index, h.length]
  exact hs.cursor.slice h.rest

theorem Reads.span_eq (h : s.Reads token after) {type : TokenType τ} {m : Match}
    (hw : token.winner = some (type, m)) : m.span = token.span := by
  rw [h.span type m hw, Token.span, h.index]

/-- A token without a match is the next character. -/
theorem Reads.char_of_none (h : s.Reads token after) (hw : token.winner = none) :
    ∃ c, s.remainder = c :: after.remainder ∧ token.text = [c] ∧ token.length = c.utf8Size := by
  obtain ⟨c, hc⟩ := h.single hw
  refine ⟨c, ?_, hc, ?_⟩
  · rw [remainder, h.rest, hc]
    rfl
  · rw [h.length, hc]
    simp

end Session

/-! ## Runs -/

/-- The texts of all tokens are the source. -/
theorem Tokenizer.flatMap_text_scan (t : Tokenizer τ) (source : List Char) :
    (t.scan source).flatMap (·.text) = source := by
  have hstart := Session.sound_session t source
  have hrest := (hstart.run_reads source.length).rest
  rw [hstart.rest_run_eq_nil (Nat.le_refl source.length), List.append_nil] at hrest
  exact hrest.symm

/-- After any number of steps a session stands between two characters of its source, at its end if
and only if there is no further step. The texts of the steps and what is left make up the source. A
further step reads a text in the source that begins there and is not empty, which is all of the
match or the one character that it takes, and leaves the session after it. -/
theorem Tokenizer.run_covers (t : Tokenizer τ) (source : List Char) (n : Nat) :
    let r := (t.session source).run n
    let s := r.2.2
    (s.offset ≤ Text.byteLength source ∧
      Text.slice source ⟨s.offset, Text.byteLength source⟩ = some s.remainder) ∧
    (s.next = none ↔ s.offset = Text.byteLength source) ∧
    (s.isDone = true ↔ s.offset = Text.byteLength source) ∧
    (∀ token after, s.next = some (token, after) →
      token.index = s.offset ∧ 1 ≤ token.length ∧ after.offset = token.index + token.length ∧
      Text.slice source ⟨token.index, token.index + token.length⟩ = some token.text ∧
      (∀ type m, token.winner = some (type, m) →
        m.span = ⟨token.index, token.index + token.length⟩) ∧
      (token.winner = none → ∃ c, s.remainder = c :: after.remainder ∧ token.text = [c] ∧
        token.length = c.utf8Size)) ∧
    r.1.flatMap (·.text) ++ s.remainder = source ∧
    (t.scan source).flatMap (·.text) = source := by
  intro r s
  have hstart := Session.sound_session t source
  have hrun := hstart.run_reads n
  have hs : s.Sound := hrun.sound
  have hsource : s.source = source := hrun.source
  have hoffset := hs.offset_eq
  have hslice := hs.slice_remainder
  have hnext := hs.next_eq_none_iff
  have hdone := hs.isDone_iff
  rw [hsource] at hoffset hslice hnext hdone
  refine ⟨⟨by omega, hslice⟩, hnext, hdone, ?_, hrun.rest.symm, t.flatMap_text_scan source⟩
  intro token after h
  obtain ⟨⟨token', events, after'⟩, hstep, heq⟩ := Option.map_eq_some_iff.1 h
  cases heq
  obtain ⟨hreads, -⟩ := hs.step_reads hstep
  have htext := hreads.slice_span hs
  rw [hsource] at htext
  exact ⟨hreads.index, hreads.length_pos, hreads.offset_after, htext,
    fun type m => hreads.span_eq, hreads.char_of_none⟩

end Munch
