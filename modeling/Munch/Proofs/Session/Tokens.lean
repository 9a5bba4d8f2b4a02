import Munch.Proofs.Session.PlainScan
import Munch.Proofs.Text.Location

/-!
# The tokens of a session, one by one

A session is known by the list of its tokens: a number of steps gives as many tokens of the list and
leaves a session with the others, and token number `n` is read by the session after `n` steps. Two
sessions that stay alike step by step have tokens that are alike one by one.

* `Session.Sound.step_induction`: induction on the steps to come.
* `Session.Sound.run_fst`, `Session.Sound.tokens_run`: a number of steps.
* `Session.Sound.reads_of_getElem?`: the step that reads a token.
* `Session.Sound.tracker_run`, `Session.Sound.offset_run`: the place after a number of steps.
* `Session.Reads.text_eq_of_length`, `Session.Reads.piece_eq_of_length`,
  `Session.Sound.tokens_forall₂`: two sessions side by side.
-/

namespace Munch.Session

variable {τ : Type} {s : Session τ}

/-- What holds at the end of a source and is carried back over each step holds of all sessions. -/
theorem Sound.step_induction {P : (s : Session τ) → s.Sound → Prop}
    (done : ∀ s (hs : s.Sound), s.cursor.rest = [] → P s hs)
    (step : ∀ s token after (hs : s.Sound) (hafter : after.Sound), s.Reads token after →
      s.tokens = token :: after.tokens → P after hafter → P s hs) (hs : s.Sound) : P s hs := by
  induction hlen : s.cursor.rest.length using Nat.strongRecOn generalizing s with
  | _ len ih =>
    by_cases hnil : s.cursor.rest = []
    · exact done s hs hnil
    · obtain ⟨token, after, hreads, hafter, htokens⟩ := hs.exists_tokens_eq_cons hnil
      refine step s token after hs hafter hreads htokens (ih after.cursor.rest.length ?_ hafter rfl)
      have := List.length_pos_iff.2 hreads.text_ne_nil
      rw [← hlen, hreads.rest, List.length_append]
      omega

theorem Sound.run_fst_and_tokens_run (hs : s.Sound) (n : Nat) :
    (s.run n).1 = s.tokens.take n ∧ (s.run n).2.2.tokens = s.tokens.drop n := by
  induction n generalizing s with
  | zero => exact ⟨rfl, rfl⟩
  | succ n ih =>
    cases hstep : s.step with
    | none =>
      rw [run_succ_of_none hstep, tokens_of_rest_eq_nil (step_eq_none_iff.1 hstep)]
      exact ⟨rfl, rfl⟩
    | some r =>
      obtain ⟨token, events, after⟩ := r
      obtain ⟨htokens, hdrop⟩ := ih (hs.step_reads hstep).2
      rw [run_succ_of_some hstep, hs.tokens_of_step hstep, htokens, hdrop]
      exact ⟨rfl, rfl⟩

/-- Steps give the tokens that come next. -/
theorem Sound.run_fst (hs : s.Sound) (n : Nat) : (s.run n).1 = s.tokens.take n :=
  (hs.run_fst_and_tokens_run n).1

/-- Steps leave the tokens behind them. -/
theorem Sound.tokens_run (hs : s.Sound) (n : Nat) : (s.run n).2.2.tokens = s.tokens.drop n :=
  (hs.run_fst_and_tokens_run n).2

/-- A session that has tokens has a next step. -/
theorem exists_step_of_getElem? {n : Nat} {token : Token τ} (h : s.tokens[n]? = some token) :
    ∃ first events after, s.step = some (first, events, after) := by
  cases hstep : s.step with
  | none =>
    rw [tokens_of_rest_eq_nil (step_eq_none_iff.1 hstep)] at h
    cases h
  | some r => exact ⟨r.1, r.2.1, r.2.2, rfl⟩

/-- Token number `n` is read by the session after `n` steps. -/
theorem Sound.reads_of_getElem? (hs : s.Sound) {n : Nat} {token : Token τ}
    (h : s.tokens[n]? = some token) :
    (s.run n).2.2.Reads token (s.run (n + 1)).2.2 := by
  induction n generalizing s with
  | zero =>
    obtain ⟨first, events, after, hstep⟩ := exists_step_of_getElem? h
    rw [hs.tokens_of_step hstep] at h
    cases h
    rw [run_succ_of_some hstep]
    exact (hs.step_reads hstep).1
  | succ n ih =>
    obtain ⟨first, events, after, hstep⟩ := exists_step_of_getElem? h
    rw [hs.tokens_of_step hstep] at h
    rw [run_succ_of_some hstep, run_succ_of_some hstep]
    exact ih (hs.step_reads hstep).2 h

/-- The tracker has read the texts of all steps. -/
theorem Sound.tracker_run (hs : s.Sound) (n : Nat) :
    (s.run n).2.2.tracker = s.tracker.map (·.advance ((s.run n).1.flatMap (·.text))) := by
  induction n generalizing s with
  | zero => exact Option.map_id_apply.symm
  | succ n ih =>
    cases hstep : s.step with
    | none =>
      rw [run_succ_of_none hstep]
      exact Option.map_id_apply.symm
    | some r =>
      obtain ⟨token, events, after⟩ := r
      obtain ⟨hreads, hafter⟩ := hs.step_reads hstep
      rw [run_succ_of_some hstep, ih hafter, hreads.tracker, Option.map_map]
      refine congrArg (s.tracker.map ·) (funext fun t => ?_)
      rw [List.flatMap_cons, LineTracker.advance_append]
      rfl

/-- The place has moved by the texts of all steps. -/
theorem Sound.offset_run (hs : s.Sound) (n : Nat) :
    (s.run n).2.2.offset = s.offset + Text.byteLength ((s.run n).1.flatMap (·.text)) := by
  have hrun := hs.run_reads n
  have hbefore := hs.cursor.byteLength_rest
  have hafter := hrun.sound.cursor.byteLength_rest
  rw [hrun.source, ← hbefore, hrun.rest, Text.byteLength_append] at hafter
  simp only [offset]
  omega

theorem Sound.length_of_mem_tokens (hs : s.Sound) {token : Token τ} (h : token ∈ s.tokens) :
    token.length = Text.byteLength token.text := by
  obtain ⟨before, after, -, -, -, hreads⟩ := hs.exists_reads h
  exact hreads.length

/-- The lengths of all tokens add up to that of their texts. -/
theorem Sound.sum_length_take (hs : s.Sound) (n : Nat) :
    ((s.tokens.take n).map (·.length)).sum =
      Text.byteLength ((s.tokens.take n).flatMap (·.text)) := by
  rw [List.flatMap_def, Text.byteLength_flatten, List.map_map]
  refine congrArg List.sum (List.map_congr_left fun token htoken => ?_)
  exact hs.length_of_mem_tokens (List.mem_of_mem_take htoken)

/-! ## Two sessions -/

section Pair

variable {σ : Type} {s' : Session σ}

/-- Two steps read the same text in front of the same rest if their winners are equally long, or if
neither has a winner. -/
theorem Reads.text_eq_of_length {after : Session τ} {after' : Session σ} {token : Token τ}
    {token' : Token σ} (h : s.Reads token after) (h' : s'.Reads token' after')
    (hrest : s.cursor.rest = s'.cursor.rest)
    (hlength : token.winner.map (·.2.length) = token'.winner.map (·.2.length)) :
    token.text = token'.text ∧ after.cursor.rest = after'.cursor.rest := by
  have happend : token.text ++ after.cursor.rest = token'.text ++ after'.cursor.rest := by
    rw [← h.rest, ← h'.rest, hrest]
  have htext : token.text = token'.text := by
    cases hw : token.winner with
    | some w =>
      rw [hw, Option.map_some, eq_comm, Option.map_eq_some_iff] at hlength
      obtain ⟨w', hw', hlen⟩ := hlength
      rw [h.length_match hw, h'.length_match hw', h.length, h'.length] at hlen
      exact Text.eq_of_append_eq happend hlen.symm
    | none =>
      rw [hw, Option.map_none, eq_comm, Option.map_eq_none_iff] at hlength
      obtain ⟨c, hc⟩ := h.single hw
      obtain ⟨d, hd⟩ := h'.single hlength
      rw [hc, hd, List.singleton_append, List.singleton_append] at happend
      rw [hc, hd, (List.cons.inj happend).1]
  rw [htext] at happend
  exact ⟨htext, List.append_cancel_left happend⟩

/-- Such steps from the same place read the same piece and lead to the same place. -/
theorem Reads.piece_eq_of_length {after : Session τ} {after' : Session σ} {token : Token τ}
    {token' : Token σ} (h : s.Reads token after) (h' : s'.Reads token' after')
    (hcursor : s.cursor = s'.cursor)
    (hlength : token.winner.map (·.2.length) = token'.winner.map (·.2.length)) :
    token.index = token'.index ∧ token.text = token'.text ∧ token.length = token'.length ∧
      after.cursor = after'.cursor := by
  obtain ⟨htext, hrest⟩ := h.text_eq_of_length h' (congrArg Cursor.rest hcursor) hlength
  refine ⟨?_, htext, ?_, ?_⟩
  · rw [h.index, h'.index, offset, offset, hcursor]
  · rw [h.length, h'.length, htext]
  · rw [h.cursor, h'.cursor, hcursor, htext, hrest]

/-- Two sessions side by side. If they are alike (`R`), then so are their next tokens (`Q`), and the
sessions after them are alike again. Then all their tokens are alike. -/
theorem Sound.tokens_forall₂ {R : Session τ → Session σ → Prop}
    {Q : Token τ → Token σ → Prop}
    (hrest : ∀ {s s'}, R s s' → s.cursor.rest = s'.cursor.rest)
    (hstep : ∀ {s s' after after' token token'}, s.Sound → s'.Sound → R s s' →
      s.Reads token after → s'.Reads token' after' → s.tokens = token :: after.tokens →
      Q token token' ∧ R after after')
    (hs : s.Sound) (hs' : s'.Sound) (h : R s s') :
    List.Forall₂ Q s.tokens s'.tokens := by
  induction hs using Sound.step_induction generalizing s' with
  | done s hs hnil =>
    rw [tokens_of_rest_eq_nil hnil, tokens_of_rest_eq_nil ((hrest h).symm.trans hnil)]
    exact .nil
  | step s token after hs hafter hreads htokens ih =>
    obtain ⟨c, cs, hcons⟩ := hreads.exists_rest_eq_cons
    obtain ⟨token', after', hreads', hafter', htokens'⟩ :=
      hs'.exists_tokens_eq_cons (by rw [← hrest h, hcons]; exact List.cons_ne_nil c cs)
    obtain ⟨htoken, halike⟩ := hstep hs hs' h hreads hreads' htokens
    rw [htokens, htokens']
    exact .cons htoken (ih hafter' halike)

end Pair

end Munch.Session
