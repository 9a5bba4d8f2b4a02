import Munch.Proofs.Session.Coverage
import Munch.Proofs.Session.Tokens
import Munch.Workspace

/-!
# Sessions as streams

A `TokenStream` is the list of the tokens of a source, cut in two: the tokens that have been passed
and those to come. A reading takes or skips some of the tokens to come. A session answers each
reading as the stream of its source does, and its place is the end of the tokens passed.

* `Session.Follows`: a session that has passed the tokens that a stream has passed.
* `Session.Follows.standsAt`: the place of such a session.
* `Session.Follows.read`, `Session.Follows.after`: one reading, and several of them.
-/

namespace Munch

variable {τ : Type}

/-- The tokens of a source, those that have been passed and those to come. -/
structure TokenStream (τ : Type) where
  source : List Char
  passed : List (Token τ)
  coming : List (Token τ)

/-- All tokens of a source, none of which has been passed. -/
def Tokenizer.stream (t : Tokenizer τ) (source : List Char) : TokenStream τ :=
  ⟨source, [], t.scan source⟩

namespace TokenStream

/-- The end of the tokens passed. -/
def offset (st : TokenStream τ) : Nat := (st.passed.map (·.length)).sum

/-- Passes the next `n` tokens. -/
def pass (n : Nat) (st : TokenStream τ) : TokenStream τ :=
  { st with passed := st.passed ++ st.coming.take n, coming := st.coming.drop n }

/-- Answers a reading. -/
def read (st : TokenStream τ) : Reading → Result τ × TokenStream τ
  | .next => (.token st.coming.head?, st.pass 1)
  | .own => (.owned (st.coming.head?.map Token.toOwned), st.pass 1)
  | .nth n => (.token st.coming[n]?, st.pass (n + 1))
  | .rest => (.tokens st.coming, st.pass st.coming.length)
  | .count => (.count st.coming.length, st.pass st.coming.length)
  | .state => (.source st.source, st)

/-- The stream after some readings. -/
def after (st : TokenStream τ) (readings : List Reading) : TokenStream τ :=
  readings.foldl (fun st reading => (st.read reading).2) st

theorem pass_pass (st : TokenStream τ) (m n : Nat) : (st.pass m).pass n = st.pass (m + n) := by
  simp [pass, List.take_add]

/-- There is nothing behind the last token. -/
theorem pass_of_length_le (st : TokenStream τ) {n : Nat} (h : st.coming.length ≤ n) :
    st.pass n = st.pass st.coming.length := by
  simp [pass, h]

/-- The source stays what it is. -/
theorem source_after (st : TokenStream τ) (readings : List Reading) :
    (st.after readings).source = st.source := by
  induction readings generalizing st with
  | nil => rfl
  | cons reading readings ih =>
    refine (ih (st.read reading).2).trans ?_
    cases reading <;> rfl

end TokenStream

namespace Session

/-- The session after some readings. -/
def after (s : Session τ) (readings : List Reading) : Session τ :=
  readings.foldl (fun s reading => (s.read reading).2) s

variable {s : Session τ} {st : TokenStream τ}

/-- The session is at the end of the tokens that the stream has passed. The source from there on is
left to it, and nothing if and only if no tokens are to come. -/
structure StandsAt (s : Session τ) (st : TokenStream τ) : Prop where
  source : s.source = st.source
  offset : s.offset = st.offset
  remainder : Text.dropBytes st.offset st.source = some s.remainder
  isDone : s.isDone = true ↔ st.coming = []

/-- The session has read the tokens that the stream has passed. -/
structure Follows (s : Session τ) (st : TokenStream τ) : Prop where
  sound : s.Sound
  source : s.source = st.source
  offset : s.offset = st.offset
  tokens : s.tokens = st.coming

theorem follows_stream (t : Tokenizer τ) (source : List Char) :
    (t.session source).Follows (t.stream source) :=
  ⟨sound_session t source, rfl, rfl, rfl⟩

theorem Sound.tokens_eq_nil_iff (hs : s.Sound) : s.tokens = [] ↔ s.cursor.rest = [] := by
  refine ⟨fun h => ?_, tokens_of_rest_eq_nil⟩
  by_contra hrest
  obtain ⟨token, after, -, -, htokens⟩ := hs.exists_tokens_eq_cons hrest
  rw [h] at htokens
  cases htokens

namespace Follows

theorem standsAt (h : s.Follows st) : s.StandsAt st := by
  refine ⟨h.source, h.offset, ?_, ?_⟩
  · rw [← h.offset, ← h.source]
    exact h.sound.cursor.dropBytes
  · rw [← h.tokens, h.sound.tokens_eq_nil_iff, isDone, List.isEmpty_iff]

/-- Steps of a session pass as many tokens. -/
theorem run (h : s.Follows st) (n : Nat) : (s.run n).2.2.Follows (st.pass n) := by
  have hrun := h.sound.run_reads n
  refine ⟨hrun.sound, hrun.source.trans h.source, ?_, ?_⟩
  · rw [h.sound.offset_run, h.sound.run_fst, ← h.sound.sum_length_take, h.offset, h.tokens]
    simp [TokenStream.offset, TokenStream.pass]
  · rw [h.sound.tokens_run, h.tokens]
    rfl

/-- The next token is the first of those to come. -/
theorem next (h : s.Follows st) :
    (∃ token after, s.next = some (token, after) ∧ st.coming.head? = some token ∧
      after.Follows (st.pass 1)) ∨
    (s.next = none ∧ st.coming.head? = none ∧ s.Follows (st.pass 1)) := by
  have hrun := h.run 1
  cases hstep : s.step with
  | none =>
    right
    rw [run_succ_of_none hstep] at hrun
    refine ⟨by rw [Session.next, hstep]; rfl, ?_, hrun⟩
    rw [← h.tokens, tokens_of_rest_eq_nil (step_eq_none_iff.1 hstep), List.head?_nil]
  | some r =>
    obtain ⟨token, events, after⟩ := r
    left
    rw [run_succ_of_some hstep] at hrun
    refine ⟨token, after, by rw [Session.next, hstep]; rfl, ?_, hrun⟩
    rw [← h.tokens, h.sound.tokens_of_step hstep, List.head?_cons]

theorem nth (h : s.Follows st) (n : Nat) :
    (s.nth n).1 = st.coming[n]? ∧ (s.nth n).2.Follows (st.pass (n + 1)) := by
  have hcoming : st.coming[n]? = (st.pass n).coming.head? := List.head?_drop.symm
  rw [hcoming, ← st.pass_pass n 1, Session.nth]
  obtain ⟨token, after, hnext, hhead, hafter⟩ | ⟨hnext, hhead, hafter⟩ := (h.run n).next
  · rw [hnext]
    exact ⟨hhead.symm, hafter⟩
  · rw [hnext]
    exact ⟨hhead.symm, hafter⟩

theorem finish (h : s.Follows st) :
    s.finish.1 = st.coming ∧ s.finish.2.2.Follows (st.pass st.coming.length) := by
  have hlength := (h.sound.run_reads s.cursor.rest.length).length_rest
  have htokens : (s.run s.cursor.rest.length).1 = st.coming := h.tokens
  rw [htokens] at hlength
  refine ⟨h.tokens, ?_⟩
  rw [← st.pass_of_length_le (by omega : st.coming.length ≤ s.cursor.rest.length)]
  exact h.run _

/-- A session answers a reading as its stream does, and follows the stream from there. -/
theorem read (h : s.Follows st) (reading : Reading) :
    (s.read reading).1 = (st.read reading).1 ∧ (s.read reading).2.Follows (st.read reading).2 := by
  cases reading with
  | next | own =>
    obtain ⟨token, after, hnext, hhead, hafter⟩ | ⟨hnext, hhead, hafter⟩ := h.next
    all_goals
      rw [Session.read, TokenStream.read, hnext, hhead]
      exact ⟨rfl, hafter⟩
  | nth n => exact ⟨congrArg Result.token (h.nth n).1, (h.nth n).2⟩
  | rest => exact ⟨congrArg Result.tokens h.finish.1, h.finish.2⟩
  | count => exact ⟨congrArg Result.count (congrArg List.length h.finish.1), h.finish.2⟩
  | state => exact ⟨congrArg Result.source h.source, h⟩

/-- A session follows its stream through any readings. -/
theorem after (h : s.Follows st) (readings : List Reading) :
    (s.after readings).Follows (st.after readings) := by
  induction readings generalizing s st with
  | nil => exact h
  | cons reading readings ih => exact ih (h.read reading).2

end Follows

end Session

end Munch
