import Munch.Proofs.Session.Tokens
import Munch.Proofs.Tokenizer

/-!
# The locations of tokens

A session that counts lines and columns has counted those of the text in front of it, however it was
cut into tokens. So the location of a token depends only on the text in front of the token.

* `Session.Sound.location_run`: the location after a number of steps.
* `Session.Sound.pairwise_line`, `Session.Sound.line_of_mem`: the lines of tokens never decrease,
  and are lines of the source.
* `Tokenizer.location_of_mem_scan`: the location of a token.
-/

namespace Munch

variable {τ : Type}

namespace Session

/-- The session has counted the lines and columns of what it has read. -/
theorem Sound.location_run {s : Session τ} (hs : s.Sound) (htracker : s.tracker = some .start)
    (n : Nat) : ∃ read, s.cursor.rest = read ++ (s.run n).2.2.cursor.rest ∧
      (s.run n).2.2.offset = s.offset + Text.byteLength read ∧
      (s.run n).2.2.location = ⟨1 + Text.lineBreaks read, 1 + (Text.lastLine read).length,
        (s.run n).2.2.offset⟩ := by
  refine ⟨_, (hs.run_reads n).rest, hs.offset_run n, ?_⟩
  rw [location, hs.tracker_run, htracker, Option.map_some, LineTracker.advance_start]
  rfl

theorem Reads.line_le {s after : Session τ} {token : Token τ} (h : s.Reads token after) :
    s.location.line ≤ after.location.line := by
  rw [Session.location, Session.location, h.tracker]
  cases s.tracker with
  | none => exact Nat.le_refl _
  | some tracker => exact tracker.line_le_advance token.text

/-- Neither a token nor the place of the session is in an earlier line than what precedes it. -/
theorem Sound.pairwise_line {s : Session τ} (hs : s.Sound) :
    (s.location.line :: s.tokens.map (·.location.line)).Pairwise (· ≤ ·) := by
  induction hs using Sound.step_induction with
  | done s hs hnil =>
    rw [tokens_of_rest_eq_nil hnil]
    exact List.pairwise_singleton _ _
  | step s token after hs hafter hreads htokens ih =>
    obtain ⟨hlater, htail⟩ := List.pairwise_cons.1 ih
    have hlater' : ∀ n ∈ after.tokens.map (·.location.line), s.location.line ≤ n :=
      fun n hn => hreads.line_le.trans (hlater n hn)
    rw [htokens, List.map_cons, hreads.location, List.pairwise_cons, List.pairwise_cons,
      List.forall_mem_cons]
    exact ⟨⟨Nat.le_refl _, hlater'⟩, hlater', htail⟩

/-- The line of a token is one of those that the line breaks make. -/
theorem Sound.line_of_mem {s : Session τ} (hs : s.Sound) (htracker : s.tracker = some .start)
    {token : Token τ} (h : token ∈ s.tokens) : 1 ≤ token.location.line ∧
      token.location.line ≤ 1 + Text.lineBreaks s.remainder := by
  obtain ⟨n, hn⟩ := List.mem_iff_getElem?.1 h
  obtain ⟨read, hrest, -, hlocation⟩ := hs.location_run htracker n
  have hle := Text.lineBreaks_le_append read (s.run n).2.2.cursor.rest
  rw [(hs.reads_of_getElem? hn).location, hlocation, remainder, hrest]
  exact ⟨Nat.le_add_right 1 _, Nat.add_le_add_left hle 1⟩

end Session

namespace Tokenizer

/-- The line of a token is counted by the line breaks in front of the token, and its column by the
characters in front of it behind the last one that ends a line. In whatever pieces the text in front
of the token is read, counting leads to this location. -/
theorem location_of_mem_scan {config : Config} {defs : List (Definition τ)} {t : Tokenizer τ}
    (ht : build config defs = .ok t) (htrack : config.trackLocations = true) {source : List Char}
    {token : Token τ} (htoken : token ∈ t.scan source) :
    ∃ read, Text.slice source ⟨0, token.index⟩ = some read ∧
      token.location = ⟨1 + Text.lineBreaks read, 1 + (Text.lastLine read).length, token.index⟩ ∧
      ∀ pieces : List (List Char), pieces.flatten = read →
        (pieces.foldl LineTracker.advance .start).toLocation token.index = token.location := by
  have hs := Session.sound_session t source
  obtain ⟨n, hn⟩ := List.mem_iff_getElem?.1 htoken
  have hreads := hs.reads_of_getElem? hn
  have htracker : (t.session source).tracker = some .start := by
    rw [session, (build_eq_ok_iff.1 ht).2, htrack]
    rfl
  obtain ⟨read, hrest, hoffset, hlocation⟩ := hs.location_run htracker n
  rw [← hreads.index] at hoffset hlocation
  rw [← hreads.location] at hlocation
  refine ⟨read, ?_, hlocation, fun pieces hpieces => ?_⟩
  · rw [hoffset]
    exact hs.cursor.slice hrest
  · rw [LineTracker.foldl_advance, hpieces, LineTracker.advance_start, hlocation]
    rfl

/-- The token `b` behind a `\r\n` that two tokens share is in the second column of line 3. -/
theorem location_behind_return :
    ∃ (t : Tokenizer Nat) (token : Token Nat) (read : List Char),
      build {} [⟨0, .literal "\r"⟩, ⟨1, .regex "\\n?é" .empty⟩] = .ok t ∧
      ({} : Config).trackLocations = true ∧ token ∈ t.scan "a\r\r\néb".toList ∧
      Text.slice "a\r\r\néb".toList ⟨0, token.index⟩ = some read ∧
      token.location = ⟨1 + Text.lineBreaks read, 1 + (Text.lastLine read).length, token.index⟩ ∧
      (t.scan "a\r\r\néb".toList).map (·.index) = [0, 1, 2, 3, 6] ∧
      token.location = ⟨3, 2, 6⟩ := by
  let t : Tokenizer Nat :=
    (build {} [⟨0, .literal "\r"⟩, ⟨1, .regex "\\n?é" .empty⟩]).toOption.getD default
  let token : Token Nat := (t.scan "a\r\r\néb".toList).getLastD default
  have hbuild : build {} [⟨0, .literal "\r"⟩, ⟨1, .regex "\\n?é" .empty⟩] = .ok t := by
    decide +kernel
  have htoken : token ∈ t.scan "a\r\r\néb".toList := by decide +kernel
  obtain ⟨read, hread, hlocation, -⟩ := location_of_mem_scan hbuild rfl htoken
  exact ⟨t, token, read, hbuild, rfl, htoken, hread, hlocation, by decide +kernel,
    by decide +kernel⟩

end Tokenizer

end Munch
