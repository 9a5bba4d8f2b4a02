import Munch.Proofs.Ini.Reader
import Munch.Proofs.Text.Location

/-!
# Line ends with `\r`

A line end may be written `\r\n`, and so it is where it is a token of its own. But the patterns for
lines end at `\n` alone, so a `\r` in front of it is part of the line: what would be a heading is
none, and the value of an entry ends in the `\r`. Comments, blank lines and lines that cannot be
read are the same as with `\n`.

* `Ini.withReturns`: a source with its line ends written `\r\n`.
* `Ini.readReturns`: the reading of such a source, line by line.
* `Ini.Starts.read_return`: what a session reads of one of these lines.
* `Ini.parse_withReturns`: documents are read so, and when that makes no difference.
-/

namespace Munch.Ini

open Regex Session

/-- A text with `\r\n` for its line ends. -/
def withReturns (cs : List Char) : List Char :=
  cs.flatMap fun c => if c = '\n' then ['\r', '\n'] else [c]

/-- Takes line number `number`, which ends in `\r\n`, into account. Unless the rest of the line is
blank, the `\r` belongs to it. -/
def State.readReturn (s : State) (number : Nat) (line : List Char) : State :=
  if line.all isBlank then s else s.readLine number (line ++ ['\r'])

/-- Takes lines from number `number` on into account, all of which end in `\r\n` but the last. -/
def State.readReturns (s : State) (number : Nat) : List (List Char) → State
  | [] => s
  | [line] => s.readLine number line
  | line :: next :: lines => (s.readReturn number line).readReturns (number + 1) (next :: lines)

/-- The document that the lines of a source make up, and the numbers of the lines that could not be
read, if all but the last end in `\r\n`. -/
def readReturns (source : List Char) : Document × List Nat :=
  let s := State.readReturns {} 1 (source.splitOn '\n')
  (s.document, s.badLines.reverse)

theorem State.readReturns_cons (s : State) (number : Nat) (line : List Char)
    {lines : List (List Char)} (h : lines ≠ []) : s.readReturns number (line :: lines) =
      (s.readReturn number line).readReturns (number + 1) lines := by
  cases lines with
  | nil => exact absurd rfl h
  | cons next lines => rfl

theorem withReturns_of_mem {line : List Char} (h : ∀ c ∈ line, c ≠ '\n') (rest : List Char) :
    withReturns (line ++ rest) = line ++ withReturns rest := by
  induction line with
  | nil => rfl
  | cons c line ih =>
    have hc : withReturns (c :: (line ++ rest)) = c :: withReturns (line ++ rest) := by
      simp [withReturns, h c (by simp)]
    rw [List.cons_append, hc, ih fun d hd => h d (by simp [hd]), List.cons_append]

theorem withReturns_newline (rest : List Char) :
    withReturns ('\n' :: rest) = '\r' :: '\n' :: withReturns rest := rfl

/-! ## Lines with a `\r` -/

section Line

variable {line : List Char}

theorem headingOf?_return (line : List Char) : headingOf? (line ++ ['\r']) = none := by
  rw [Option.eq_none_iff_forall_ne_some]
  intro name hname
  obtain ⟨hstrip, -⟩ := headingOf?_eq_some_iff.1 hname
  obtain ⟨lead, trail, hs⟩ := exists_stripped (line ++ ['\r'])
  rw [hstrip, ← List.cons_append] at hs
  have hlast := congrArg List.getLast? hs.eq
  rw [List.getLast?_concat] at hlast
  cases ht : trail.getLast? with
  | some c =>
    have hc : isBlank c := hs.trail_blank c (List.mem_of_getLast? ht)
    rw [List.getLast?_append, List.getLast?_append, ht, Option.some_or, Option.some_or,
      Option.some.injEq] at hlast
    subst hlast
    revert hc
    decide
  | none =>
    rw [List.getLast?_eq_none_iff.1 ht, List.append_nil, List.getLast?_append, List.getLast?_concat]
      at hlast
    cases hlast

/-- A `\r` at its end makes no line an entry. -/
theorem entryOf?_return (h : entryOf? line = none) : entryOf? (line ++ ['\r']) = none := by
  rw [Option.eq_none_iff_forall_ne_some]
  rintro ⟨key, value⟩ he
  obtain ⟨before, after, hcut, hbefore, hkey, -, hstart⟩ := entryOf?_eq_some_iff.1 he
  rcases List.eq_nil_or_concat' after with rfl | ⟨after, c, rfl⟩
  · have := congrArg List.getLast? hcut
    simp at this
  · rw [← List.cons_append, ← List.append_assoc] at hcut
    have hline : line = before ++ '=' :: after := (List.append_inj' hcut rfl).1
    rw [entryOf?_eq_some_iff.2 ⟨before, after, hline, hbefore, hkey, rfl, hstart⟩] at h
    cases h

theorem head?_strip_return (h : ¬ line.all isBlank) :
    (strip (line ++ ['\r'])).head? = (strip line).head? := by
  have hne : line.dropWhile isBlank ≠ [] := by
    rw [ne_eq, List.dropWhile_eq_nil_iff, ← List.all_eq_true]
    exact h
  rw [head?_strip, head?_strip, List.dropWhile_append, if_neg (by simpa using hne),
    List.head?_append_of_ne_nil _ hne]

/-- Where a line is neither a heading nor an entry, the `\r` makes no difference. -/
theorem State.readReturn_eq (hheading : headingOf? line = none) (hentry : entryOf? line = none)
    (st : State) (number : Nat) : st.readReturn number line = st.readLine number line := by
  rw [readReturn, readLine_of_none hheading hentry]
  split
  next hblank =>
    rw [if_pos (isIgnored_eq_true_iff.2 (.inl (List.all_eq_true.1 hblank)))]
  next hblank =>
    rw [readLine_of_none (headingOf?_return line) (entryOf?_return hentry), isIgnored, isIgnored,
      head?_strip_return hblank]

theorem not_whole_of_blank (h : line.all isBlank) : ¬ Whole (line ++ ['\r']) := by
  have hblank := List.all_eq_true.1 h
  have hstripped : Stripped (line ++ ['\r']) line ['\r'] [] :=
    ⟨rfl, hblank, by simp, by simp [isBlank], by simp [isBlank]⟩
  rintro (⟨name, hname⟩ | ⟨e, he⟩ | ⟨c, hc, hmark⟩)
  · rw [headingOf?_return] at hname
    cases hname
  · have hnone : entryOf? line = none := by
      rw [entryOf?, List.dropWhile_eq_nil_iff.2]
      intro c hc
      exact decide_eq_true (ne_of_isBlank (hblank c hc)).2.1
    rw [entryOf?_return hnone] at he
    cases he
  · rw [hstripped.strip_eq] at hc
    obtain rfl : '\r' = c := by simpa using hc
    revert hmark
    decide

end Line

/-! ## Sessions -/

theorem takes_return {p : Cursor} {rest : List Char} (hp : p.rest = '\r' :: '\n' :: rest) :
    Takes p ['\r', '\n'] id :=
  takes_of_newlineExpr (.of_return hp) hp (by simp) (by simp [isBlank])
    (matchAt_newlineExpr_of_return hp)

/-- A session at the start of line number `number`. -/
structure Starts (s : Session Kind) (rest : List Char) (number : Nat) : Prop extends Reading s where
  rest : s.cursor.rest = rest
  lineStart : Look.lineStart.holds s.cursor
  tracker : s.tracker = some ⟨number, 1, false⟩

namespace Starts

variable {s : Session Kind} {line next source : List Char} {number : Nat} {st : State}

/-- Behind a line end a line starts. -/
theorem of_newline {s : Session Kind} (h : Reading s) (number : Nat) {text : List Char}
    (hp : s.cursor.rest = text ++ '\n' :: next) (ht : Takes s.cursor (text ++ ['\n']) id)
    (htracker : s.tracker.map (·.advance (text ++ ['\n'])) = some ⟨number, 1, false⟩) :
    ∃ after, Starts after next number ∧
      ∀ st, s.tokens.foldl State.add st = after.tokens.foldl State.add st := by
  have hp' : s.cursor.rest = (text ++ ['\n']) ++ next := by rw [hp, List.append_cons]
  obtain ⟨after, hafter, hcursor, htracker', hread⟩ := h.take hp' (by simp) ht
  refine ⟨after, ⟨hafter, by rw [hcursor, Cursor.past_rest], ?_, htracker'.trans htracker⟩, hread⟩
  rw [hcursor, Look.holds, Cursor.past, List.getLast?_concat]
  rfl

/-- A session reads a line that ends in `\r\n` with its `\r`. -/
theorem read_return (h : Starts s (line ++ '\r' :: '\n' :: next) number)
    (hline : ∀ c ∈ line, c ≠ '\n' ∧ c ≠ '\r') (hst : st.badLines.head? ≠ some number) :
    ∃ after, Starts after next (number + 1) ∧
      s.tokens.foldl State.add st = after.tokens.foldl State.add (st.readReturn number line) := by
  have hp : s.cursor.rest = (line ++ ['\r']) ++ '\n' :: next := by
    rw [h.rest, List.append_assoc]
    rfl
  have hmem : ∀ c ∈ line ++ ['\r'], c ≠ '\n' := by
    simp only [List.mem_append, List.mem_singleton]
    rintro c (hc | rfl)
    · exact (hline c hc).1
    · decide
  have htail : ∀ c ∈ ('\n' :: next).head?, c = '\n' := by simp
  by_cases hwhole : Whole (line ++ ['\r'])
  · -- The token ends behind the `\r`, which has begun the next line for the tracker.
    have hblank : ¬ line.all isBlank := fun hb => not_whole_of_blank hb hwhole
    have hfirst : ∀ c ∈ (line ++ ['\r']).head?, c ≠ '\n' ∧ c ≠ '\r' := by
      have hne : line ≠ [] := by
        rintro rfl
        exact hblank rfl
      rw [List.head?_append_of_ne_nil _ hne]
      exact fun c hc => hline c (List.mem_of_mem_head? hc)
    obtain ⟨mid, hmid, hcursor, htracker, hread⟩ := h.toReading.take hp (by simp)
      (takes_line h.lineStart hp htail hmem hfirst hwhole number)
    have hrest : mid.cursor.rest = [] ++ '\n' :: next := by rw [hcursor, Cursor.past_rest]; rfl
    rw [h.tracker, Option.map_some, LineTracker.advance_append, advance_of_mem hline] at htracker
    obtain ⟨after, hafter, hread'⟩ := of_newline hmid (number + 1) hrest
      (takes_newline hrest) (by rw [htracker]; rfl)
    refine ⟨after, hafter, ?_⟩
    rw [hread, hread', State.readReturn, if_neg hblank]
  · have hinside : Inside s line ('\r' :: '\n' :: next) number :=
      ⟨h.toReading, h.rest, hline, by simp [isBlank], 1, h.tracker⟩
    have hquiet := quiet_of_not_whole hp htail hmem hwhole
    obtain ⟨mid, hmid, hread⟩ := hinside.read_quiet (fun _ => hquiet) st
    obtain ⟨column, htracker⟩ := hmid.tracker
    have hrest : mid.cursor.rest = ['\r'] ++ '\n' :: next := hmid.rest
    obtain ⟨after, hafter, hread'⟩ := of_newline hmid.toReading (number + 1) hrest
      (takes_return hrest) (by rw [htracker]; rfl)
    refine ⟨after, hafter, ?_⟩
    rw [hread, hread', State.readReturn, State.readLine_of_not_whole hwhole hst]
    simp [isBlank]

/-- A session reads all lines so, and the last one as it is. -/
theorem read_returns (h : Starts s (withReturns source) number) (hsource : '\r' ∉ source)
    (hst : ∀ n ∈ st.badLines.head?, n < number) :
    s.tokens.foldl State.add st = st.readReturns number (source.splitOn '\n') := by
  induction hlen : source.length using Nat.strongRecOn generalizing s source number st with
  | _ len ih =>
    obtain ⟨line, tail, rfl, hline, htail⟩ := exists_line source
    have hnotmem : '\n' ∉ line := fun hmem => hline '\n' hmem rfl
    have hmem : ∀ c ∈ line, c ≠ '\n' ∧ c ≠ '\r' := by
      refine fun c hc => ⟨hline c hc, ?_⟩
      rintro rfl
      exact hsource (by simp [hc])
    have hhead : st.badLines.head? ≠ some number := fun hn => Nat.lt_irrefl _ (hst number hn)
    rw [withReturns_of_mem hline] at h
    cases tail with
    | nil =>
      have hstands : Stands s line [] number :=
        ⟨h.sound, h.types, h.rest, hmem, by simp, by simp, 1, h.tracker⟩
      obtain ⟨after, hafter, hread⟩ := hstands.read_line h.lineStart hhead
      rw [hread, tokens_of_rest_eq_nil hafter.rest, List.append_nil,
        List.splitOn_eq_singleton hnotmem]
      rfl
    | cons c rest =>
      obtain rfl := htail c rfl
      rw [withReturns_newline] at h
      obtain ⟨after, hafter, hread⟩ := h.read_return hmem hhead
      have hlt : rest.length < len := by
        rw [← hlen, List.length_append, List.length_cons]
        omega
      have hst' : ∀ n ∈ (st.readReturn number line).badLines.head?, n < number + 1 := by
        rw [State.readReturn]
        split
        · exact fun n hn => Nat.lt_succ_of_lt (hst n hn)
        · exact State.lt_of_mem_readLine hst _
      rw [hread, ih rest.length hlt hafter (fun hmem => hsource (by simp [hmem])) hst' rfl,
        List.splitOn_append_cons_self_of_not_mem hnotmem,
        State.readReturns_cons _ _ _ (List.splitOn_ne_nil _ _)]

end Starts

/-! ## Documents -/

theorem State.readReturns_eq {lines : List (List Char)}
    (h : ∀ line ∈ lines.dropLast, headingOf? line = none ∧ entryOf? line = none) (st : State)
    (number : Nat) : st.readReturns number lines = (lines.zipIdx number).foldl
      (fun (st : State) (line, number) => st.readLine number line) st := by
  induction lines generalizing st number with
  | nil => rfl
  | cons line lines ih =>
    cases lines with
    | nil => rfl
    | cons next lines =>
      obtain ⟨hheading, hentry⟩ := h line (by simp)
      rw [readReturns, readReturn_eq hheading hentry, List.zipIdx_cons, List.foldl_cons]
      exact ih (fun l hl => h l (by simp [hl])) _ _

/-- With `\r\n` for its line ends a source has the document and the bad lines that its lines make up
if each but the last is read with a `\r`. They are those of the source itself if none of these lines
is a heading or an entry. -/
theorem parse_withReturns {source : List Char} (h : '\r' ∉ source) :
    parse (withReturns source) = .ok (readReturns source) ∧
      ((∀ line ∈ (source.splitOn '\n').dropLast, headingOf? line = none ∧ entryOf? line = none) →
        parse (withReturns source) = parse source) := by
  have hstarts : Starts (tokenizer.session (withReturns source)) (withReturns source) 1 :=
    ⟨reading_session _, rfl, rfl, rfl⟩
  have hscan : (tokenizer.scan (withReturns source)).foldl State.add {} = _ :=
    hstarts.read_returns h (by simp)
  refine ⟨?_, fun hlines => ?_⟩
  · rw [parse_eq, ofTokens, hscan]
    rfl
  · rw [parse_eq, parse_eq, ofTokens, ofTokens, hscan, foldl_add_scan h,
      State.readReturns_eq hlines]

/-- An entry keeps the blanks and the `\r` behind its value; the line that cannot be read and the
blank and the commented lines are those of the source with `\n`. -/
theorem parse_withReturns_of_lines :
    let source := "a = 1 \n;c\n \n!\nb=2".toList
    '\r' ∉ source ∧ parse (withReturns source) =
      .ok ([("", [("a", "1 \r"), ("b", "2")])], [4]) := by
  refine ⟨by decide, (parse_withReturns (by decide)).1.trans ?_⟩
  decide +kernel

/-- A heading and an entry in front of `\r\n` are not what they are in front of `\n`. -/
theorem parse_withReturns_ne :
    let source := "[s]\na=1\n".toList
    '\r' ∉ source ∧ parse source = .ok ([("s", [("a", "1")])], []) ∧
      parse (withReturns source) = .ok ([("", [("a", "1\r")])], [1]) ∧
      parse (withReturns source) ≠ parse source := by
  dsimp only
  rw [parse_eq, parse_eq]
  refine ⟨by decide, ?_, ?_, ?_⟩ <;> decide +kernel

end Munch.Ini
