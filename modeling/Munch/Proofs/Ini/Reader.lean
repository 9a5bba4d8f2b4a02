import Munch.Proofs.Ini.Matches
import Munch.Proofs.Session.PlainScan

/-!
# The reader agrees with a reading line by line

A session over a document goes through it line by line. A line that is a heading, an entry or a
comment is one token, which is longer than what any other pattern matches there. All other lines are
made of spaces and tabs and of single characters that nothing matches, each of which reports the
line.

* `Ini.Takes`: the token at a place, by its text and what it does.
* `Ini.takes_line`: lines that are one token.
* `Ini.Inside`, `Ini.Stands`: a session inside a line, with what is left of the line.
* `Ini.Inside.read_quiet`: what a session reads of a line that is not one token.
* `Ini.Stands.read_line`, `Ini.Stands.read_newline`: what a session reads of a line and of its end.
-/

namespace Munch.Ini

open Regex Session

/-! ## What a token does -/

/-- Reports a line. -/
def State.mark (s : State) (number : Nat) : State :=
  if s.badLines.head? = some number then s else { s with badLines := number :: s.badLines }

theorem State.mark_mark (s : State) (number : Nat) :
    (s.mark number).mark number = s.mark number := by
  by_cases h : s.badLines.head? = some number
  · rw [mark, mark, if_pos h, if_pos h]
  · rw [mark, if_pos]
    rw [mark, if_neg h]
    rfl

section Add

variable {s : State} {token : Token Kind} {m : Match}

theorem State.add_of_none (h : token.winner = none) : s.add token = s.mark token.location.line := by
  rw [add, Token.tag?, Token.type?, h]
  rfl

theorem State.add_of_between {index : Nat} {e : Expr} (h : token.winner = some (typeOf index e, m))
    (hindex : index = 2 ∨ index = 3 ∨ index = 4) : s.add token = s := by
  rw [add, Token.tag?, Token.type?, h]
  rcases hindex with rfl | rfl | rfl <;> rfl

theorem groupText_eq {type : TokenType Kind} (h : token.winner = some (type, m)) {name : String}
    {i : Nat} (hi : type.matcher.groupIndex? name = some i) {span : Span}
    (hspan : m.groupSpan i = some span) {text : List Char}
    (hslice : Text.slice token.source span = some text) : groupText token name = text := by
  rw [groupText, Token.named?, Token.matcher?, Token.type?, h]
  simp [hi, Token.group?, Token.match?, h, hspan, hslice]

theorem State.add_heading {e : Expr} (h : token.winner = some (typeOf 0 e, m)) {name : List Char}
    (hname : groupText token "name" = name) : s.add token =
      { s with
        document := s.document.addSection (String.ofList (trim name))
        current := String.ofList (trim name) } := by
  rw [add, Token.tag?, Token.type?, h, hname]
  rfl

theorem State.add_entry {e : Expr} (h : token.winner = some (typeOf 1 e, m)) {key value : List Char}
    (hkey : groupText token "key" = key) (hvalue : groupText token "value" = value) : s.add token =
      { s with
        document := s.document.setEntry s.current (String.ofList key) (String.ofList value) } := by
  rw [add, Token.tag?, Token.type?, h, hkey, hvalue]
  rfl

end Add

/-! ## The winner in a line -/

/-- The token at a place is a match of `text`, which changes what has been read by `f`. -/
def Takes (p : Cursor) (text : List Char) (f : State → State) : Prop :=
  ∃ type m, winnerAt tokenizer.types p = some (type, m) ∧
    m.span = ⟨p.offset, p.offset + Text.byteLength text⟩ ∧
    ∀ (token : Token Kind) (st : State), token.winner = some (type, m) →
      (Cursor.ofText token.source).Precedes p → st.add token = f st

section Winner

variable {p : Cursor} {line tail : List Char}

/-- In a line no match is longer than what is left of it. -/
theorem length_le_of_mem {t : TokenType Kind} (ht : t ∈ tokenizer.types)
    (hp : p.rest = line ++ tail) (htail : ∀ c ∈ tail.head?, c = '\n') (hne : line ≠ [])
    (hline : ∀ c ∈ line.head?, c ≠ '\n' ∧ c ≠ '\r') {m : Match}
    (hm : t.matcher.matchAt p = some m) : m.length ≤ Text.byteLength line := by
  simp only [tokenizer, List.mem_cons, List.not_mem_nil, or_false] at ht
  rcases ht with rfl | rfl | rfl | rfl | rfl <;> rw [matchAt_typeOf rfl] at hm
  · exact length_le_of_matchAt (by decide) hp htail hm
  · exact length_le_of_matchAt (by decide) hp htail hm
  · exact length_le_of_matchAt (by decide) hp htail hm
  · have hnone := matchAt_newlineExpr_eq_none (p := p) fun c hc => hline c ?_
    · rw [hnone] at hm
      cases hm
    · rwa [hp, List.head?_append_of_ne_nil _ hne] at hc
  · exact length_le_of_matchAt (by decide) hp htail hm

theorem winnerAt_of_quiet (hq : Quiet p) : winnerAt tokenizer.types p =
    winnerAt [typeOf 3 newlineExpr, typeOf 4 blankExpr] p := by
  have h₀ : (typeOf 0 headingExpr).matcher.matchAt p = none :=
    (matchAt_typeOf rfl p).trans hq.heading
  have h₁ : (typeOf 1 entryExpr).matcher.matchAt p = none :=
    (matchAt_typeOf rfl p).trans hq.entry
  have h₂ : (typeOf 2 commentExpr).matcher.matchAt p = none :=
    (matchAt_typeOf rfl p).trans hq.comment
  rw [tokenizer, winnerAt_cons_of_none h₀, winnerAt_cons_of_none h₁, winnerAt_cons_of_none h₂]

theorem takes_blanks (hq : Quiet p) {text rest : List Char} (hp : p.rest = text ++ rest)
    (hne : text ≠ []) (htext : ∀ c ∈ text, isBlank c) (hrest : ∀ c ∈ rest.head?, ¬ isBlank c) :
    Takes p text id := by
  have hnewline : (typeOf 3 newlineExpr).matcher.matchAt p = none := by
    rw [matchAt_typeOf rfl]
    refine matchAt_newlineExpr_eq_none fun c hc => ?_
    rw [hp, List.head?_append_of_ne_nil _ hne] at hc
    have hc := htext c (List.mem_of_mem_head? hc)
    constructor <;> rintro rfl <;> simp [isBlank] at hc
  refine ⟨typeOf 4 blankExpr, ⟨⟨p.offset, p.offset + Text.byteLength text⟩, []⟩, ?_, rfl,
    fun token st hw _ => State.add_of_between hw (by decide)⟩
  rw [winnerAt_of_quiet hq, winnerAt_cons_of_none hnewline]
  refine winnerAt_cons_of_le ?_ ?_ (by simp)
  · rw [matchAt_typeOf rfl]
    exact matchAt_blankExpr hp hne htext hrest
  · have := List.length_pos_iff.2 hne
    have := Text.length_le_byteLength text
    rw [Match.length, Span.length]
    dsimp only
    omega

/-- The line end where it is matched is the token, as spaces and tabs never begin there. -/
theorem takes_of_newlineExpr (hq : Quiet p) {text rest : List Char} (hp : p.rest = text ++ rest)
    (hne : text ≠ []) (htext : ∀ c ∈ text.head?, ¬ isBlank c)
    (hm : newlineExpr.matchAt p = some ⟨⟨p.offset, p.offset + Text.byteLength text⟩, []⟩) :
    Takes p text id := by
  refine ⟨typeOf 3 newlineExpr, ⟨⟨p.offset, p.offset + Text.byteLength text⟩, []⟩, ?_, rfl,
    fun token st hw _ => State.add_of_between hw (by decide)⟩
  rw [winnerAt_of_quiet hq]
  refine winnerAt_cons_of_le ((matchAt_typeOf rfl p).trans hm) ?_ ?_
  · have := List.length_pos_iff.2 hne
    have := Text.length_le_byteLength text
    rw [Match.length, Span.length]
    dsimp only
    omega
  · intro t ht m hm
    rw [List.mem_singleton.1 ht, matchAt_typeOf rfl, matchAt_blankExpr_eq_none] at hm
    · cases hm
    · rwa [hp, List.head?_append_of_ne_nil _ hne]

theorem takes_newline {rest : List Char} (hp : p.rest = '\n' :: rest) : Takes p ['\n'] id :=
  takes_of_newlineExpr (.of_newline hp) hp (by simp) (by simp [isBlank]) (matchAt_newlineExpr hp)

theorem winnerAt_eq_none (hq : Quiet p) {c : Char} {rest : List Char} (hp : p.rest = c :: rest)
    (hb : ¬ isBlank c) (hc : c ≠ '\n' ∧ c ≠ '\r') : winnerAt tokenizer.types p = none := by
  have hnewline : (typeOf 3 newlineExpr).matcher.matchAt p = none := by
    rw [matchAt_typeOf rfl]
    exact matchAt_newlineExpr_eq_none (by simpa [hp] using hc)
  have hblank : (typeOf 4 blankExpr).matcher.matchAt p = none := by
    rw [matchAt_typeOf rfl]
    exact matchAt_blankExpr_eq_none (by simpa [hp] using hb)
  rw [winnerAt_of_quiet hq, winnerAt_cons_of_none hnewline, winnerAt_cons_of_none hblank]
  rfl

/-- A match of a whole line wins over all types behind its own. -/
theorem winnerAt_of_line {pre post : List (TokenType Kind)} {t : TokenType Kind}
    (htypes : tokenizer.types = pre ++ t :: post) (hpre : ∀ t' ∈ pre, t'.matcher.matchAt p = none)
    (hp : p.rest = line ++ tail) (htail : ∀ c ∈ tail.head?, c = '\n') (hne : line ≠ [])
    (hline : ∀ c ∈ line.head?, c ≠ '\n' ∧ c ≠ '\r') {m : Match}
    (hm : t.matcher.matchAt p = some m)
    (hspan : m.span = ⟨p.offset, p.offset + Text.byteLength line⟩) :
    winnerAt tokenizer.types p = some (t, m) := by
  have hlength : m.length = Text.byteLength line := by
    rw [Match.length, Span.length, hspan, Nat.add_sub_cancel_left]
  have hpos : 0 < m.length := by
    have := List.length_pos_iff.2 hne
    have := Text.length_le_byteLength line
    omega
  have hwinner : winnerAt (t :: post) p = some (t, m) := by
    refine winnerAt_cons_of_le hm hpos fun t' ht' m' hm' => ?_
    rw [hlength]
    exact length_le_of_mem (by simp [htypes, ht']) hp htail hne hline hm'
  rw [htypes]
  clear htypes
  induction pre with
  | nil => exact hwinner
  | cons t' pre ih =>
    rw [List.cons_append, winnerAt_cons_of_none (hpre t' (by simp))]
    exact ih fun t'' ht'' => hpre t'' (by simp [ht''])

end Winner

/-! ## Lines that are one token -/

/-- A line that is a heading, an entry or a comment. -/
def Whole (line : List Char) : Prop :=
  (∃ name, headingOf? line = some name) ∨ (∃ e, entryOf? line = some e) ∨
    ∃ c ∈ (strip line).head?, c = ';' ∨ c = '#'

section Whole

variable {p : Cursor} {line tail : List Char} {number : Nat}

theorem eq_none_of_not_whole (h : ¬ Whole line) : headingOf? line = none ∧ entryOf? line = none ∧
    ∀ c ∈ (strip line).head?, ¬ (c = ';' ∨ c = '#') := by
  simp only [Whole, not_or, ← Option.ne_none_iff_exists', not_not] at h
  exact ⟨h.1, h.2.1, fun c hc hc' => h.2.2 ⟨c, hc, hc'⟩⟩

theorem ne_nil_of_whole (h : Whole line) : line ≠ [] := by
  rintro rfl
  rcases h with ⟨name, hname⟩ | ⟨e, he⟩ | ⟨c, hc, -⟩
  · cases hname
  · cases he
  · cases hc

/-- No pattern for lines matches where the line is none of the three. -/
theorem quiet_of_not_whole (hp : p.rest = line ++ tail) (htail : ∀ c ∈ tail.head?, c = '\n')
    (hline : ∀ c ∈ line, c ≠ '\n') (h : ¬ Whole line) : Quiet p := by
  obtain ⟨hheading, hentry, hmark⟩ := eq_none_of_not_whole h
  exact ⟨matchAt_headingExpr_eq_none hp hline htail hheading,
    matchAt_entryExpr_eq_none hp htail hentry, matchAt_commentExpr_eq_none hp htail hmark⟩

theorem State.readLine_of_none (hheading : headingOf? line = none) (hentry : entryOf? line = none)
    (st : State) (number : Nat) : st.readLine number line =
      if isIgnored line then st else { st with badLines := number :: st.badLines } := by
  rw [readLine, hheading, hentry]

/-- A line that is none of the three is reported unless it is blank. -/
theorem State.readLine_of_not_whole (h : ¬ Whole line) {st : State}
    (hst : st.badLines.head? ≠ some number) :
    st.readLine number line = if line.all isBlank then st else st.mark number := by
  obtain ⟨hheading, hentry, hmark⟩ := eq_none_of_not_whole h
  have hignored : isIgnored line = line.all isBlank := by
    rw [Bool.eq_iff_iff, isIgnored_eq_true_iff, List.all_eq_true, or_iff_left]
    exact fun ⟨c, hc, hc'⟩ => hmark c hc hc'
  rw [readLine_of_none hheading hentry, mark, if_neg hst, ← hignored]

theorem takes_heading (hstart : Look.lineStart.holds p) (hp : p.rest = line ++ tail)
    (htail : ∀ c ∈ tail.head?, c = '\n') (hline : ∀ c ∈ line, c ≠ '\n')
    (hfirst : ∀ c ∈ line.head?, c ≠ '\n' ∧ c ≠ '\r') {name : List Char}
    (hname : headingOf? line = some name) : Takes p line (·.readLine number line) := by
  obtain ⟨hstrip, hmem⟩ := headingOf?_eq_some_iff.1 hname
  obtain ⟨lead, trail, hstripped⟩ := exists_stripped line
  rw [hstrip] at hstripped
  have hline' : line = lead ++ ['['] ++ (name ++ ']' :: trail) := by
    rw [hstripped.eq]
    simp
  have hchars : ∀ c ∈ name, c ≠ ']' ∧ c ≠ '\n' := by
    refine fun c hc => ⟨fun heq => hmem (heq ▸ hc), hline c ?_⟩
    rw [hline']
    simp [hc]
  have hm := matchAt_headingExpr hstart hp htail hstripped hchars
  have htypes : tokenizer.types = [] ++ typeOf 0 headingExpr :: _ := rfl
  refine ⟨typeOf 0 headingExpr, _, winnerAt_of_line htypes (by simp) hp htail
    (ne_nil_of_whole (.inl ⟨name, hname⟩)) hfirst ((matchAt_typeOf rfl p).trans hm) rfl, rfl, ?_⟩
  intro token st hw hsource
  have hrest : p.rest = lead ++ ['['] ++ (name ++ (']' :: trail ++ tail)) := by
    rw [hp, hline', List.append_assoc, List.append_assoc name]
  have hgroup : groupText token "name" = name :=
    groupText_eq hw (i := 1) rfl rfl (hsource.slice_append hrest)
  dsimp only
  rw [State.add_heading hw hgroup, State.readLine, hname]

theorem takes_entry (hstart : Look.lineStart.holds p) (hp : p.rest = line ++ tail)
    (htail : ∀ c ∈ tail.head?, c = '\n') (hline : ∀ c ∈ line, c ≠ '\n')
    (hfirst : ∀ c ∈ line.head?, c ≠ '\n' ∧ c ≠ '\r') (hheading : headingOf? line = none)
    {key value : List Char} (hentry : entryOf? line = some (key, value)) :
    Takes p line (·.readLine number line) := by
  obtain ⟨before, behind, hcut, hbefore, rfl, rfl, hkey⟩ := entryOf?_eq_some_iff.1 hentry
  obtain ⟨lead, trail, hstripped⟩ := exists_stripped before
  obtain ⟨lead', trail', hstripped'⟩ := exists_stripped behind
  have hchars : ∀ c ∈ before, c ≠ '=' ∧ c ≠ '\n' := by
    refine fun c hc => ⟨fun heq => hbefore (heq ▸ hc), hline c ?_⟩
    rw [hcut]
    simp [hc]
  have hchars' : ∀ c ∈ behind, c ≠ '\n' := by
    refine fun c hc => hline c ?_
    rw [hcut]
    simp [hc]
  have hp' : p.rest = before ++ '=' :: (behind ++ tail) := by
    rw [hp, hcut, List.append_assoc, List.cons_append]
  have hm := matchAt_entryExpr hstart hp' htail hstripped hkey hchars hstripped' hchars'
  rw [← hcut] at hm
  have htypes : tokenizer.types = [typeOf 0 headingExpr] ++ typeOf 1 entryExpr :: _ := rfl
  have hpre : (typeOf 0 headingExpr).matcher.matchAt p = none :=
    (matchAt_typeOf rfl p).trans (matchAt_headingExpr_eq_none hp hline htail hheading)
  refine ⟨typeOf 1 entryExpr, _, winnerAt_of_line htypes (by simpa using hpre) hp htail
    (ne_nil_of_whole (.inr (.inl ⟨_, hentry⟩))) hfirst ((matchAt_typeOf rfl p).trans hm) rfl, rfl,
    ?_⟩
  intro token st hw hsource
  have hrest : p.rest = lead ++ (strip before ++ (trail ++ '=' :: (behind ++ tail))) := by
    rw [hp']
    conv_lhs => rw [hstripped.eq]
    rw [List.append_assoc, List.append_assoc]
  have hrest' : p.rest = before ++ '=' :: lead' ++ (strip behind ++ (trail' ++ tail)) := by
    rw [hp']
    conv_lhs => rw [hstripped'.eq]
    rw [List.append_assoc, List.append_assoc, List.append_assoc, List.cons_append]
  have hgroup : groupText token "key" = strip before :=
    groupText_eq hw (i := 1) rfl rfl (hsource.slice_append hrest)
  have hgroup' : groupText token "value" = strip behind :=
    groupText_eq hw (i := 2) rfl rfl (hsource.slice_append hrest')
  dsimp only
  rw [State.add_entry hw hgroup hgroup', State.readLine, hheading, hentry]

theorem takes_comment (hstart : Look.lineStart.holds p) (hp : p.rest = line ++ tail)
    (htail : ∀ c ∈ tail.head?, c = '\n') (hline : ∀ c ∈ line, c ≠ '\n')
    (hfirst : ∀ c ∈ line.head?, c ≠ '\n' ∧ c ≠ '\r') (hheading : headingOf? line = none)
    (hentry : entryOf? line = none) (hmark : ∃ c ∈ (strip line).head?, c = ';' ∨ c = '#') :
    Takes p line (·.readLine number line) := by
  obtain ⟨lead, trail, hstripped⟩ := exists_stripped line
  have hm := matchAt_commentExpr hstart hp htail hstripped hmark hline
  have htypes : tokenizer.types =
    [typeOf 0 headingExpr, typeOf 1 entryExpr] ++ typeOf 2 commentExpr :: _ := rfl
  have hpre : (typeOf 0 headingExpr).matcher.matchAt p = none :=
    (matchAt_typeOf rfl p).trans (matchAt_headingExpr_eq_none hp hline htail hheading)
  have hpre' : (typeOf 1 entryExpr).matcher.matchAt p = none :=
    (matchAt_typeOf rfl p).trans (matchAt_entryExpr_eq_none hp htail hentry)
  refine ⟨typeOf 2 commentExpr, _, winnerAt_of_line htypes (by simpa using ⟨hpre, hpre'⟩) hp htail
    (ne_nil_of_whole (.inr (.inr hmark))) hfirst ((matchAt_typeOf rfl p).trans hm) rfl, rfl, ?_⟩
  intro token st hw _
  dsimp only
  rw [State.add_of_between hw (by decide), State.readLine_of_none hheading hentry,
    if_pos (isIgnored_eq_true_iff.2 (.inr hmark))]

/-- Such a line is one token, which does what reading the line does. -/
theorem takes_line (hstart : Look.lineStart.holds p) (hp : p.rest = line ++ tail)
    (htail : ∀ c ∈ tail.head?, c = '\n') (hline : ∀ c ∈ line, c ≠ '\n')
    (hfirst : ∀ c ∈ line.head?, c ≠ '\n' ∧ c ≠ '\r') (h : Whole line) (number : Nat) :
    Takes p line (·.readLine number line) := by
  cases hheading : headingOf? line with
  | some name => exact takes_heading hstart hp htail hline hfirst hheading
  | none =>
    cases hentry : entryOf? line with
    | some e => exact takes_entry hstart hp htail hline hfirst hheading hentry
    | none =>
      rcases h with ⟨name, hname⟩ | ⟨e, he⟩ | hmark
      · rw [hheading] at hname
        cases hname
      · rw [hentry] at he
        cases he
      · exact takes_comment hstart hp htail hline hfirst hheading hentry hmark

end Whole

/-! ## Sessions in a line -/

/-- A session over a document. -/
structure Reading (s : Session Kind) : Prop where
  sound : s.Sound
  types : s.types = tokenizer.types

section Reading

variable {s : Session Kind} {text rest : List Char}

theorem reading_session (source : List Char) : Reading (tokenizer.session source) :=
  ⟨sound_session _ _, rfl⟩

/-- A match of a text is the next token. -/
theorem Reading.take (h : Reading s) (hp : s.cursor.rest = text ++ rest) (hne : text ≠ [])
    {f : State → State} (ht : Takes s.cursor text f) :
    ∃ after, Reading after ∧ after.cursor = s.cursor.past text rest ∧
      after.tracker = s.tracker.map (·.advance text) ∧
      ∀ st, s.tokens.foldl State.add st = after.tokens.foldl State.add (f st) := by
  obtain ⟨type, m, hw, hm, hadd⟩ := ht
  rw [← h.types] at hw
  obtain ⟨token, after, hreads, hafter, htokens⟩ :=
    h.sound.exists_tokens_eq_cons (by rw [hp]; simp [hne])
  obtain ⟨htext, hrest⟩ := hreads.text_eq hw hp hm
  refine ⟨after, ⟨hafter, hreads.types.trans h.types⟩, ?_, ?_, fun st => ?_⟩
  · rw [hreads.cursor, htext, hrest]
  · rw [hreads.tracker, htext]
  · rw [htokens, List.foldl_cons,
      hadd token st (hreads.winner.trans hw) (hreads.token_source ▸ h.sound.cursor)]

/-- A character at which nothing matches is the next token, which reports its line. -/
theorem Reading.skip (h : Reading s) {c : Char} (hp : s.cursor.rest = c :: rest)
    (hw : winnerAt tokenizer.types s.cursor = none) :
    ∃ after, Reading after ∧ after.cursor = s.cursor.past [c] rest ∧
      after.tracker = s.tracker.map (·.advance [c]) ∧
      ∀ st, s.tokens.foldl State.add st =
        after.tokens.foldl State.add (st.mark s.location.line) := by
  obtain ⟨token, after, hreads, hafter, htokens⟩ :=
    h.sound.exists_tokens_eq_cons (by rw [hp]; simp)
  rw [← h.types] at hw
  have hwinner := hreads.winner.trans hw
  obtain ⟨d, hd⟩ := hreads.single hwinner
  have hrest := hreads.rest
  rw [hp, hd, List.singleton_append] at hrest
  obtain ⟨rfl, rfl⟩ := List.cons.inj hrest
  refine ⟨after, ⟨hafter, hreads.types.trans h.types⟩, ?_, ?_, fun st => ?_⟩
  · rw [hreads.cursor, hd]
    rfl
  · rw [hreads.tracker, hd]
  · rw [htokens, List.foldl_cons, State.add_of_none hwinner, hreads.location]

end Reading

theorem advance_of_mem {text : List Char} (htext : ∀ c ∈ text, c ≠ '\n' ∧ c ≠ '\r')
    (number column : Nat) : (⟨number, column, false⟩ : LineTracker).advance text =
      ⟨number, column + text.length, false⟩ := by
  induction text generalizing column with
  | nil => rfl
  | cons c text ih =>
    obtain ⟨hn, hr⟩ := htext c (by simp)
    rw [LineTracker.advance, List.foldl_cons, ← LineTracker.advance,
      show LineTracker.step ⟨number, column, false⟩ c = ⟨number, column + 1, false⟩ by
        simp [LineTracker.step, hn, hr],
      ih (fun d hd => htext d (by simp [hd])), List.length_cons]
    simp only [LineTracker.mk.injEq, true_and, and_true]
    omega

/-- A session in line number `number`; `line` is left of it in front of its end, with which `tail`
begins. -/
structure Inside (s : Session Kind) (line tail : List Char) (number : Nat) : Prop
    extends Reading s where
  rest : s.cursor.rest = line ++ tail
  line_mem : ∀ c ∈ line, c ≠ '\n' ∧ c ≠ '\r'
  tail_head : ∀ c ∈ tail.head?, ¬ isBlank c
  tracker : ∃ column, s.tracker = some ⟨number, column, false⟩

namespace Inside

variable {s after : Session Kind} {line tail text : List Char} {number : Nat} {st : State}

theorem location_line (h : Inside s line tail number) : s.location.line = number := by
  obtain ⟨column, htracker⟩ := h.tracker
  rw [location, htracker]
  rfl

/-- Behind a part of the line one is still inside of it. -/
theorem past (h : Inside s (text ++ line) tail number) (hafter : Reading after)
    (hcursor : after.cursor = s.cursor.past text (line ++ tail))
    (htracker : after.tracker = s.tracker.map (·.advance text)) :
    Inside after line tail number := by
  obtain ⟨column, hcolumn⟩ := h.tracker
  have hmem : ∀ c ∈ text, c ≠ '\n' ∧ c ≠ '\r' := fun c hc => h.line_mem c (by simp [hc])
  refine ⟨hafter, by rw [hcursor, Cursor.past_rest], fun c hc => h.line_mem c (by simp [hc]),
    h.tail_head, column + text.length, ?_⟩
  rw [htracker, hcolumn, Option.map_some, advance_of_mem hmem]

theorem take (h : Inside s (text ++ line) tail number) (hne : text ≠ []) {f : State → State}
    (ht : Takes s.cursor text f) :
    ∃ after, Inside after line tail number ∧
      after.cursor = s.cursor.past text (line ++ tail) ∧
      ∀ st, s.tokens.foldl State.add st = after.tokens.foldl State.add (f st) := by
  have hp : s.cursor.rest = text ++ (line ++ tail) := by rw [h.rest, List.append_assoc]
  obtain ⟨after, hafter, hcursor, htracker, hread⟩ := h.toReading.take hp hne ht
  exact ⟨after, h.past hafter hcursor htracker, hcursor, hread⟩

theorem skip {c : Char} (h : Inside s (c :: line) tail number)
    (hw : winnerAt tokenizer.types s.cursor = none) :
    ∃ after, Inside after line tail number ∧ after.cursor = s.cursor.past [c] (line ++ tail) ∧
      ∀ st, s.tokens.foldl State.add st = after.tokens.foldl State.add (st.mark number) := by
  obtain ⟨after, hafter, hcursor, htracker, hread⟩ := h.toReading.skip h.rest hw
  rw [h.location_line] at hread
  have h : Inside s ([c] ++ line) tail number := h
  exact ⟨after, h.past hafter hcursor htracker, hcursor, hread⟩

/-- Where no line matches, the line is reported if anything but spaces and tabs is left of it. -/
theorem read_quiet (h : Inside s line tail number) (hq : line ≠ [] → Quiet s.cursor) (st : State) :
    ∃ after, Inside after [] tail number ∧ s.tokens.foldl State.add st =
      after.tokens.foldl State.add (if line.all isBlank then st else st.mark number) := by
  induction hlen : line.length using Nat.strongRecOn generalizing s line st with
  | _ len ih =>
    cases line with
    | nil => exact ⟨s, h, rfl⟩
    | cons c line =>
      have hq := hq (by simp)
      by_cases hb : isBlank c
      · -- All spaces and tabs that follow are one token, which does nothing.
        obtain ⟨text, rest, hline, hne, htext, hrest⟩ : ∃ text rest, c :: line = text ++ rest ∧
            text ≠ [] ∧ (∀ d ∈ text, isBlank d) ∧ ∀ d ∈ rest.head?, ¬ isBlank d := by
          refine ⟨_, _, List.takeWhile_append_dropWhile.symm, ?_,
            fun d hd => List.mem_takeWhile_imp hd, fun d hd => ?_⟩
          · rw [List.takeWhile_cons_of_pos hb]
            simp
          · have := List.head?_dropWhile_not isBlank (c :: line)
            rw [Option.mem_def.1 hd] at this
            simpa using this
        rw [hline] at h hlen ⊢
        have hp : s.cursor.rest = text ++ (rest ++ tail) := by rw [h.rest, List.append_assoc]
        have hnext : ∀ d ∈ (rest ++ tail).head?, ¬ isBlank d := by
          intro d hd
          rw [List.head?_append, Option.mem_def, Option.or_eq_some_iff] at hd
          rcases hd with hd | ⟨-, hd⟩
          · exact hrest d hd
          · exact h.tail_head d hd
        obtain ⟨after, hafter, hcursor, hread⟩ :=
          h.take hne (takes_blanks hq hp hne htext hnext)
        have hquiet : Quiet after.cursor := by
          rw [hcursor]
          exact .past hne (fun d hd => (ne_of_isBlank (htext d hd)).1) _
        have hlt : rest.length < len := by
          have := List.length_pos_iff.2 hne
          rw [List.length_append] at hlen
          omega
        obtain ⟨last, hlast, heq⟩ := ih rest.length hlt hafter (fun _ => hquiet) st rfl
        refine ⟨last, hlast, ?_⟩
        rw [hread, id_eq, heq, List.all_append, List.all_eq_true.2 htext, Bool.true_and]
      · obtain ⟨after, hafter, hcursor, hread⟩ :=
          h.skip (winnerAt_eq_none hq h.rest hb (h.line_mem c (by simp)))
        have hquiet : Quiet after.cursor := by
          rw [hcursor]
          exact .past (by simp) (by simpa using (h.line_mem c (by simp)).1) _
        obtain ⟨last, hlast, heq⟩ :=
          ih line.length (by rw [← hlen]; simp) hafter (fun _ => hquiet) (st.mark number) rfl
        refine ⟨last, hlast, ?_⟩
        rw [hread, heq, State.mark_mark, ite_self, List.all_cons, if_neg (by simp [hb])]

end Inside

/-- A session that stands in line number `number`; `line` is left of it, and `tail` follows. -/
structure Stands (s : Session Kind) (line tail : List Char) (number : Nat) : Prop where
  sound : s.Sound
  types : s.types = tokenizer.types
  rest : s.cursor.rest = line ++ tail
  line_mem : ∀ c ∈ line, c ≠ '\n' ∧ c ≠ '\r'
  tail_head : ∀ c ∈ tail.head?, c = '\n'
  no_return : ∀ c ∈ tail, c ≠ '\r'
  tracker : ∃ column, s.tracker = some ⟨number, column, false⟩

namespace Stands

variable {s after : Session Kind} {line line' tail : List Char} {number : Nat} {st : State}

theorem inside (h : Stands s line tail number) : Inside s line tail number := by
  refine ⟨⟨h.sound, h.types⟩, h.rest, h.line_mem, fun c hc => ?_, h.tracker⟩
  rw [h.tail_head c hc]
  decide

theorem of_inside (h : Stands s line tail number) (hafter : Inside after line' tail number) :
    Stands after line' tail number :=
  ⟨hafter.sound, hafter.types, hafter.rest, hafter.line_mem, h.tail_head, h.no_return,
    hafter.tracker⟩

/-- A session reads a line as the line is read by itself. -/
theorem read_line (h : Stands s line tail number) (hstart : Look.lineStart.holds s.cursor)
    {st : State} (hst : st.badLines.head? ≠ some number) :
    ∃ after, Stands after [] tail number ∧
      s.tokens.foldl State.add st = after.tokens.foldl State.add (st.readLine number line) := by
  have hline : ∀ c ∈ line, c ≠ '\n' := fun c hc => (h.line_mem c hc).1
  by_cases hwhole : Whole line
  · have hinside : Inside s (line ++ []) tail number := by
      rw [List.append_nil]
      exact h.inside
    have htakes := takes_line hstart h.rest h.tail_head hline
      (fun c hc => h.line_mem c (List.mem_of_mem_head? hc)) hwhole number
    obtain ⟨after, hafter, -, hread⟩ := hinside.take (ne_nil_of_whole hwhole) htakes
    exact ⟨after, h.of_inside hafter, hread st⟩
  · have hquiet := quiet_of_not_whole h.rest h.tail_head hline hwhole
    obtain ⟨after, hafter, hread⟩ := h.inside.read_quiet (fun _ => hquiet) st
    rw [State.readLine_of_not_whole hwhole hst]
    exact ⟨after, h.of_inside hafter, hread⟩

/-- The line end is a token that does nothing, and leads to the next line. -/
theorem read_newline {next rest : List Char} (h : Stands s [] ('\n' :: (next ++ rest)) number)
    (hnext : ∀ c ∈ next, c ≠ '\n') (hrest : ∀ c ∈ rest.head?, c = '\n') (st : State) :
    ∃ after, Stands after next rest (number + 1) ∧ Look.lineStart.holds after.cursor ∧
      s.tokens.foldl State.add st = after.tokens.foldl State.add st := by
  have hp : s.cursor.rest = ['\n'] ++ (next ++ rest) := h.rest
  obtain ⟨after, hafter, hcursor, htracker, hread⟩ :=
    h.inside.toReading.take hp (by simp) (takes_newline hp)
  obtain ⟨column, hcolumn⟩ := h.tracker
  refine ⟨after, ⟨hafter.sound, hafter.types, by rw [hcursor, Cursor.past_rest],
    fun c hc => ⟨hnext c hc, ?_⟩, hrest, fun c hc => ?_, 1, ?_⟩, ?_, hread st⟩
  · exact h.no_return c (by simp [hc])
  · exact h.no_return c (by simp [hc])
  · rw [htracker, hcolumn]
    rfl
  · rw [hcursor]
    rfl

end Stands

/-! ## All lines -/

/-- Only the line that is read is reported. -/
theorem State.lt_of_mem_readLine {st : State} {number : Nat}
    (h : ∀ n ∈ st.badLines.head?, n < number) (line : List Char) :
    ∀ n ∈ (st.readLine number line).badLines.head?, n < number + 1 := by
  intro n hn
  rw [readLine] at hn
  split at hn
  · exact Nat.lt_succ_of_lt (h n hn)
  · exact Nat.lt_succ_of_lt (h n hn)
  · split at hn
    · exact Nat.lt_succ_of_lt (h n hn)
    · obtain rfl : number = n := by simpa using hn
      exact Nat.lt_succ_self _

/-- A session reads all lines as they are read one by one. -/
theorem Stands.read_lines {s : Session Kind} {line tail : List Char} {number : Nat}
    (h : Stands s line tail number) (hstart : Look.lineStart.holds s.cursor) {st : State}
    (hst : ∀ n ∈ st.badLines.head?, n < number) : s.tokens.foldl State.add st =
      (((line ++ tail).splitOn '\n').zipIdx number).foldl
        (fun (st : State) (line, number) => st.readLine number line) st := by
  induction hlen : tail.length using Nat.strongRecOn generalizing s line tail number st with
  | _ len ih =>
    have hnotmem : '\n' ∉ line := fun hmem => (h.line_mem '\n' hmem).1 rfl
    obtain ⟨mid, hmid, heq⟩ := h.read_line hstart fun hn => Nat.lt_irrefl _ (hst number hn)
    rw [heq]
    cases tail with
    | nil =>
      rw [tokens_of_rest_eq_nil (by rw [hmid.rest, List.append_nil]), List.append_nil,
        List.splitOn_eq_singleton hnotmem]
      rfl
    | cons c rest =>
      obtain rfl := h.tail_head c rfl
      obtain ⟨next, tail, rfl, hnext, htail⟩ := exists_line rest
      obtain ⟨last, hlast, hstart', heq'⟩ := hmid.read_newline hnext htail (st.readLine number line)
      have hlt : tail.length < len := by
        rw [← hlen, List.length_cons, List.length_append]
        omega
      rw [heq', ih tail.length hlt hlast hstart' (State.lt_of_mem_readLine hst line) rfl,
        List.splitOn_append_cons_self_of_not_mem hnotmem, List.zipIdx_cons, List.foldl_cons]

/-- The tokens of a source without `\r` do what its lines do. -/
theorem foldl_add_scan {source : List Char} (h : '\r' ∉ source) :
    (tokenizer.scan source).foldl State.add {} = ((source.splitOn '\n').zipIdx 1).foldl
      (fun (st : State) (line, number) => st.readLine number line) {} := by
  obtain ⟨line, tail, hsource, hline, htail⟩ := exists_line source
  have hreturn : ∀ c ∈ line ++ tail, c ≠ '\r' := by
    rintro c hc rfl
    exact h (hsource ▸ hc)
  have hstands : Stands (tokenizer.session source) line tail 1 :=
    ⟨sound_session _ _, rfl, hsource, fun c hc => ⟨hline c hc, hreturn c (by simp [hc])⟩, htail,
      fun c hc => hreturn c (by simp [hc]), 1, rfl⟩
  rw [hsource, ← hstands.read_lines rfl (by simp), ← hsource]
  rfl

theorem parse_eq (source : List Char) : parse source = .ok (ofTokens (tokenizer.scan source)) := by
  rw [parse, build_definitions]
  rfl

/-- Every source without `\r` has a document, which is the one that its lines make up, and the
lines that could not be read are those that are no heading, no entry, no comment and not empty. -/
theorem parse_eq_readLines {source : List Char} (h : '\r' ∉ source) :
    parse source = .ok (readLines source) := by
  rw [parse_eq, ofTokens, foldl_add_scan h]
  rfl

/-- A heading with `=` in it wins over an entry, and a line that begins with `=` is not read. -/
theorem parse_of_lines :
    let source := "a = 1\n [ s ]\t\nk = v = w \n;c=d\n==\n[a=b]\nfoo".toList
    '\r' ∉ source ∧ parse source =
      .ok ([("", [("a", "1")]), ("a=b", []), ("s", [("k", "v = w")])], [5, 7]) := by
  refine ⟨by decide, (parse_eq_readLines (by decide)).trans ?_⟩
  decide +kernel

end Munch.Ini
