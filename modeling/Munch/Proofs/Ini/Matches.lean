import Munch.Proofs.Ini.Patterns
import Munch.Proofs.Regex.First

/-!
# What lines match

Which of the patterns of INI documents match at a place, and what, said by the text behind it. The
patterns for whole lines have one lemma that gives the match in a line and one that says in which
lines there is none.

* `Ini.matchAt_headingExpr`, `Ini.matchAt_entryExpr`, `Ini.matchAt_commentExpr`: lines as matches.
* `Ini.Quiet`: a place at which no line is matched.
-/

namespace Munch.Ini

open Regex Regex.Expr

/-! ## Parts of lines -/

section Run

variable {α : Type} {k : Onwards α} {p : Cursor} {captures : Captures} {text rest : List Char}

/-- Spaces and tabs are read up to their end, if one cannot go on in front of one of them. -/
theorem run_blanks (hp : p.rest = text ++ rest) (htext : ∀ c ∈ text, isBlank c)
    (hrest : ∀ c ∈ rest.head?, ¬ isBlank c)
    (hk : ∀ q c, c ∈ q.rest.head? → isBlank c → k q captures = none) :
    blanks.run k p captures = k (p.past text rest) captures :=
  Expr.run_star_of_blocked hp (fun c hc => contains_blankSet.2 (htext c hc))
    (fun c hc h => hrest c hc (contains_blankSet.1 h))
    fun q c hc h => hk q c hc (contains_blankSet.1 h)

theorem run_lineEnd : (Expr.look .lineEnd).run k p captures =
    if p.rest.head?.all (· = '\n') then k p captures else none := rfl

theorem run_lineEnd_eq_none {c : Char} (hc : c ∈ p.rest.head?) (h : c ≠ '\n') :
    (Expr.look .lineEnd).run k p captures = none := by
  rw [run_lineEnd, if_neg]
  rw [Option.mem_def.1 hc, Option.all_some, decide_eq_true_eq]
  exact h

theorem ne_of_isBlank {c : Char} (h : isBlank c) : c ≠ '\n' ∧ c ≠ '=' ∧ c ≠ '[' := by
  refine ⟨?_, ?_, ?_⟩ <;> rintro rfl <;> simp [isBlank] at h

theorem run_lineRest (hp : p.rest = text ++ rest) (htext : ∀ c ∈ text, isBlank c)
    (hrest : ∀ c ∈ rest.head?, ¬ isBlank c) : lineRest.run k p captures =
      if rest.head?.all (· = '\n') then k (p.past text rest) captures else none := by
  rw [lineRest, Expr.run, run_blanks hp htext hrest, run_lineEnd, Cursor.past_rest]
  exact fun q c hc hb => run_lineEnd_eq_none hc (ne_of_isBlank hb).1

/-- Spaces and tabs up to the end of the line are read. -/
theorem run_lineRest_of_end (hp : p.rest = text ++ rest) (htext : ∀ c ∈ text, isBlank c)
    (hrest : ∀ c ∈ rest.head?, c = '\n') :
    lineRest.run k p captures = k (p.past text rest) captures := by
  rw [run_lineRest hp htext, if_pos]
  · rw [Option.all_eq_true]
    exact fun c hc => decide_eq_true (hrest c hc)
  · intro c hc
    rw [hrest c hc]
    decide

/-- What spaces and tabs are read in front of something that matches. -/
theorem exists_of_run_blanks {x : α} (h : blanks.run k p captures = some x) :
    ∃ text rest captures', p.rest = text ++ rest ∧ (∀ c ∈ text, isBlank c) ∧
      k (p.past text rest) captures' = some x := by
  obtain ⟨text, rest, captures', hr, htext, h⟩ := Expr.readsOnly_run blanks h
  exact ⟨text, rest, captures', hr, fun c hc => contains_blankSet.1 (htext c hc), h⟩

theorem exists_of_run_lineRest {x : α} (h : lineRest.run k p captures = some x) :
    ∃ text rest, p.rest = text ++ rest ∧ (∀ c ∈ text, isBlank c) ∧ ∀ c ∈ rest.head?, c = '\n' := by
  obtain ⟨text, rest, captures', hr, htext, h⟩ := exists_of_run_blanks h
  refine ⟨text, rest, hr, htext, fun c hc => ?_⟩
  by_contra hne
  rw [run_lineEnd_eq_none hc hne] at h
  cases h

end Run

section LineStart

variable {e : Expr} {p : Cursor} {lead rest : List Char}

/-- A pattern for lines matches what stands behind the spaces and tabs at the start of one. -/
theorem matchAt_of_lineStart (hstart : Look.lineStart.holds p) (hp : p.rest = lead ++ rest)
    (hlead : ∀ c ∈ lead, isBlank c) (hrest : ∀ c ∈ rest.head?, ¬ isBlank c)
    (hblock : ∀ q c, c ∈ q.rest.head? → isBlank c →
      e.run (fun q captures => some (q.offset, captures)) q {} = none)
    {stop : Nat} {captures : Captures}
    (h : e.run (fun q captures => some (q.offset, captures)) (p.past lead rest) {} =
      some (stop, captures)) :
    (Expr.seq (.look .lineStart) (.seq blanks e)).matchAt p = some ⟨⟨p.offset, stop⟩,
      (List.range (e.groupNames.length - 1)).map fun i => captures.span? (i + 1)⟩ := by
  have hrun : (Expr.seq (.look .lineStart) (.seq blanks e)).run
      (fun q captures => some (q.offset, captures)) p {} = some (stop, captures) := by
    rw [Expr.run, Expr.run, Expr.run]
    dsimp only
    rw [if_pos hstart, run_blanks hp hlead hrest hblock, h]
  exact Expr.matchAt_of_run hrun

theorem exists_of_lineStart {m : Match}
    (h : (Expr.seq (.look .lineStart) (.seq blanks e)).matchAt p = some m) :
    ∃ lead rest captures x, p.rest = lead ++ rest ∧ (∀ c ∈ lead, isBlank c) ∧
      e.run (fun q captures => some (q.offset, captures)) (p.past lead rest) captures = some x := by
  obtain ⟨x, h⟩ := Expr.exists_run_of_matchAt h
  rw [Expr.run, Expr.run, Expr.run] at h
  dsimp only at h
  split at h
  · obtain ⟨lead, rest, captures, hr, hlead, h⟩ := exists_of_run_blanks h
    exact ⟨lead, rest, captures, x, hr, hlead, h⟩
  · cases h

theorem matchAt_of_not_lineStart (h : ¬ Look.lineStart.holds p) :
    (Expr.seq (.look .lineStart) e).matchAt p = none := by
  rw [Expr.matchAt, Expr.run, Expr.run]
  dsimp only
  rw [if_neg h]
  rfl

end LineStart

/-! ## Headings -/

section Heading

variable {p : Cursor} {line tail : List Char}

theorem run_headingName {α : Type} {k : Onwards α} {captures : Captures} {name trail : List Char}
    (hp : p.rest = name ++ ']' :: (trail ++ tail)) (hname : ∀ c ∈ name, c ≠ ']' ∧ c ≠ '\n')
    (htrail : ∀ c ∈ trail, isBlank c) (htail : ∀ c ∈ tail.head?, c = '\n') :
    headingName.run k p captures =
      k (((p.past name (']' :: (trail ++ tail))).past [']'] (trail ++ tail)).past trail tail)
        ((captures.opening 1 p.offset).closing 1 (p.offset + Text.byteLength name)) := by
  rw [headingName, Expr.run, Expr.run]
  dsimp only
  rw [Expr.run_star_of_blocked hp (fun c hc => contains_nameSet.2 (hname c hc))]
  · rw [Expr.run, Expr.run, Expr.readChar_of_cons (Cursor.past_rest ..)
      (CharSet.contains_singleton.2 rfl), run_lineRest_of_end (Cursor.past_rest ..) htrail htail]
    rfl
  · intro c hc h
    obtain rfl : ']' = c := by simpa using hc
    exact (contains_nameSet.1 h).1 rfl
  · intro q c hc h
    refine Expr.readChar_eq_none_of_mem hc fun h' => ?_
    exact (contains_nameSet.1 h).1 (CharSet.contains_singleton.1 h')

/-- A line whose text stands in brackets is matched as a whole, with the name as its group. -/
theorem matchAt_headingExpr (hstart : Look.lineStart.holds p) (hp : p.rest = line ++ tail)
    (htail : ∀ c ∈ tail.head?, c = '\n') {lead name trail : List Char}
    (hline : Stripped line lead ('[' :: (name ++ [']'])) trail)
    (hname : ∀ c ∈ name, c ≠ ']' ∧ c ≠ '\n') :
    headingExpr.matchAt p = some ⟨⟨p.offset, p.offset + Text.byteLength line⟩,
      [some ⟨p.offset + Text.byteLength (lead ++ ['[']),
        p.offset + Text.byteLength (lead ++ ['['] ++ name)⟩]⟩ := by
  have hp : p.rest = lead ++ '[' :: (name ++ ']' :: (trail ++ tail)) := by
    rw [hp, hline.eq]
    simp
  have hrun : (Expr.seq (.chars (.singleton '[')) headingName).run
      (fun q captures => some (q.offset, captures))
      (p.past lead ('[' :: (name ++ ']' :: (trail ++ tail)))) {} =
        some (p.offset + Text.byteLength line, (Captures.opening {} 1
          (p.offset + Text.byteLength (lead ++ ['[']))).closing 1
            (p.offset + Text.byteLength (lead ++ ['['] ++ name))) := by
    rw [Expr.run, Expr.run, Expr.readChar_of_cons (Cursor.past_rest ..)
      (CharSet.contains_singleton.2 rfl),
      run_headingName (Cursor.past_rest ..) hname hline.trail_blank htail, hline.eq]
    simp only [Cursor.past_offset, Text.byteLength_append, Text.byteLength_cons,
      Text.byteLength_nil, Nat.add_assoc, Nat.add_zero]
  refine matchAt_of_lineStart hstart hp hline.lead_blank (by simp [isBlank]) (fun q c hc hb => ?_)
    hrun
  rw [Expr.run, Expr.run]
  refine Expr.readChar_eq_none_of_mem hc fun h => ?_
  exact (ne_of_isBlank hb).2.2 (CharSet.contains_singleton.1 h)

theorem exists_of_headingExpr {m : Match} (h : headingExpr.matchAt p = some m) :
    ∃ lead name trail rest, p.rest = lead ++ '[' :: (name ++ ']' :: (trail ++ rest)) ∧
      (∀ c ∈ lead, isBlank c) ∧ (∀ c ∈ name, c ≠ ']' ∧ c ≠ '\n') ∧ (∀ c ∈ trail, isBlank c) ∧
      ∀ c ∈ rest.head?, c = '\n' := by
  obtain ⟨lead, r₁, captures₁, x, hr₁, hlead, h⟩ := exists_of_lineStart h
  rw [Expr.run, Expr.run] at h
  obtain ⟨c, r₂, hr₂, hc, h⟩ := Expr.exists_of_readChar h
  rw [headingName, Expr.run, Expr.run] at h
  obtain ⟨name, r₃, captures₃, hr₃, hname, h⟩ := Expr.readsOnly_run (.star true nameSet) h
  rw [Expr.run, Expr.run] at h
  obtain ⟨d, r₄, hr₄, hd, h⟩ := Expr.exists_of_readChar h
  obtain ⟨trail, rest, hr₅, htrail, hrest⟩ := exists_of_run_lineRest h
  obtain rfl := CharSet.contains_singleton.1 hc
  obtain rfl := CharSet.contains_singleton.1 hd
  simp only [Cursor.past_rest] at hr₂ hr₃ hr₄ hr₅
  refine ⟨lead, name, trail, rest, ?_, hlead, fun c hc => contains_nameSet.1 (hname c hc), htrail,
    hrest⟩
  rw [hr₁, hr₂, hr₃, hr₄, hr₅]

end Heading

/-! ## Entries -/

/-- Where a text that is not all spaces and tabs follows, it goes on behind them. -/
theorem exists_head_of_append_eq {bs rest text rest' : List Char}
    (h : bs ++ rest = text ++ rest') (htext : ∀ c ∈ text, isBlank c)
    (hbs : ∃ c ∈ bs, ¬ isBlank c) : ∃ c ∈ bs, c ∈ rest'.head? := by
  obtain ⟨c, hc, hb⟩ := hbs
  rcases List.append_eq_append_iff.1 h with ⟨cs, rfl, -⟩ | ⟨cs, rfl, rfl⟩
  · exact absurd (htext c (by simp [hc])) hb
  · cases cs with
    | nil => exact absurd (htext c (by simpa using hc)) hb
    | cons d cs => exact ⟨d, by simp, rfl⟩

section Entry

variable {α : Type} {k : Onwards α} {captures : Captures} {x : α} {p : Cursor} {tail : List Char}

/-- The value of an entry is what is left of the line, but for spaces and tabs at both ends. -/
theorem run_entryValue {after lead value trail : List Char} (hp : p.rest = after ++ tail)
    (hafter : Stripped after lead value trail) (hmem : ∀ c ∈ after, c ≠ '\n')
    (htail : ∀ c ∈ tail.head?, c = '\n')
    (hk : k (((p.past lead (value ++ (trail ++ tail))).past value (trail ++ tail)).past trail tail)
      ((captures.opening 2 (p.offset + Text.byteLength lead)).closing 2
        (p.offset + Text.byteLength lead + Text.byteLength value)) = some x) :
    entryValue.run k p captures = some x := by
  have hvalue : ∀ c ∈ value, c ≠ '\n' := fun c hc => hmem c (by simp [hafter.eq, hc])
  have hp : p.rest = lead ++ (value ++ (trail ++ tail)) := by
    rw [hp, hafter.eq]
    simp only [List.append_assoc]
  have hhead : ∀ c ∈ (value ++ (trail ++ tail)).head?, ¬ isBlank c := by
    intro c hc
    rw [← List.append_assoc, List.head?_append, Option.mem_def, Option.or_eq_some_iff] at hc
    rcases hc with hc | ⟨-, hc⟩
    · exact hafter.head c hc
    · rw [htail c hc]
      decide
  rw [entryValue, Expr.run]
  refine Expr.run_greedy_of_some hp (fun c hc => contains_blankSet.2 (hafter.lead_blank c hc))
    (fun c hc h => hhead c hc (contains_blankSet.1 h)) ?_
  rw [Expr.run, Expr.run]
  refine Expr.run_lazy_of_some (Cursor.past_rest ..)
    (fun c hc => contains_lineSet.2 (hvalue c hc)) ?_ ?_
  · -- In front of the last character that counts there is no end of the line.
    intro as bs hab hbs
    rw [Option.eq_none_iff_forall_ne_some]
    intro y hy
    obtain ⟨text, rest, hr, htext, hend⟩ := exists_of_run_lineRest hy
    rw [Cursor.past_rest] at hr
    obtain ⟨c, hc, hhead⟩ := exists_head_of_append_eq hr htext (hafter.exists_of_suffix hab hbs)
    exact hvalue c (by simp [← hab, hc]) (hend c hhead)
  · rw [run_lineRest_of_end (Cursor.past_rest ..) hafter.trail_blank htail]
    exact hk

/-- What is behind the key is read if there is a `=` behind spaces and tabs. -/
theorem run_entryRest {trail rest : List Char} (hp : p.rest = trail ++ '=' :: rest)
    (htrail : ∀ c ∈ trail, isBlank c) : entryRest.run k p captures =
      entryValue.run k ((p.past trail ('=' :: rest)).past ['='] rest) captures := by
  rw [entryRest, Expr.run, run_blanks hp htrail (by simp [isBlank])]
  · rw [Expr.run, Expr.run, Expr.readChar_of_cons (Cursor.past_rest ..)
      (CharSet.contains_singleton.2 rfl)]
  · intro q c hc hb
    refine Expr.readChar_eq_none_of_mem hc fun h => ?_
    exact (ne_of_isBlank hb).2.1 (CharSet.contains_singleton.1 h)

theorem exists_of_run_entryRest (h : entryRest.run k p captures = some x) :
    ∃ trail rest, p.rest = trail ++ '=' :: rest ∧ ∀ c ∈ trail, isBlank c := by
  rw [entryRest, Expr.run, Expr.run] at h
  obtain ⟨trail, r, captures', hr, htrail, h⟩ := exists_of_run_blanks h
  obtain ⟨c, rest, hr', hc, h⟩ := Expr.exists_of_readChar h
  obtain rfl := CharSet.contains_singleton.1 hc
  rw [Cursor.past_rest] at hr'
  exact ⟨trail, rest, by rw [hr, hr'], htrail⟩

/-- A key is read up to the first place where one can go on. -/
theorem run_entryKey {f : Char} {more rest : List Char} (hp : p.rest = f :: (more ++ rest))
    (hf : keyStartSet.contains f) (hmore : ∀ c ∈ more, keySet.contains c)
    (hblock : ∀ q as bs, as ++ bs = more → bs ≠ [] → q.rest = bs ++ rest → ∀ captures,
      k q captures = none)
    (hk : k ((p.past [f] (more ++ rest)).past more rest)
      ((captures.opening 1 p.offset).closing 1 (p.offset + Text.byteLength (f :: more))) = some x) :
    entryKey.run k p captures = some x := by
  rw [entryKey, Expr.run, Expr.run, Expr.run]
  dsimp only
  rw [Expr.readChar_of_cons hp hf]
  refine Expr.run_lazy_of_some (Cursor.past_rest ..) hmore ?_ ?_
  · exact fun as bs hab hbs => hblock _ as bs hab hbs (Cursor.past_rest ..) _
  · rw [← hk]
    simp only [Cursor.past_offset, Text.byteLength_cons, Text.byteLength_nil, Nat.add_assoc,
      Nat.add_zero]

theorem not_startsKey_of_isBlank {c : Char} (h : isBlank c) : ¬ startsKey c := by
  simp only [isBlank, Bool.or_eq_true, decide_eq_true_eq] at h
  rcases h with rfl | rfl <;> decide

/-- A line with a key in front of its first `=` is matched as a whole, with the key and the value as
its groups. -/
theorem matchAt_entryExpr (hstart : Look.lineStart.holds p) {before after : List Char}
    (hp : p.rest = before ++ '=' :: (after ++ tail)) (htail : ∀ c ∈ tail.head?, c = '\n')
    {lead key trail lead' value trail' : List Char} (hbefore : Stripped before lead key trail)
    (hkey : ∃ c ∈ key.head?, startsKey c) (hmem : ∀ c ∈ before, c ≠ '=' ∧ c ≠ '\n')
    (hafter : Stripped after lead' value trail') (hmem' : ∀ c ∈ after, c ≠ '\n') :
    entryExpr.matchAt p = some ⟨⟨p.offset, p.offset + Text.byteLength (before ++ '=' :: after)⟩,
      [some ⟨p.offset + Text.byteLength lead, p.offset + Text.byteLength (lead ++ key)⟩,
        some ⟨p.offset + Text.byteLength (before ++ '=' :: lead'),
          p.offset + Text.byteLength (before ++ '=' :: lead' ++ value)⟩]⟩ := by
  obtain ⟨f, hf, hstarts⟩ := hkey
  obtain ⟨more, rfl⟩ := List.head?_eq_some_iff.1 hf
  have hrest : p.rest = lead ++ f :: (more ++ (trail ++ '=' :: (after ++ tail))) := by
    rw [hp, hbefore.eq]
    simp only [List.append_assoc, List.cons_append]
  have hmore : ∀ c ∈ more, c ≠ '=' ∧ c ≠ '\n' := fun c hc => hmem c (by simp [hbefore.eq, hc])
  have hrun : (Expr.seq entryKey entryRest).run (fun q captures => some (q.offset, captures))
      (p.past lead (f :: (more ++ (trail ++ '=' :: (after ++ tail))))) {} =
        some (p.offset + Text.byteLength (before ++ '=' :: after),
          ((((Captures.opening {} 1 (p.offset + Text.byteLength lead)).closing 1
            (p.offset + Text.byteLength (lead ++ f :: more))).opening 2
              (p.offset + Text.byteLength (before ++ '=' :: lead'))).closing 2
                (p.offset + Text.byteLength (before ++ '=' :: lead' ++ value)))) := by
    rw [Expr.run]
    refine run_entryKey (Cursor.past_rest ..)
      (contains_keyStartSet.2 ⟨(hmem f (by simp [hbefore.eq])).1, hstarts⟩)
      (fun c hc => contains_keySet.2 (hmore c hc)) ?_ ?_
    · -- In front of the last character of the key there is no `=` behind spaces and tabs.
      intro q as bs hab hbs hq captures
      rw [Option.eq_none_iff_forall_ne_some]
      intro y hy
      obtain ⟨text, rest, hr, htext⟩ := exists_of_run_entryRest hy
      obtain ⟨c, hc, hhead⟩ := exists_head_of_append_eq (hq.symm.trans hr) htext
        (hbefore.exists_of_suffix (show (f :: as) ++ bs = f :: more by rw [← hab]; rfl) hbs)
      obtain rfl : '=' = c := by simpa using hhead
      exact (hmore '=' (by simp [← hab, hc])).1 rfl
    · rw [run_entryRest (Cursor.past_rest ..) hbefore.trail_blank]
      refine run_entryValue (Cursor.past_rest ..) hafter hmem' htail ?_
      rw [hbefore.eq, hafter.eq]
      simp only [Cursor.past_offset, Text.byteLength_append, Text.byteLength_cons,
        Text.byteLength_nil, Nat.add_assoc, Nat.add_zero]
  refine matchAt_of_lineStart hstart hrest hbefore.lead_blank ?_ (fun q c hc hb => ?_) hrun
  · intro c hc hb
    obtain rfl : f = c := by simpa using hc
    exact not_startsKey_of_isBlank hb hstarts
  · rw [entryKey, Expr.run, Expr.run, Expr.run]
    refine Expr.readChar_eq_none_of_mem hc fun h => ?_
    exact not_startsKey_of_isBlank hb (contains_keyStartSet.1 h).2

theorem exists_of_entryExpr {m : Match} (h : entryExpr.matchAt p = some m) :
    ∃ lead f more trail rest, p.rest = lead ++ f :: (more ++ (trail ++ '=' :: rest)) ∧
      (∀ c ∈ lead, isBlank c) ∧ f ≠ '=' ∧ startsKey f ∧ (∀ c ∈ more, c ≠ '=' ∧ c ≠ '\n') ∧
      ∀ c ∈ trail, isBlank c := by
  obtain ⟨lead, r₁, captures₁, x, hr₁, hlead, h⟩ := exists_of_lineStart h
  rw [entryKey, Expr.run, Expr.run, Expr.run] at h
  obtain ⟨f, r₂, hr₂, hf, h⟩ := Expr.exists_of_readChar h
  obtain ⟨more, r₃, captures₃, hr₃, hmore, h⟩ := Expr.readsOnly_run (.star false keySet) h
  obtain ⟨trail, rest, hr₄, htrail⟩ := exists_of_run_entryRest h
  obtain ⟨hne, hstarts⟩ := contains_keyStartSet.1 hf
  simp only [Cursor.past_rest] at hr₂ hr₃ hr₄
  refine ⟨lead, f, more, trail, rest, ?_, hlead, hne, hstarts,
    fun c hc => contains_keySet.1 (hmore c hc), htrail⟩
  rw [hr₁, hr₂, hr₃, hr₄]

end Entry

/-! ## Comments -/

section Comment

variable {p : Cursor} {line tail : List Char}

/-- A line whose text begins with `;` or `#` is matched as a whole. -/
theorem matchAt_commentExpr (hstart : Look.lineStart.holds p) (hp : p.rest = line ++ tail)
    (htail : ∀ c ∈ tail.head?, c = '\n') {lead text trail : List Char}
    (hline : Stripped line lead text trail) (htext : ∃ c ∈ text.head?, c = ';' ∨ c = '#')
    (hmem : ∀ c ∈ line, c ≠ '\n') :
    commentExpr.matchAt p = some ⟨⟨p.offset, p.offset + Text.byteLength line⟩, []⟩ := by
  obtain ⟨c, hc, hmark⟩ := htext
  obtain ⟨more, rfl⟩ := List.head?_eq_some_iff.1 hc
  have hrest : p.rest = lead ++ c :: (more ++ trail ++ tail) := by
    rw [hp, hline.eq]
    simp only [List.append_assoc, List.cons_append]
  have hmore : ∀ d ∈ more ++ trail, lineSet.contains d := by
    intro d hd
    refine contains_lineSet.2 (hmem d ?_)
    rw [hline.eq, List.cons_append]
    simp [List.mem_append.1 hd]
  have hrun : (Expr.seq (.chars commentSet) (.star true lineSet)).run
      (fun q captures => some (q.offset, captures))
      (p.past lead (c :: (more ++ trail ++ tail))) {} =
        some (p.offset + Text.byteLength line, {}) := by
    rw [Expr.run, Expr.run, Expr.readChar_of_cons (Cursor.past_rest ..)
      (contains_commentSet.2 hmark)]
    refine Expr.run_greedy_of_some (Cursor.past_rest ..) hmore ?_ ?_
    · intro d hd h
      exact contains_lineSet.1 h (htail d hd)
    · rw [hline.eq]
      simp only [Cursor.past_offset, Text.byteLength_append, Text.byteLength_cons,
        Text.byteLength_nil, Nat.add_assoc, Nat.add_zero]
  refine matchAt_of_lineStart hstart hrest hline.lead_blank ?_ (fun q d hd hb => ?_) hrun
  · intro d hd
    obtain rfl : c = d := by simpa using hd
    rcases hmark with rfl | rfl <;> decide
  · rw [Expr.run, Expr.run]
    refine Expr.readChar_eq_none_of_mem hd fun h => ?_
    rcases contains_commentSet.1 h with rfl | rfl <;> simp [isBlank] at hb

theorem exists_of_commentExpr {m : Match} (h : commentExpr.matchAt p = some m) :
    ∃ lead c rest, p.rest = lead ++ c :: rest ∧ (∀ d ∈ lead, isBlank d) ∧ (c = ';' ∨ c = '#') := by
  obtain ⟨lead, r, captures, x, hr, hlead, h⟩ := exists_of_lineStart h
  rw [Expr.run, Expr.run] at h
  obtain ⟨c, rest, hr', hc, -⟩ := Expr.exists_of_readChar h
  rw [Cursor.past_rest] at hr'
  exact ⟨lead, c, rest, by rw [hr, hr'], hlead, contains_commentSet.1 hc⟩

end Comment

/-! ## Line ends, spaces and tabs -/

section Between

variable {p : Cursor} {text rest : List Char}

theorem matchAt_newlineExpr (hp : p.rest = '\n' :: rest) :
    newlineExpr.matchAt p = some ⟨⟨p.offset, p.offset + 1⟩, []⟩ := by
  have hread : newlineExpr.ReadsExactly ([] ++ ['\n']) rest :=
    .seq (.omitted (.singleton (by simp))) .singleton
  exact hread.first.matchAt hp

theorem matchAt_newlineExpr_of_return (hp : p.rest = '\r' :: '\n' :: rest) :
    newlineExpr.matchAt p = some ⟨⟨p.offset, p.offset + 2⟩, []⟩ := by
  have hread : newlineExpr.ReadsFirst (['\r'] ++ ['\n']) rest :=
    .seq ReadsExactly.singleton.first.optional ReadsExactly.singleton.first
  exact hread.matchAt hp

/-- Without `\r`, a line end is matched only where it stands. -/
theorem matchAt_newlineExpr_eq_none (h : ∀ c ∈ p.rest.head?, c ≠ '\n' ∧ c ≠ '\r') :
    newlineExpr.matchAt p = none := by
  have hrefuses : newlineExpr.Refuses ([] ++ p.rest) :=
    .seq_of_reads (.omitted (.singleton fun c hc => (h c hc).2)) (.singleton fun c hc => (h c hc).1)
  exact hrefuses.matchAt

/-- Spaces and tabs are matched up to their end. -/
theorem matchAt_blankExpr (hp : p.rest = text ++ rest) (hne : text ≠ [])
    (htext : ∀ c ∈ text, isBlank c) (hrest : ∀ c ∈ rest.head?, ¬ isBlank c) :
    blankExpr.matchAt p = some ⟨⟨p.offset, p.offset + Text.byteLength text⟩, []⟩ := by
  have hread : blankExpr.ReadsFirst text rest :=
    .plus hne (fun c hc => contains_blankSet.2 (htext c hc))
      fun c hc hs => hrest c hc (contains_blankSet.1 hs)
  exact hread.matchAt hp

theorem matchAt_blankExpr_eq_none (h : ∀ c ∈ p.rest.head?, ¬ isBlank c) :
    blankExpr.matchAt p = none := by
  have hrefuses : blankExpr.Refuses p.rest := .plus fun c hc hs => h c hc (contains_blankSet.1 hs)
  exact hrefuses.matchAt

end Between

/-! ## Lines -/

section Line

variable {p : Cursor} {line tail : List Char} {m : Match}

/-- What does not read the line end stays in its line. -/
theorem length_le_of_matchAt {e : Expr} (he : e.mayRead '\n' = false) (hp : p.rest = line ++ tail)
    (htail : ∀ c ∈ tail.head?, c = '\n') (h : e.matchAt p = some m) :
    m.length ≤ Text.byteLength line := by
  obtain ⟨text, rest, hr, htext, hspan⟩ := Expr.exists_of_matchAt h
  have hlength : m.length = Text.byteLength text := by
    rw [Match.length, Span.length, hspan, Nat.add_sub_cancel_left]
  rw [hlength]
  rcases List.append_eq_append_iff.1 (hr.symm.trans hp) with ⟨cs, rfl, -⟩ | ⟨cs, rfl, rfl⟩
  · rw [Text.byteLength_append]
    omega
  · cases cs with
    | nil => rw [List.append_nil]
    | cons c cs =>
      obtain rfl := htail c rfl
      rw [htext '\n' (by simp)] at he
      cases he

/-- None of the patterns for whole lines matches. -/
structure Quiet (p : Cursor) : Prop where
  heading : headingExpr.matchAt p = none
  entry : entryExpr.matchAt p = none
  comment : commentExpr.matchAt p = none

theorem Quiet.of_not_lineStart (h : ¬ Look.lineStart.holds p) : Quiet p :=
  ⟨matchAt_of_not_lineStart h, matchAt_of_not_lineStart h, matchAt_of_not_lineStart h⟩

/-- Inside a line there is no line to match. -/
theorem Quiet.past {text : List Char} (hne : text ≠ []) (htext : ∀ c ∈ text, c ≠ '\n')
    (rest : List Char) : Quiet (p.past text rest) := by
  refine .of_not_lineStart fun h => ?_
  rw [Look.holds, Cursor.past, List.getLast?_eq_some_getLast hne] at h
  exact htext _ (List.getLast_mem hne) (by simpa using h)

/-- Something in front of the line end stands in the line. -/
theorem exists_of_line_eq {text rest : List Char} {c : Char} (h : line ++ tail = text ++ c :: rest)
    (htail : ∀ c ∈ tail.head?, c = '\n') (htext : ∀ c ∈ text, c ≠ '\n') (hc : c ≠ '\n') :
    ∃ after, line = text ++ c :: after ∧ rest = after ++ tail := by
  rcases List.append_eq_append_iff.1 h with ⟨cs, rfl, hcs⟩ | ⟨cs, rfl, hcs⟩
  · -- Here the line ends in front of `c`, and so does the text.
    cases cs with
    | nil => exact absurd (htail c (by rw [hcs]; rfl)) hc
    | cons d cs => exact absurd (htail d (by rw [hcs]; rfl)) (htext d (by simp))
  · cases cs with
    | nil =>
      rw [List.nil_append] at hcs
      exact absurd (htail c (by rw [← hcs]; rfl)) hc
    | cons d cs =>
      obtain ⟨rfl, rfl⟩ := List.cons.inj hcs
      exact ⟨cs, rfl, rfl⟩

theorem eq_of_line_eq {as bs rest : List Char} (h : as ++ rest = bs ++ tail)
    (has : ∀ c ∈ as, c ≠ '\n') (hbs : ∀ c ∈ bs, c ≠ '\n') (hrest : ∀ c ∈ rest.head?, c = '\n')
    (htail : ∀ c ∈ tail.head?, c = '\n') : as = bs := by
  have hcut := congrArg (List.takeWhile fun c => decide (c ≠ '\n')) h
  rwa [takeWhile_append_eq (fun c hc => decide_eq_true (has c hc)) (by simpa using hrest),
    takeWhile_append_eq (fun c hc => decide_eq_true (hbs c hc)) (by simpa using htail)] at hcut

theorem matchAt_headingExpr_eq_none (hp : p.rest = line ++ tail) (hline : ∀ c ∈ line, c ≠ '\n')
    (htail : ∀ c ∈ tail.head?, c = '\n') (h : headingOf? line = none) :
    headingExpr.matchAt p = none := by
  rw [Option.eq_none_iff_forall_ne_some]
  intro m hm
  obtain ⟨lead, name, trail, rest, hr, hlead, hname, htrail, hrest⟩ := exists_of_headingExpr hm
  have hbefore : ∀ c ∈ lead ++ '[' :: name, c ≠ '\n' := by
    simp only [List.mem_append, List.mem_cons]
    rintro c (hc | rfl | hc)
    · exact (ne_of_isBlank (hlead c hc)).1
    · decide
    · exact (hname c hc).2
  rw [hp, show lead ++ '[' :: (name ++ ']' :: (trail ++ rest)) =
    (lead ++ '[' :: name) ++ ']' :: (trail ++ rest) by simp] at hr
  obtain ⟨after, rfl, hafter⟩ := exists_of_line_eq hr htail hbefore (by decide)
  obtain rfl := eq_of_line_eq hafter (fun c hc => (ne_of_isBlank (htrail c hc)).1)
    (fun c hc => hline c (by simp [hc])) hrest htail
  have hlast : ('[' :: name ++ [']']).getLast? = some ']' := List.getLast?_concat
  have hstripped :
      Stripped (lead ++ '[' :: name ++ ']' :: trail) lead ('[' :: name ++ [']']) trail :=
    ⟨by simp, hlead, htrail, by simp [isBlank], by rw [hlast]; simp [isBlank]⟩
  have := headingOf?_eq_some_iff.2 ⟨hstripped.strip_eq, fun hmem => (hname ']' hmem).1 rfl⟩
  rw [h] at this
  cases this

theorem matchAt_entryExpr_eq_none (hp : p.rest = line ++ tail)
    (htail : ∀ c ∈ tail.head?, c = '\n') (h : entryOf? line = none) :
    entryExpr.matchAt p = none := by
  rw [Option.eq_none_iff_forall_ne_some]
  intro m hm
  obtain ⟨lead, f, more, trail, rest, hr, hlead, hne, hf, hmore, htrail⟩ := exists_of_entryExpr hm
  have hblank : ¬ isBlank f := fun hb => not_startsKey_of_isBlank hb hf
  have hnewline : f ≠ '\n' := by
    rintro rfl
    revert hf
    decide
  have hbefore : ∀ c ∈ lead ++ f :: (more ++ trail), c ≠ '=' ∧ c ≠ '\n' := by
    simp only [List.mem_append, List.mem_cons]
    rintro c (hc | rfl | hc | hc)
    · exact ⟨(ne_of_isBlank (hlead c hc)).2.1, (ne_of_isBlank (hlead c hc)).1⟩
    · exact ⟨hne, hnewline⟩
    · exact hmore c hc
    · exact ⟨(ne_of_isBlank (htrail c hc)).2.1, (ne_of_isBlank (htrail c hc)).1⟩
  rw [hp, show lead ++ f :: (more ++ (trail ++ '=' :: rest)) =
    (lead ++ f :: (more ++ trail)) ++ '=' :: rest by simp] at hr
  obtain ⟨after, hline, -⟩ := exists_of_line_eq hr htail (fun c hc => (hbefore c hc).2) (by decide)
  have hstrip : (strip (lead ++ f :: (more ++ trail))).head? = some f := by
    rw [head?_strip, dropWhile_append_eq hlead (by simp [hblank])]
    rfl
  have := entryOf?_eq_some_iff.2 ⟨_, after, hline, fun hmem => (hbefore '=' hmem).1 rfl, rfl, rfl,
    f, hstrip, hf⟩
  rw [h] at this
  cases this

theorem matchAt_commentExpr_eq_none (hp : p.rest = line ++ tail)
    (htail : ∀ c ∈ tail.head?, c = '\n')
    (h : ∀ c ∈ (strip line).head?, ¬ (c = ';' ∨ c = '#')) : commentExpr.matchAt p = none := by
  rw [Option.eq_none_iff_forall_ne_some]
  intro m hm
  obtain ⟨lead, c, rest, hr, hlead, hc⟩ := exists_of_commentExpr hm
  have hne : c ≠ '\n' ∧ isBlank c = false := by
    rcases hc with rfl | rfl <;> decide
  rw [hp] at hr
  obtain ⟨after, rfl, -⟩ := exists_of_line_eq hr htail (fun d hd => (ne_of_isBlank (hlead d hd)).1)
    hne.1
  refine h c ?_ hc
  rw [head?_strip, dropWhile_append_eq hlead (by simp [hne.2])]
  rfl

/-- At a line end there is no line to match. -/
theorem Quiet.of_newline {rest : List Char} (hp : p.rest = '\n' :: rest) : Quiet p := by
  have htail : ∀ c ∈ ('\n' :: rest).head?, c = '\n' := by simp
  have hp : p.rest = [] ++ '\n' :: rest := hp
  exact ⟨matchAt_headingExpr_eq_none hp (by simp) htail rfl, matchAt_entryExpr_eq_none hp htail rfl,
    matchAt_commentExpr_eq_none hp htail (by simp [strip])⟩

/-- At a `\r` that ends a line there is no line to match. -/
theorem Quiet.of_return {rest : List Char} (hp : p.rest = '\r' :: '\n' :: rest) : Quiet p := by
  have htail : ∀ c ∈ ('\n' :: rest).head?, c = '\n' := by simp
  have hp : p.rest = ['\r'] ++ '\n' :: rest := hp
  have hmark : ∀ c ∈ (strip ['\r']).head?, ¬ (c = ';' ∨ c = '#') := by
    intro c hc
    obtain rfl : '\r' = c := Option.some.inj hc
    decide
  exact ⟨matchAt_headingExpr_eq_none hp (by simp) htail rfl, matchAt_entryExpr_eq_none hp htail rfl,
    matchAt_commentExpr_eq_none hp htail hmark⟩

end Line

end Munch.Ini
