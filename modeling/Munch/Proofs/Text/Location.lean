import Mathlib.Data.List.DropRight
import Munch.Text.Location

/-!
# The line and the column of a place

Which line and column come next depends on the text in front of them only: on how many line breaks
it has, and on how many characters it has behind the last character that ends a line. It does not
depend on the pieces in which the text was read, also if a piece ends between `\r` and `\n`.

* `Text.lineBreaks`, `Text.lastLine`: the line breaks of a text, and what is behind the last one.
* `LineTracker.advance_start`: what a tracker knows that has read a text.
* `LineTracker.line_le_advance`, `LineTracker.foldl_advance`: reading more of a text, and reading it
  in pieces.
-/

namespace Munch

namespace Text

/-- The characters that end a line. -/
def isLineEnd (c : Char) : Bool := c = '\n' || c = '\r'

/-- The number of line breaks: `\n`, `\r\n` and a `\r` that no `\n` follows count as one each. -/
def lineBreaks : List Char → Nat
  | '\r' :: '\n' :: cs => lineBreaks cs + 1
  | c :: cs => lineBreaks cs + if isLineEnd c then 1 else 0
  | [] => 0

/-- The characters behind the last one that ends a line. -/
def lastLine (text : List Char) : List Char := text.rtakeWhile (!isLineEnd ·)

/-- A character counts for itself, unless it is a `\r` in front of `\n`. -/
theorem lineBreaks_cons {c : Char} {cs : List Char} (h : ¬ (c = '\r' ∧ cs.head? = some '\n')) :
    lineBreaks (c :: cs) = lineBreaks cs + if isLineEnd c then 1 else 0 := by
  rw [lineBreaks]
  rintro ds rfl rfl
  exact h ⟨rfl, rfl⟩

/-- The `\n` that completes a `\r\n` is no further line break; every other character that ends a
line is one. -/
theorem lineBreaks_concat (cs : List Char) (c : Char) :
    lineBreaks (cs ++ [c]) = lineBreaks cs +
      if c = '\n' ∧ cs.getLast? = some '\r' then 0 else if isLineEnd c then 1 else 0 := by
  fun_induction lineBreaks cs with
  | case1 cs ih =>
    rw [List.cons_append, List.cons_append, lineBreaks, ih]
    cases cs <;> grind
  | case2 d cs hpair ih =>
    cases cs with
    | nil =>
      by_cases h : d = '\r' ∧ c = '\n'
      · obtain ⟨rfl, rfl⟩ := h
        rfl
      · rw [List.singleton_append, lineBreaks_cons (by simpa using h)]
        grind [lineBreaks]
    | cons e cs =>
      have hd : ¬ (d = '\r' ∧ e = '\n') := fun ⟨hd, he⟩ => hpair cs hd (by rw [he])
      rw [List.cons_append, lineBreaks_cons (by simpa using hd), ih]
      grind
  | case3 => simp [lineBreaks]

theorem lastLine_concat (cs : List Char) (c : Char) :
    lastLine (cs ++ [c]) = if isLineEnd c then [] else lastLine cs ++ [c] := by
  rw [lastLine, List.rtakeWhile_concat]
  cases isLineEnd c <;> rfl

theorem lastLine_of_return {cs : List Char} (h : cs.getLast? = some '\r') : lastLine cs = [] := by
  obtain ⟨ds, rfl⟩ := List.getLast?_eq_some_iff.1 h
  rw [lastLine_concat]
  rfl

end Text

namespace LineTracker

theorem advance_append (t : LineTracker) (as bs : List Char) :
    t.advance (as ++ bs) = (t.advance as).advance bs := List.foldl_append

/-- What a tracker knows that has read a text from its start on. -/
theorem advance_start (text : List Char) :
    start.advance text = ⟨1 + Text.lineBreaks text, 1 + (Text.lastLine text).length,
      text.getLast? = some '\r'⟩ := by
  induction text using List.reverseRecOn with
  | nil => rfl
  | append_singleton text c ih =>
    rw [advance_append, ih, Text.lineBreaks_concat, Text.lastLine_concat,
      List.getLast?_concat, advance, List.foldl_cons, List.foldl_nil, step]
    by_cases hreturn : c = '\n' ∧ text.getLast? = some '\r'
    · -- The line break was counted at the `\r`, which left the column at its start.
      obtain ⟨rfl, hlast⟩ := hreturn
      simp [hlast, Text.lastLine_of_return hlast, Text.isLineEnd]
    · by_cases hend : c = '\n' ∨ c = '\r'
      · simp [hreturn, hend, Text.isLineEnd, Nat.add_assoc]
      · obtain ⟨hn, hr⟩ := not_or.1 hend
        simp [hn, hr, Text.isLineEnd, Nat.add_assoc]

/-- A tracker never goes back to an earlier line. -/
theorem line_le_advance (t : LineTracker) (text : List Char) : t.line ≤ (t.advance text).line := by
  induction text generalizing t with
  | nil => exact Nat.le_refl _
  | cons c text ih =>
    have hstep : t.line ≤ (t.step c).line := by
      rw [step]
      split
      · exact Nat.le_refl _
      · split
        · exact Nat.le_succ _
        · exact Nat.le_refl _
    exact hstep.trans (ih (t.step c))

/-- The pieces in which a text is read do not matter. -/
theorem foldl_advance (t : LineTracker) (pieces : List (List Char)) :
    pieces.foldl advance t = t.advance pieces.flatten := by
  induction pieces generalizing t with
  | nil => rfl
  | cons piece pieces ih => rw [List.foldl_cons, ih, List.flatten_cons, advance_append]

end LineTracker

/-- The beginning of a text has no more line breaks than the text. -/
theorem Text.lineBreaks_le_append (as bs : List Char) : lineBreaks as ≤ lineBreaks (as ++ bs) := by
  have h := (LineTracker.start.advance as).line_le_advance bs
  rw [← LineTracker.advance_append, LineTracker.advance_start, LineTracker.advance_start] at h
  exact Nat.le_of_add_le_add_left h

end Munch
