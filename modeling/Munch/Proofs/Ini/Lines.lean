import Mathlib.Data.List.DropRight
import Munch.Ini

/-!
# Reading line by line

A reading of INI documents without tokens: the source is cut at its line ends, and each line is told
by the characters in it, without the spaces and tabs at its ends.

* `Ini.headingOf?`, `Ini.entryOf?`, `Ini.isIgnored`: what a line is.
* `Ini.readLines`: the document of a source and the numbers of the lines that are none of these.
-/

namespace Munch.Ini

/-! ## Spaces and tabs -/

/-- Spaces and tabs; all other blanks are part of what is read. -/
def isBlank (c : Char) : Bool := c = ' ' || c = '\t'

/-- A text without the spaces and tabs at both of its ends. -/
def strip (cs : List Char) : List Char := (cs.dropWhile isBlank).rdropWhile isBlank

/-- `text` stands between spaces and tabs, and neither begins nor ends with one. If it is empty, all
of them stand in front of it. -/
structure Stripped (cs lead text trail : List Char) : Prop where
  eq : cs = lead ++ (text ++ trail)
  lead_blank : ∀ c ∈ lead, isBlank c
  trail_blank : ∀ c ∈ trail, isBlank c
  head : ∀ c ∈ (text ++ trail).head?, ¬ isBlank c
  last : ∀ c ∈ text.getLast?, ¬ isBlank c

section Cut

variable {p : Char → Bool} {as bs : List Char}

/-- Cutting a text where a condition first fails. -/
theorem dropWhile_append_eq (has : ∀ c ∈ as, p c) (hbs : ∀ c ∈ bs.head?, ¬ p c) :
    (as ++ bs).dropWhile p = bs := by
  rw [List.dropWhile_append_of_pos has]
  cases bs with
  | nil => rfl
  | cons b bs => exact List.dropWhile_cons_of_neg (hbs b rfl)

theorem takeWhile_append_eq (has : ∀ c ∈ as, p c) (hbs : ∀ c ∈ bs.head?, ¬ p c) :
    (as ++ bs).takeWhile p = as := by
  rw [List.takeWhile_append_of_pos has]
  cases bs with
  | nil => rw [List.takeWhile_nil, List.append_nil]
  | cons b bs => rw [List.takeWhile_cons_of_neg (hbs b rfl), List.append_nil]

theorem rdropWhile_append_eq (hbs : ∀ c ∈ bs, p c) (has : ∀ c ∈ as.getLast?, ¬ p c) :
    (as ++ bs).rdropWhile p = as := by
  rw [List.rdropWhile, List.reverse_append,
    dropWhile_append_eq (by simpa using hbs) (by simpa using has), List.reverse_reverse]

end Cut

theorem exists_stripped (cs : List Char) : ∃ lead trail, Stripped cs lead (strip cs) trail := by
  refine ⟨cs.takeWhile isBlank, (cs.dropWhile isBlank).rtakeWhile isBlank, ?_, ?_, ?_, ?_, ?_⟩
  · rw [strip, List.rdropWhile_append_rtakeWhile, List.takeWhile_append_dropWhile]
  · exact fun c hc => List.mem_takeWhile_imp hc
  · exact fun c hc => List.mem_rtakeWhile_imp hc
  · intro c hc
    rw [strip, List.rdropWhile_append_rtakeWhile] at hc
    have := List.head?_dropWhile_not isBlank cs
    rw [Option.mem_def.1 hc] at this
    simpa using this
  · intro c hc
    obtain ⟨t, ht⟩ := List.getLast?_eq_some_iff.1 hc
    have hne : (cs.dropWhile isBlank).rdropWhile isBlank ≠ [] := by
      rw [← strip, ht]
      simp
    have hlast : ((cs.dropWhile isBlank).rdropWhile isBlank).getLast hne = c :=
      (List.getLast_eq_iff_getLast?_eq_some hne).2 hc
    rw [← hlast]
    exact List.rdropWhile_last_not isBlank _ hne

theorem Stripped.strip_eq {cs lead text trail : List Char} (h : Stripped cs lead text trail) :
    strip cs = text := by
  rw [strip, h.eq]
  cases text with
  | nil =>
    rw [List.nil_append, List.dropWhile_append_of_pos h.lead_blank,
      List.dropWhile_eq_nil_iff.2 h.trail_blank, List.rdropWhile_nil]
  | cons c text =>
    rw [dropWhile_append_eq h.lead_blank h.head, rdropWhile_append_eq h.trail_blank h.last]

theorem head?_strip (cs : List Char) : (strip cs).head? = (cs.dropWhile isBlank).head? := by
  obtain ⟨lead, trail, h⟩ := exists_stripped cs
  have hdrop : cs.dropWhile isBlank = strip cs ++ trail := by
    conv_lhs => rw [h.eq]
    exact dropWhile_append_eq h.lead_blank h.head
  rw [hdrop]
  cases hs : strip cs with
  | cons c text => rfl
  | nil =>
    cases ht : trail with
    | nil => rfl
    | cons c trail =>
      have hhead := h.head c (by rw [hs, ht]; rfl)
      exact absurd (h.trail_blank c (by simp [ht])) hhead

theorem strip_eq_nil_iff {cs : List Char} : strip cs = [] ↔ ∀ c ∈ cs, isBlank c := by
  constructor
  · intro h
    obtain ⟨lead, trail, hs⟩ := exists_stripped cs
    intro c hc
    rw [hs.eq, h, List.nil_append] at hc
    rcases List.mem_append.1 hc with hc | hc
    · exact hs.lead_blank c hc
    · exact hs.trail_blank c hc
  · intro h
    rw [strip, List.dropWhile_eq_nil_iff.2 h, List.rdropWhile_nil]

/-- The end of a stripped text holds a character that is neither a space nor a tab. -/
theorem Stripped.exists_of_suffix {cs lead text trail as bs : List Char}
    (h : Stripped cs lead text trail) (hab : as ++ bs = text) (hbs : bs ≠ []) :
    ∃ c ∈ bs, ¬ isBlank c := by
  refine ⟨bs.getLast hbs, List.getLast_mem hbs, h.last _ ?_⟩
  rw [← hab, List.getLast?_append_of_ne_nil _ hbs]
  exact List.getLast?_eq_some_getLast hbs

/-! ## Lines -/

/-- The name in a line that begins a section: the first `]` is the last character. -/
def headingOf? (line : List Char) : Option (List Char) :=
  match strip line with
  | '[' :: inner =>
    if inner.dropWhile (· ≠ ']') = [']'] then some (inner.takeWhile (· ≠ ']')) else none
  | _ => none

/-- Whether a key can begin with a character. -/
def startsKey (c : Char) : Bool := c ≠ ';' && c ≠ '#' && !Unicode.whiteSpace.contains c

/-- The key and the value of a line, which stand in front of the first `=` and behind it. -/
def entryOf? (line : List Char) : Option (List Char × List Char) :=
  match line.dropWhile (· ≠ '=') with
  | [] => none
  | _ :: after =>
    let key := strip (line.takeWhile (· ≠ '='))
    if key.head?.any startsKey then some (key, strip after) else none

/-- Whether a line is empty or a comment. -/
def isIgnored (line : List Char) : Bool := (strip line).head?.all fun c => c = ';' || c = '#'

theorem isIgnored_eq_true_iff {line : List Char} : isIgnored line = true ↔
    (∀ c ∈ line, isBlank c) ∨ ∃ c ∈ (strip line).head?, c = ';' ∨ c = '#' := by
  rw [isIgnored, ← strip_eq_nil_iff]
  cases strip line with
  | nil => simp
  | cons c text => simp

/-- Takes line number `number` into account. -/
def State.readLine (s : State) (number : Nat) (line : List Char) : State :=
  match headingOf? line, entryOf? line with
  | some name, _ =>
    let name := String.ofList (trim name)
    { s with document := s.document.addSection name, current := name }
  | none, some (key, value) =>
    { s with document :=
        s.document.setEntry s.current (String.ofList key) (String.ofList value) }
  | none, none => if isIgnored line then s else { s with badLines := number :: s.badLines }

/-- The document that the lines of a source make up, and the numbers of the lines that could not be
read; the first line has number 1. -/
def readLines (source : List Char) : Document × List Nat :=
  let s := ((source.splitOn '\n').zipIdx 1).foldl
    (fun (s : State) (line, number) => s.readLine number line) {}
  (s.document, s.badLines.reverse)

/-! ## What lines are made of -/

/-- A text begins with a line. -/
theorem exists_line (cs : List Char) : ∃ line tail, cs = line ++ tail ∧ (∀ c ∈ line, c ≠ '\n') ∧
    ∀ c ∈ tail.head?, c = '\n' := by
  refine ⟨cs.takeWhile (fun c => decide (c ≠ '\n')), cs.dropWhile (fun c => decide (c ≠ '\n')),
    List.takeWhile_append_dropWhile.symm, fun c hc => by simpa using List.mem_takeWhile_imp hc, ?_⟩
  intro c hc
  have := List.head?_dropWhile_not (fun c => decide (c ≠ '\n')) cs
  rw [Option.mem_def.1 hc] at this
  simpa using this

theorem headingOf?_eq_some_iff {line name : List Char} :
    headingOf? line = some name ↔ strip line = '[' :: (name ++ [']']) ∧ ']' ∉ name := by
  rw [headingOf?]
  constructor
  · intro h
    split at h
    next inner hstrip =>
      split at h
      next hdrop =>
        obtain rfl := Option.some.inj h
        refine ⟨?_, fun hmem => by simpa using List.mem_takeWhile_imp hmem⟩
        rw [hstrip, ← hdrop, List.takeWhile_append_dropWhile]
      · cases h
    · cases h
  · rintro ⟨hstrip, hname⟩
    have hmem : ∀ c ∈ name, decide (c ≠ ']') = true := by
      intro c hc
      simp only [ne_eq, decide_eq_true_eq]
      rintro rfl
      exact hname hc
    rw [hstrip]
    change (if (name ++ [']']).dropWhile (fun c => decide (c ≠ ']')) = [']'] then
      some ((name ++ [']']).takeWhile fun c => decide (c ≠ ']')) else none) = some name
    rw [dropWhile_append_eq hmem (by simp), takeWhile_append_eq hmem (by simp), if_pos rfl]

theorem entryOf?_eq_some_iff {line key value : List Char} :
    entryOf? line = some (key, value) ↔ ∃ before after, line = before ++ '=' :: after ∧
      '=' ∉ before ∧ strip before = key ∧ strip after = value ∧ ∃ c ∈ key.head?, startsKey c := by
  rw [entryOf?]
  constructor
  · intro h
    split at h
    · cases h
    next c after hdrop =>
      dsimp only at h
      split at h
      next hkey =>
        cases h
        have hc := List.head?_dropWhile_not (fun c => decide (c ≠ '=')) line
        rw [hdrop] at hc
        obtain rfl : c = '=' := by simpa using hc
        refine ⟨_, after, ?_, fun hmem => by simpa using List.mem_takeWhile_imp hmem, rfl, rfl, ?_⟩
        · rw [← hdrop, List.takeWhile_append_dropWhile]
        · simpa [Option.any_eq_true] using hkey
      · cases h
  · rintro ⟨before, after, rfl, hbefore, rfl, rfl, hkey⟩
    have hmem : ∀ c ∈ before, decide (c ≠ '=') = true := by
      intro c hc
      simp only [ne_eq, decide_eq_true_eq]
      rintro rfl
      exact hbefore hc
    rw [dropWhile_append_eq hmem (by simp), takeWhile_append_eq hmem (by simp)]
    dsimp only
    rw [if_pos ((Option.any_eq_true _ _).2 hkey)]

end Munch.Ini
