import Mathlib.Tactic.Common
import Munch.Pattern

/-!
# Which flags a text spells

A set of flags is known by its members, and those of a text are the flags whose letters occur in it.
So neither the order of the letters nor their number matters, and `g` makes no difference.

* `Flags.has_union`, `Flags.has_parse`: the members of a union and of a text.
* `Flags.parse_eq_error_iff`: texts with a character that means nothing.
* `Flags.SpelledBy`, `Flags.parse_eq_ok_iff`: the texts that spell a set.
* `Flags.parse_canonical`: reading a text, writing what was read, and reading that again.
-/

namespace Munch

theorem Flag.ofLetter?_letter (f : Flag) : ofLetter? f.letter = some f := by cases f <;> rfl

theorem Flag.letter_of_ofLetter? {c : Char} {f : Flag} (h : ofLetter? c = some f) :
    f.letter = c := by
  unfold ofLetter? at h
  split at h <;> cases h <;> rfl

theorem Flag.letter_injective : Function.Injective letter := fun f g h =>
  Option.some.inj (by rw [← ofLetter?_letter f, h, ofLetter?_letter])

theorem Flag.mem_all (f : Flag) : f ∈ all := by cases f <;> decide

theorem Flag.map_letter_all : all.map letter = "imsxURa".toList := rfl

/-- Each bit but the highest stands for a flag. -/
theorem Flag.exists_bit : ∀ i < 7, ∃ f ∈ all, f.bit = i := by decide

namespace Flags

theorem has_empty (f : Flag) : empty.has f = false := by cases f <;> rfl

theorem has_singleton (f g : Flag) : (singleton f).has g = decide (f = g) := by
  cases f <;> cases g <;> rfl

theorem has_union (a b : Flags) (f : Flag) : (a.union b).has f = (a.has f || b.has f) :=
  BitVec.getLsbD_or

/-- A letter means the flag whose letter it is. -/
theorem has_of_ofLetter? {c : Char} {s : Flags} (h : ofLetter? c = some s) (f : Flag) :
    s.has f = decide (c = f.letter) := by
  rw [ofLetter?] at h
  split at h
  next hc =>
    cases h
    subst hc
    rw [has_empty]
    cases f <;> rfl
  next =>
    obtain ⟨g, hg, rfl⟩ := Option.map_eq_some_iff.1 h
    rw [has_singleton, ← Flag.letter_of_ofLetter? hg]
    by_cases hgf : g = f
    · simp [hgf]
    · have : g.letter ≠ f.letter := fun heq => hgf (Flag.letter_injective heq)
      simp [hgf, this]

theorem has_parseFrom {cs : List Char} {s t : Flags} (h : parseFrom s cs = .ok t) (f : Flag) :
    t.has f = (s.has f || cs.contains f.letter) := by
  induction cs generalizing s with
  | nil =>
    cases h
    simp
  | cons c cs ih =>
    rw [parseFrom] at h
    split at h
    next u hu =>
      rw [ih h, has_union, has_of_ofLetter? hu, List.contains_cons, Bool.or_assoc]
      congr 2
      simp [eq_comm, beq_eq_decide]
    next => cases h

/-- The flags that a text spells are those whose letters occur in it. -/
theorem has_parse {cs : List Char} {s : Flags} (h : parse cs = .ok s) (f : Flag) :
    s.has f = cs.contains f.letter := by
  rw [has_parseFrom h, has_empty, Bool.false_or]

/-! ## Characters that mean nothing -/

/-- The characters that mean something, of which `g` means no flag. -/
def alphabet : List Char := "imsxURag".toList

theorem mem_alphabet {c : Char} : c ∈ alphabet ↔ (∃ f : Flag, f.letter = c) ∨ c = 'g' := by
  have halphabet : alphabet = Flag.all.map Flag.letter ++ ['g'] := rfl
  simp [halphabet, Flag.mem_all]

theorem ofLetter?_eq_none_iff {c : Char} : ofLetter? c = none ↔ c ∉ alphabet := by
  rw [mem_alphabet, ofLetter?]
  split
  next hc => simp [hc]
  next hc =>
    rw [Option.map_eq_none_iff, Option.eq_none_iff_forall_ne_some, or_iff_left hc, not_exists]
    refine forall_congr' fun f => not_congr ⟨Flag.letter_of_ofLetter?, ?_⟩
    rintro rfl
    exact f.ofLetter?_letter

theorem parseFrom_eq_error_iff {s : Flags} {cs : List Char} {c : Char} :
    parseFrom s cs = .error c ↔ cs.find? (· ∉ alphabet) = some c := by
  induction cs generalizing s with
  | nil => simp [parseFrom]
  | cons d cs ih =>
    rw [parseFrom]
    cases hd : ofLetter? d with
    | some t =>
      have hmem : d ∈ alphabet := by
        by_contra hmem
        rw [ofLetter?_eq_none_iff.2 hmem] at hd
        cases hd
      rw [List.find?_cons_of_neg (by simpa using hmem)]
      exact ih
    | none =>
      rw [List.find?_cons_of_pos (by simpa using ofLetter?_eq_none_iff.1 hd), Option.some.injEq,
        Except.error.injEq]

/-- A text is refused for the first of its characters that means nothing. -/
theorem parse_eq_error_iff {cs : List Char} {c : Char} :
    parse cs = .error c ↔ cs.find? (· ∉ alphabet) = some c := parseFrom_eq_error_iff

theorem exists_parse_iff {cs : List Char} :
    (∃ s, parse cs = .ok s) ↔ ∀ c ∈ cs, c ∈ alphabet := by
  have hnone : cs.find? (· ∉ alphabet) = none ↔ ∀ c ∈ cs, c ∈ alphabet := by simp
  rw [← hnone]
  cases hparse : parse cs with
  | ok s =>
    refine iff_of_true ⟨s, rfl⟩ (Option.eq_none_iff_forall_ne_some.2 fun c hc => ?_)
    rw [parse_eq_error_iff.2 hc] at hparse
    cases hparse
  | error c => simp only [reduceCtorEq, exists_false, parse_eq_error_iff.1 hparse]

/-! ## The texts that spell a set -/

/-- Each character of the text means something, and the set has just the flags whose letters occur
in the text. -/
structure SpelledBy (s : Flags) (cs : List Char) : Prop where
  letters : ∀ c ∈ cs, c ∈ alphabet
  has : ∀ f, s.has f = cs.contains f.letter
  highest : s.bits.getLsbD 7 = false

theorem eq_of_has {s t : Flags} (hs : s.bits.getLsbD 7 = false) (ht : t.bits.getLsbD 7 = false)
    (h : ∀ f, s.has f = t.has f) : s = t := by
  obtain ⟨a⟩ := s
  obtain ⟨b⟩ := t
  refine congrArg mk (BitVec.eq_of_getLsbD_eq fun i hi => ?_)
  by_cases hlast : i = 7
  · rw [hlast, hs, ht]
  · obtain ⟨f, -, rfl⟩ := Flag.exists_bit i (by omega)
    exact h f

theorem highest_of_ofLetter? {c : Char} {s : Flags} (h : ofLetter? c = some s) :
    s.bits.getLsbD 7 = false := by
  rw [ofLetter?] at h
  split at h
  · cases h
    rfl
  · obtain ⟨f, -, rfl⟩ := Option.map_eq_some_iff.1 h
    cases f <;> rfl

theorem highest_parseFrom {cs : List Char} {s t : Flags} (h : parseFrom s cs = .ok t)
    (hs : s.bits.getLsbD 7 = false) : t.bits.getLsbD 7 = false := by
  induction cs generalizing s with
  | nil =>
    cases h
    exact hs
  | cons c cs ih =>
    rw [parseFrom] at h
    split at h
    next u hu =>
      refine ih h ?_
      rw [union, BitVec.getLsbD_or, hs, highest_of_ofLetter? hu, Bool.false_or]
    next => cases h

theorem parse_eq_ok_iff {cs : List Char} {s : Flags} : parse cs = .ok s ↔ s.SpelledBy cs := by
  have hspelled : ∀ {t : Flags}, parse cs = .ok t → t.SpelledBy cs := fun h =>
    ⟨exists_parse_iff.1 ⟨_, h⟩, has_parse h, highest_parseFrom h rfl⟩
  refine ⟨hspelled, fun h => ?_⟩
  obtain ⟨t, ht⟩ := exists_parse_iff.2 h.letters
  have h' := hspelled ht
  rw [ht, eq_of_has h'.highest h.highest fun f => (h'.has f).trans (h.has f).symm]

theorem mem_letters {s : Flags} {c : Char} :
    c ∈ s.letters ↔ ∃ f, s.has f = true ∧ f.letter = c := by
  simp [letters, toList, Flag.mem_all]

theorem letter_mem_letters {s : Flags} {f : Flag} : f.letter ∈ s.letters ↔ s.has f = true := by
  rw [mem_letters]
  exact ⟨fun ⟨g, hg, hletter⟩ => Flag.letter_injective hletter ▸ hg, fun hf => ⟨f, hf, rfl⟩⟩

/-- The letters of a set tell its members. -/
theorem letters_eq_iff {s t : Flags} : s.letters = t.letters ↔ ∀ f, s.has f = t.has f := by
  refine ⟨fun h f => ?_, fun h => ?_⟩
  · rw [Bool.eq_iff_iff, ← letter_mem_letters, ← letter_mem_letters, h]
  · exact congrArg (fun has => (Flag.all.filter has).map Flag.letter) (funext h)

theorem slash_notMem_letters (s : Flags) : '/' ∉ s.letters := by
  rw [mem_letters]
  rintro ⟨f, -, hletter⟩
  cases f <;> cases hletter

namespace SpelledBy

variable {s t : Flags} {cs ds : List Char}

/-- The letters of a set are those of the text that spells it, each once and in the order of their
bits. -/
theorem letters_eq (h : s.SpelledBy cs) : s.letters = "imsxURa".toList.filter (· ∈ cs) := by
  rw [← Flag.map_letter_all, List.filter_map, Flags.letters, toList]
  refine congrArg _ (List.filter_congr fun f _ => ?_)
  rw [h.has, List.contains_eq_mem]
  rfl

/-- The letters of a set spell it. -/
theorem self (h : s.SpelledBy cs) : s.SpelledBy s.letters := by
  refine ⟨fun c hc => ?_, fun f => ?_, h.highest⟩
  · rw [h.letters_eq, List.mem_filter] at hc
    exact h.letters c (by simpa using hc.2)
  · rw [Bool.eq_iff_iff, List.contains_iff_mem, letter_mem_letters]

/-- The same set is spelled by the texts with the same letters, up to `g`. -/
theorem iff_of_mem (h : s.SpelledBy cs) : s.SpelledBy ds ↔
    (∀ c ∈ ds, c ∈ alphabet) ∧ ∀ c ∈ "imsxURa".toList, (c ∈ ds ↔ c ∈ cs) := by
  have hmem : ∀ f, s.has f = ds.contains f.letter ↔ (f.letter ∈ ds ↔ f.letter ∈ cs) := by
    intro f
    rw [h.has, Bool.eq_iff_iff, List.contains_iff_mem, List.contains_iff_mem]
    exact iff_comm
  rw [← Flag.map_letter_all, List.forall_mem_map]
  refine ⟨fun h' => ⟨h'.letters, fun f _ => (hmem f).1 (h'.has f)⟩, fun ⟨hletters, hsame⟩ => ?_⟩
  exact ⟨hletters, fun f => (hmem f).2 (hsame f f.mem_all), h.highest⟩

/-- A text behind another one adds its flags. -/
theorem append (h : s.SpelledBy cs) (h' : t.SpelledBy ds) : (s.union t).SpelledBy (cs ++ ds) := by
  refine ⟨fun c hc => ?_, fun f => ?_, ?_⟩
  · rcases List.mem_append.1 hc with hc | hc
    · exact h.letters c hc
    · exact h'.letters c hc
  · rw [has_union, h.has, h'.has, List.contains_append]
  · rw [union, BitVec.getLsbD_or, h.highest, h'.highest, Bool.false_or]

end SpelledBy

/-! ## Reading and writing -/

/-- A text can be read if each of its characters is one of `imsxURag`, and is refused for the first
that is not, also as the flags of a pattern. The written form of what is read are the letters of
`imsxURa` that occur in the text, in this order. The same is read from the written form, and from
just those texts that have the same of these letters; two texts in a row give the union. -/
theorem parse_canonical (text : String) :
    ((∃ s, parse text.toList = .ok s) ↔ ∀ c ∈ text.toList, c ∈ alphabet) ∧
    (∀ c, parse text.toList = .error c ↔ text.toList.find? (· ∉ alphabet) = some c) ∧
    (∀ source e, Pattern.regexWithFlags source text = .error e ↔
      ∃ c, parse text.toList = .error c ∧ e = .unknownFlag c) ∧
    ∀ s, parse text.toList = .ok s →
      s.render = String.ofList ("imsxURa".toList.filter (· ∈ text.toList)) ∧
      parse s.render.toList = .ok s ∧
      (∀ text' : String, parse text'.toList = .ok s ↔ (∀ c ∈ text'.toList, c ∈ alphabet) ∧
        ∀ c ∈ "imsxURa".toList, (c ∈ text'.toList ↔ c ∈ text.toList)) ∧
      ∀ (text' : String) s', parse text'.toList = .ok s' →
        parse (text ++ text').toList = .ok (s.union s') := by
  refine ⟨exists_parse_iff, fun c => parse_eq_error_iff, fun source e => ?_, fun s h => ?_⟩
  · rw [Pattern.regexWithFlags]
    cases parse text.toList <;> simp [eq_comm]
  · have hs := parse_eq_ok_iff.1 h
    refine ⟨congrArg String.ofList hs.letters_eq, ?_, fun text' => ?_, fun text' s' h' => ?_⟩
    · rw [render, String.toList_ofList, parse_eq_ok_iff]
      exact hs.self
    · rw [parse_eq_ok_iff, hs.iff_of_mem]
    · rw [String.toList_append, parse_eq_ok_iff]
      exact hs.append (parse_eq_ok_iff.1 h')

/-- Letters out of order and more than once, and a text with two characters that mean nothing. -/
theorem parse_canonical_repeated :
    ∃ s s', parse "xgiix".toList = .ok s ∧ parse "mi".toList = .ok s' ∧ s.render = "ix" ∧
      parse "ix".toList = .ok s ∧ parse "xgiixmi".toList = .ok (s.union s') ∧
      Pattern.regexWithFlags "a" "iq-" = .error (.unknownFlag 'q') := by
  have h : parse "xgiix".toList = .ok ⟨9⟩ := by decide +kernel
  have h' : parse "mi".toList = .ok ⟨3⟩ := by decide +kernel
  obtain ⟨-, -, -, hread⟩ := parse_canonical "xgiix"
  obtain ⟨hrender, hself, -, happend⟩ := hread ⟨9⟩ h
  have hix : (⟨9⟩ : Flags).render = "ix" := hrender.trans (by decide +kernel)
  obtain ⟨-, hrefused, hpattern, -⟩ := parse_canonical "iq-"
  have hq : parse "iq-".toList = .error 'q' := (hrefused 'q').2 (by decide +kernel)
  exact ⟨⟨9⟩, ⟨3⟩, h, h', hix, hix ▸ hself, happend "mi" ⟨3⟩ h',
    (hpattern "a" _).2 ⟨'q', hq, rfl⟩⟩

end Flags

end Munch
