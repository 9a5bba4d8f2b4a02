import Mathlib.Algebra.Ring.Nat
import Mathlib.Tactic.Common
import Munch.Text.Quoted

/-!
# Quoting loses nothing

A character between quotes is written as itself, by a backslash and a letter, or by its code point
between braces. No form of a character is the beginning of a form of another one, so a quoted text
can be cut into the forms of its characters in one way only.

* `Text.hexDigits_inj`, `Text.append_cons_inj`: a number is known by its digits, and a text can be
  cut in one way at the first place of a character.
* `Text.WrittenAs`: the forms of a character.
* `Text.WrittenAs.append_inj`: a form at the beginning of a text belongs to one character.
* `Text.quoteChars_injective`: no two texts are quoted alike.
-/

namespace Munch.Text

/-! ## Numbers -/

theorem hexDigit_inj : ∀ a < 16, ∀ b < 16, hexDigit a = hexDigit b → a = b := by decide

theorem hexDigit_ne_brace : ∀ d < 16, hexDigit d ≠ '\x7d' := by decide

theorem brace_notMem_hexDigits (fuel n : Nat) : '\x7d' ∉ hexDigits fuel n := by
  induction fuel generalizing n with
  | zero => exact List.not_mem_nil
  | succ fuel ih =>
    have hlast := hexDigit_ne_brace (n % 16) (Nat.mod_lt n (by decide))
    rw [hexDigits, List.mem_append, List.mem_singleton]
    split
    · simpa using hlast.symm
    · simpa [hlast.symm] using ih (n / 16)

theorem hexDigits_ne_nil {fuel n : Nat} (hpos : 0 < n) (hn : n < 16 ^ fuel) :
    hexDigits fuel n ≠ [] := by
  cases fuel with
  | zero => omega
  | succ fuel => exact List.append_ne_nil_of_right_ne_nil _ (List.cons_ne_nil _ _)

/-- Numbers with the same digits are the same, if there are digits enough. -/
theorem hexDigits_inj {fuel m n : Nat} (hm : m < 16 ^ fuel) (hn : n < 16 ^ fuel)
    (h : hexDigits fuel m = hexDigits fuel n) : m = n := by
  induction fuel generalizing m n with
  | zero => omega
  | succ fuel ih =>
    -- The last digit is the remainder, and those in front of it are the digits of the quotient.
    obtain ⟨hfront, hlast⟩ := List.append_inj' h rfl
    have hmod : m % 16 = n % 16 := hexDigit_inj _ (Nat.mod_lt m (by decide)) _
      (Nat.mod_lt n (by decide)) (List.cons.inj hlast).1
    have hdiv : m / 16 = n / 16 := by
      have hm' : m / 16 < 16 ^ fuel := by omega
      have hn' : n / 16 < 16 ^ fuel := by omega
      split at hfront <;> split at hfront
      · omega
      · exact absurd hfront.symm (hexDigits_ne_nil (by omega) hn')
      · exact absurd hfront (hexDigits_ne_nil (by omega) hm')
      · exact ih hm' hn' hfront
    omega

/-- A text has one part in front of the first place of a character, and one behind it. -/
theorem append_cons_inj {x : Char} {as as' bs bs' : List Char} (has : x ∉ as) (has' : x ∉ as')
    (h : as ++ x :: bs = as' ++ x :: bs') : as = as' ∧ bs = bs' := by
  have hfront : ∀ {cs : List Char} (ds : List Char), x ∉ cs →
      (cs ++ x :: ds).takeWhile (· ≠ x) = cs := by
    intro cs ds hcs
    rw [List.takeWhile_append_of_pos fun c hc => by simpa using ne_of_mem_of_not_mem hc hcs]
    simp
  have hsame : as = as' := by rw [← hfront bs has, h, hfront bs' has']
  rw [hsame] at h
  exact ⟨hsame, (List.cons.inj (List.append_cancel_left h)).2⟩

/-! ## Characters -/

/-- The letters that a backslash can stand in front of, each with what it means there. -/
def marks : List (Char × Char) :=
  [('n', '\n'), ('r', '\r'), ('t', '\t'), ('0', '\x00'), ('\\', '\\'), ('"', '"'), ('\'', '\'')]

/-- The forms of a character between quotes. -/
inductive WrittenAs (c : Char) : List Char → Prop where
  | plain (h : c ≠ '\\') : WrittenAs c [c]
  | marked (m : Char) (h : (m, c) ∈ marks) : WrittenAs c ['\\', m]
  | code : WrittenAs c (escapeCode c)

theorem marks_inj : ∀ x ∈ marks, ∀ y ∈ marks, x.1 = y.1 → x.2 = y.2 := by decide

/-- The letter of code points means nothing else. -/
theorem mark_ne_code : ∀ x ∈ marks, x.1 ≠ 'u' := by decide

theorem writtenAs_escapeChar {quote : Char} (hquote : (quote, quote) ∈ marks) (c : Char) :
    WrittenAs c (escapeChar quote c) := by
  rw [escapeChar]
  split_ifs with h hn hr ht h0
  · rcases h with rfl | rfl
    · exact .marked c hquote
    · exact .marked _ (by decide)
  · exact .marked _ (by rw [hn]; decide)
  · exact .marked _ (by rw [hr]; decide)
  · exact .marked _ (by rw [ht]; decide)
  · exact .marked _ (by rw [h0]; decide)
  · exact .plain (not_or.1 h).2
  · exact .code

theorem escapeCode_append_inj {c d : Char} {cs ds : List Char}
    (h : escapeCode c ++ cs = escapeCode d ++ ds) : c = d ∧ cs = ds := by
  have hlt : ∀ c : Char, c.toNat < 16 ^ 6 := by
    intro c
    have := c.valid
    simp only [UInt32.isValidChar, Nat.isValidChar] at this
    simp only [Char.toNat]
    omega
  simp only [escapeCode, List.append_assoc, List.cons_append, List.nil_append, List.cons.injEq,
    true_and] at h
  obtain ⟨hdigits, hrest⟩ := append_cons_inj (brace_notMem_hexDigits 6 c.toNat)
    (brace_notMem_hexDigits 6 d.toNat) h
  exact ⟨Char.toNat_inj.1 (hexDigits_inj (hlt c) (hlt d) hdigits), hrest⟩

namespace WrittenAs

variable {c d : Char} {as bs cs ds : List Char}

theorem ne_nil (h : WrittenAs c as) : as ≠ [] := by
  cases h <;> exact List.cons_ne_nil _ _

/-- A character that is written as itself is told from the other forms by its being no backslash,
and those are told from each other by what stands behind the backslash. -/
theorem append_inj (h : WrittenAs c as) (h' : WrittenAs d bs) (heq : as ++ cs = bs ++ ds) :
    c = d ∧ cs = ds := by
  cases h with
  | plain hc =>
    cases h' with
    | plain _ => exact List.cons.inj heq
    | marked | code => exact absurd (List.cons.inj heq).1 hc
  | marked m hm =>
    cases h' with
    | plain hd => exact absurd (List.cons.inj heq).1.symm hd
    | marked m' hm' =>
      obtain ⟨hletter, hrest⟩ := List.cons.inj (List.cons.inj heq).2
      exact ⟨marks_inj _ hm _ hm' hletter, hrest⟩
    | code => exact absurd (List.cons.inj (List.cons.inj heq).2).1 (mark_ne_code _ hm)
  | code =>
    cases h' with
    | plain hd => exact absurd (List.cons.inj heq).1.symm hd
    | marked m hm =>
      exact absurd (List.cons.inj (List.cons.inj heq).2).1.symm (mark_ne_code _ hm)
    | code => exact escapeCode_append_inj heq

end WrittenAs

/-! ## Texts -/

/-- The quoted form of a text belongs to no other text. -/
theorem quoteChars_injective : Function.Injective quoteChars := by
  have hwritten : ∀ c, WrittenAs c (escapeChar '"' c) := writtenAs_escapeChar (by decide)
  have hnil : ∀ cs, cs.flatMap (escapeChar '"') = [] → cs = [] := by
    intro cs h
    rw [List.flatMap_eq_nil_iff] at h
    exact List.eq_nil_iff_forall_not_mem.2 fun c hc => (hwritten c).ne_nil (h c hc)
  intro cs ds h
  replace h := List.append_cancel_right (List.cons.inj h).2
  induction cs generalizing ds with
  | nil => exact (hnil ds h.symm).symm
  | cons c cs ih =>
    cases ds with
    | nil => exact hnil (c :: cs) h
    | cons d ds =>
      rw [List.flatMap_cons, List.flatMap_cons] at h
      obtain ⟨rfl, hrest⟩ := (hwritten c).append_inj (hwritten d) h
      rw [ih hrest]

end Munch.Text
