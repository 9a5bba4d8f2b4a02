import Munch.Proofs.Regex.First
import Munch.Highlight

/-!
# The patterns of JSON

The expressions that the patterns of `Highlight.definitions` are compiled to. Only keys and strings
can begin with the same character.

* `Highlight.tokenizer_eq`: the patterns compile to these expressions.
* `Highlight.refuses_of_first`, `Highlight.eq_of_first`: what a lexeme of each class begins with.
-/

namespace Munch.Highlight

open Regex CharSet

/-! ## Expressions -/

def quoteExpr : Expr := .chars (.singleton '"')

/-- All but the quote and the backslash. -/
def plainSet : CharSet := ⟨[(0, 33), (35, 91), (93, 1114111)]⟩

/-- All but the line end. -/
def escapedSet : CharSet := ⟨[(0, 9), (11, 1114111)]⟩

/-- A character of a string, or an escape of two characters. -/
def itemExpr : Expr := .alt (.chars plainSet) (.seq (.chars (.singleton '\\')) (.chars escapedSet))

/-- A string and what is behind it. -/
def quoted (behind : Expr) : Expr :=
  .seq quoteExpr (.seq (.iterate 0 none true itemExpr) behind)

/-- Blanks up to a colon. -/
def colonExpr : Expr := .seq (.star true Unicode.whiteSpace) (.chars (.singleton ':'))

def keyExpr : Expr := quoted (.seq quoteExpr colonExpr)

def stringExpr : Expr := quoted quoteExpr

def digitSet : CharSet := ⟨[(48, 57)]⟩

def leadSet : CharSet := ⟨[(49, 57)]⟩

def exponentSet : CharSet := ⟨[(69, 69), (101, 101)]⟩

def signSet : CharSet := ⟨[(43, 43), (45, 45)]⟩

def integerExpr : Expr :=
  .alt (.chars (.singleton '0')) (.seq (.chars leadSet) (.star true digitSet))

def fractionExpr : Expr := .seq (.chars (.singleton '.')) (.plus digitSet)

def exponentExpr : Expr :=
  .seq (.chars exponentSet) (.seq (.optional (.chars signSet)) (.plus digitSet))

def numberExpr : Expr :=
  .seq (.optional (.chars (.singleton '-')))
    (.seq integerExpr (.seq (.optional fractionExpr) (.optional exponentExpr)))

def literalExpr : Expr :=
  .alt (.word "true".toList) (.alt (.word "false".toList) (.word "null".toList))

def punctSet : CharSet := ⟨[(44, 44), (91, 91), (93, 93), (123, 123), (125, 125)]⟩

def punctExpr : Expr := .chars punctSet

def spaceExpr : Expr := .plus Unicode.whiteSpace

/-! ## Members of the sets -/

theorem contains_plainSet {c : Char} : plainSet.contains c ↔ c ≠ '"' ∧ c ≠ '\\' := by
  simp only [plainSet, contains_eq, inRanges_cons, inRanges_nil, or_false, ne_eq, eq_iff_toNat,
    Char.reduceToNat]
  have := toNat_le_maxCode c
  omega

theorem contains_escapedSet {c : Char} : escapedSet.contains c ↔ c ≠ '\n' := by
  simp only [escapedSet, contains_eq, inRanges_cons, inRanges_nil, or_false, ne_eq, eq_iff_toNat,
    Char.reduceToNat]
  have := toNat_le_maxCode c
  omega

theorem contains_digitSet {c : Char} : digitSet.contains c ↔ c.isDigit := by
  simp only [digitSet, contains_eq, inRanges_cons, inRanges_nil, or_false, Char.isDigit,
    Bool.and_eq_true, decide_eq_true_eq, UInt32.le_iff_toNat_le, Char.toNat]
  rfl

theorem contains_leadSet {c : Char} : leadSet.contains c ↔ c.isDigit ∧ c ≠ '0' := by
  rw [← contains_digitSet]
  simp only [leadSet, digitSet, contains_eq, inRanges_cons, inRanges_nil, or_false, ne_eq,
    eq_iff_toNat, Char.reduceToNat]
  omega

theorem contains_exponentSet {c : Char} : exponentSet.contains c ↔ c = 'e' ∨ c = 'E' := by
  simp only [exponentSet, contains_eq, inRanges_cons, inRanges_nil, or_false, eq_iff_toNat,
    Char.reduceToNat]
  omega

theorem contains_signSet {c : Char} : signSet.contains c ↔ c = '+' ∨ c = '-' := by
  simp only [signSet, contains_eq, inRanges_cons, inRanges_nil, or_false, eq_iff_toNat,
    Char.reduceToNat]
  omega

/-! ## The tokenizer -/

def exprOf : Kind → Expr
  | .key => keyExpr
  | .string => stringExpr
  | .number => numberExpr
  | .literal => literalExpr
  | .punct => punctExpr
  | .space => spaceExpr

/-- All classes, in the order of their definitions. -/
def kinds : List Kind := [.key, .string, .number, .literal, .punct, .space]

theorem mem_kinds (kind : Kind) : kind ∈ kinds := by cases kind <;> decide

/-- The definition of a class, with its pattern compiled. -/
def typeOf (kind : Kind) : TokenType Kind :=
  let index := kinds.idxOf kind
  let pattern := (definitions.getD index default).pattern
  ⟨kind, pattern, .regex ⟨pattern.text, .ofExpr (exprOf kind), (exprOf kind).groupNames⟩, index⟩

def jsonTokenizer : Tokenizer Kind := ⟨kinds.map typeOf, {}⟩

set_option maxRecDepth 10000 in
theorem tokenizer_eq : tokenizer = .ok jsonTokenizer := by
  decide +kernel

theorem matchAt_typeOf (kind : Kind) (p : Cursor) :
    (typeOf kind).matcher.matchAt p = (exprOf kind).matchAt p := by
  cases kind <;> exact matchAt_ofExpr _ rfl p

/-! ## First characters -/

/-- What a lexeme of a class begins with. -/
def firstSet : Kind → CharSet
  | .key | .string => .singleton '"'
  | .number => ⟨[(45, 45), (48, 57)]⟩
  | .literal => ⟨[(102, 102), (110, 110), (116, 116)]⟩
  | .punct => punctSet
  | .space => Unicode.whiteSpace

theorem refuses_numberExpr {rest : List Char}
    (h : ∀ c ∈ rest.head?, ¬ (firstSet .number).contains c) : numberExpr.Refuses rest := by
  have hminus : (Expr.chars (.singleton '-')).Refuses rest := .singleton fun c hc heq => h c hc (by
    rw [heq]
    decide)
  have hzero : (Expr.chars (.singleton '0')).Refuses rest := .singleton fun c hc heq => h c hc (by
    rw [heq]
    decide)
  have hlead : (Expr.chars leadSet).Refuses rest := .chars fun c hc hs => h c hc (by
    simp only [contains_eq, leadSet, firstSet, inRanges_cons, inRanges_nil, or_false] at hs ⊢
    omega)
  rw [← List.nil_append rest]
  exact .seq_of_reads (.omitted hminus) (.seq (.alt hzero (.seq hlead)))

theorem refuses_literalExpr {rest : List Char}
    (h : ∀ c ∈ rest.head?, ¬ (firstSet .literal).contains c) : literalExpr.Refuses rest := by
  have hword : ∀ d cs, (firstSet .literal).contains d → (Expr.word (d :: cs)).Refuses rest :=
    fun d cs hd => .word (fun c hc heq => h c hc (heq ▸ hd)) cs
  exact .alt (hword 't' _ (by decide)) (.alt (hword 'f' _ (by decide)) (hword 'n' _ (by decide)))

/-- There is no lexeme of a class where none can begin. -/
theorem refuses_of_first (kind : Kind) {rest : List Char}
    (h : ∀ c ∈ rest.head?, ¬ (firstSet kind).contains c) : (exprOf kind).Refuses rest := by
  cases kind with
  | key => exact .seq (.chars h)
  | string => exact .seq (.chars h)
  | number => exact refuses_numberExpr h
  | literal => exact refuses_literalExpr h
  | punct => exact .chars h
  | space => exact .plus h

/-- The first character tells the class, but for keys and strings. -/
theorem eq_of_first {kind kind' : Kind} {c : Char} (h : (firstSet kind).contains c)
    (h' : (firstSet kind').contains c) :
    kind = kind' ∨ (kind = .key ∧ kind' = .string) ∨ (kind = .string ∧ kind' = .key) := by
  rw [contains_eq] at h h'
  cases kind <;> cases kind' <;>
    simp only [reduceCtorEq, and_self, and_false, false_and, or_false, or_true] <;>
    simp only [firstSet, CharSet.singleton, CharSet.range, punctSet, Unicode.whiteSpace,
      inRanges_cons, inRanges_nil, or_false, Char.reduceToNat] at h h' <;> omega

end Munch.Highlight
