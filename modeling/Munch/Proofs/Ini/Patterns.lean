import Munch.Proofs.CharSet
import Munch.Proofs.Ini.Lines
import Munch.Proofs.Regex.Meaning
import Munch.Proofs.Regex.Star

/-!
# The patterns of INI documents

The expressions that the patterns of `Ini.definitions` are compiled to, and the members of their
sets.

* `Ini.build_definitions`: the patterns compile to these expressions.
-/

namespace Munch.Ini

open Regex CharSet

/-! ## Sets -/

def blankSet : CharSet := ⟨[(9, 9), (32, 32)]⟩

/-- All but `]` and the line end. -/
def nameSet : CharSet := ⟨[(0, 9), (11, 92), (94, 1114111)]⟩

/-- All but `=`, `;`, `#` and blanks of all kinds. -/
def keyStartSet : CharSet :=
  ⟨[(0, 8), (14, 31), (33, 34), (36, 58), (60, 60), (62, 132), (134, 159), (161, 5759),
    (5761, 8191), (8203, 8231), (8234, 8238), (8240, 8286), (8288, 12287), (12289, 1114111)]⟩

/-- All but `=` and the line end. -/
def keySet : CharSet := ⟨[(0, 9), (11, 60), (62, 1114111)]⟩

/-- All but the line end. -/
def lineSet : CharSet := ⟨[(0, 9), (11, 1114111)]⟩

def commentSet : CharSet := ⟨[(35, 35), (59, 59)]⟩

theorem contains_blankSet {c : Char} : blankSet.contains c = true ↔ isBlank c = true := by
  simp only [isBlank, Bool.or_eq_true, decide_eq_true_eq, eq_iff_toNat, contains_eq, blankSet,
    inRanges_cons, inRanges_nil, or_false, Char.reduceToNat]
  omega

theorem contains_nameSet {c : Char} : nameSet.contains c = true ↔ c ≠ ']' ∧ c ≠ '\n' := by
  have := toNat_le_maxCode c
  simp only [ne_eq, eq_iff_toNat, contains_eq, nameSet, inRanges_cons, inRanges_nil, or_false,
    Char.reduceToNat]
  omega

theorem contains_keySet {c : Char} : keySet.contains c = true ↔ c ≠ '=' ∧ c ≠ '\n' := by
  have := toNat_le_maxCode c
  simp only [ne_eq, eq_iff_toNat, contains_eq, keySet, inRanges_cons, inRanges_nil, or_false,
    Char.reduceToNat]
  omega

theorem contains_lineSet {c : Char} : lineSet.contains c = true ↔ c ≠ '\n' := by
  have := toNat_le_maxCode c
  simp only [ne_eq, eq_iff_toNat, contains_eq, lineSet, inRanges_cons, inRanges_nil, or_false,
    Char.reduceToNat]
  omega

theorem contains_commentSet {c : Char} : commentSet.contains c = true ↔ c = ';' ∨ c = '#' := by
  simp only [eq_iff_toNat, contains_eq, commentSet, inRanges_cons, inRanges_nil, or_false,
    Char.reduceToNat]
  omega

theorem contains_keyStartSet {c : Char} :
    keyStartSet.contains c = true ↔ c ≠ '=' ∧ startsKey c = true := by
  have := toNat_le_maxCode c
  simp only [startsKey, Bool.and_eq_true, decide_eq_true_eq, Bool.not_eq_true', ne_eq,
    ← Bool.not_eq_true, eq_iff_toNat, contains_eq, keyStartSet, Unicode.whiteSpace, inRanges_cons,
    inRanges_nil, or_false, Char.reduceToNat]
  omega

/-! ## Expressions -/

/-- Any number of spaces and tabs. -/
def blanks : Expr := .star true blankSet

/-- Spaces and tabs up to the end of the line. -/
def lineRest : Expr := .seq blanks (.look .lineEnd)

/-- What is behind the opening bracket of a heading. -/
def headingName : Expr :=
  .seq (.capture 1 (some "name") (.star true nameSet)) (.seq (.chars (.singleton ']')) lineRest)

def headingExpr : Expr :=
  .seq (.look .lineStart) (.seq blanks (.seq (.chars (.singleton '[')) headingName))

/-- What is behind the `=` of an entry. -/
def entryValue : Expr :=
  .seq blanks (.seq (.capture 2 (some "value") (.star false lineSet)) lineRest)

/-- What is behind the key of an entry. -/
def entryRest : Expr := .seq blanks (.seq (.chars (.singleton '=')) entryValue)

def entryKey : Expr :=
  .capture 1 (some "key") (.seq (.chars keyStartSet) (.star false keySet))

def entryExpr : Expr := .seq (.look .lineStart) (.seq blanks (.seq entryKey entryRest))

def commentExpr : Expr :=
  .seq (.look .lineStart) (.seq blanks (.seq (.chars commentSet) (.star true lineSet)))

def newlineExpr : Expr :=
  .seq (.iterate 0 (some 1) true (.chars (.singleton '\r'))) (.chars (.singleton '\n'))

def blankExpr : Expr := .iterate 1 none true (.chars blankSet)

/-! ## The tokenizer -/

/-- Definition number `index`, whose pattern is compiled to the given expression. -/
def typeOf (index : Nat) (e : Expr) : TokenType Kind :=
  let d := definitions.getD index default
  ⟨d.tag, d.pattern, .regex ⟨d.pattern.text, .ofExpr e, e.groupNames⟩, index⟩

def tokenizer : Tokenizer Kind :=
  ⟨[typeOf 0 headingExpr, typeOf 1 entryExpr, typeOf 2 commentExpr, typeOf 3 newlineExpr,
    typeOf 4 blankExpr], {}⟩

set_option maxRecDepth 10000 in
theorem build_definitions : Tokenizer.build {} definitions = .ok tokenizer := by
  decide +kernel

theorem matchAt_typeOf {index : Nat} {e : Expr} (he : e.isSteady) (p : Cursor) :
    (typeOf index e).matcher.matchAt p = e.matchAt p :=
  matchAt_ofExpr _ he p

end Munch.Ini
