import Mathlib.Computability.Language
import Mathlib.Data.List.Chain
import Munch.Highlight

/-!
# The grammar of JSON

The lexemes of JSON are languages over characters. What is made of them is said by a derivation
relation, whose pieces are lexemes with the blanks between them: blanks may stand around each mark
and around the whole text, and they may be empty.

* `Json.number`, `Json.string`, `Json.literal`, `Json.blanks`: the languages of the lexemes.
* `Json.Derives`: values, members and elements as lists of pieces.
* `Json.IsText`: JSON texts, and `Json.lexemes`, what they are made of.
* `Json.IsText.allFit`: what is behind a piece tells where it ends.
-/

namespace Munch.Json

open Highlight
open scoped Computability

/-! ## Lexemes -/

/-- One character with a property. -/
def oneOf (p : Char → Bool) : Language Char := {text | ∃ c, p c ∧ text = [c]}

/-- One certain text. -/
def exactly (text : String) : Language Char := {text.toList}

/-- Whether a character may stand between lexemes. -/
def isBlank (c : Char) : Bool := c = ' ' || c = '\t' || c = '\n' || c = '\r'

def blanks : Language Char := (oneOf isBlank)∗

def digits : Language Char := oneOf Char.isDigit * (oneOf Char.isDigit)∗

/-- A number has no leading zeros. -/
def integer : Language Char :=
  exactly "0" + oneOf (fun c => c.isDigit && c ≠ '0') * (oneOf Char.isDigit)∗

def fraction : Language Char := exactly "." * digits

def exponent : Language Char :=
  oneOf (fun c => c = 'e' || c = 'E') * (1 + oneOf fun c => c = '+' || c = '-') * digits

def number : Language Char := (1 + exactly "-") * integer * (1 + fraction) * (1 + exponent)

def isHexDigit (c : Char) : Bool :=
  c.isDigit || ('a' ≤ c && c ≤ 'f') || ('A' ≤ c && c ≤ 'F')

/-- What stands for a character behind a backslash. -/
def escaped : Language Char :=
  oneOf (fun c => c ∈ ['"', '\\', '/', 'b', 'f', 'n', 'r', 't']) +
    exactly "u" * oneOf isHexDigit ^ 4

/-- What stands for one character of a string. -/
def character : Language Char :=
  oneOf (fun c => 0x20 ≤ c.toNat && c ≠ '"' && c ≠ '\\') + exactly "\\" * escaped

def string : Language Char := exactly "\"" * character∗ * exactly "\""

def literal : Language Char := exactly "true" + exactly "false" + exactly "null"

/-! ## Texts -/

/-- A piece of a text: its class and its characters. -/
abbrev Lexeme := Kind × List Char

/-- A mark with the blanks around it. -/
def IsMark (c : Char) (pieces : List Lexeme) : Prop :=
  ∃ before ∈ blanks, ∃ behind ∈ blanks,
    pieces = [(.space, before), (.punct, [c]), (.space, behind)]

inductive Symbol where
  | value
  /-- The name of a member with its value. -/
  | member
  | members
  | elements
  deriving DecidableEq, Repr

/-- The pieces that a symbol is made of. The name of a member is one piece with the blanks and the
colon behind it. -/
inductive Derives : Symbol → List Lexeme → Prop
  | literal {text : List Char} (h : text ∈ Json.literal) : Derives .value [(.literal, text)]
  | number {text : List Char} (h : text ∈ Json.number) : Derives .value [(.number, text)]
  | string {text : List Char} (h : text ∈ Json.string) : Derives .value [(.string, text)]
  | emptyObject {opening closing : List Lexeme} (ho : IsMark '\x7b' opening)
      (hc : IsMark '\x7d' closing) : Derives .value (opening ++ closing)
  | object {opening closing ls : List Lexeme} (ho : IsMark '\x7b' opening)
      (h : Derives .members ls) (hc : IsMark '\x7d' closing) :
      Derives .value (opening ++ ls ++ closing)
  | emptyArray {opening closing : List Lexeme} (ho : IsMark '[' opening)
      (hc : IsMark ']' closing) : Derives .value (opening ++ closing)
  | array {opening closing ls : List Lexeme} (ho : IsMark '[' opening)
      (h : Derives .elements ls) (hc : IsMark ']' closing) :
      Derives .value (opening ++ ls ++ closing)
  | member {name before behind : List Char} {ls : List Lexeme} (hname : name ∈ Json.string)
      (hbefore : before ∈ blanks) (hbehind : behind ∈ blanks) (h : Derives .value ls) :
      Derives .member ((.key, name ++ before ++ [':']) :: (.space, behind) :: ls)
  | lastMember {ls : List Lexeme} (h : Derives .member ls) : Derives .members ls
  | members {ls separator ls' : List Lexeme} (h : Derives .member ls)
      (hs : IsMark ',' separator) (h' : Derives .members ls') :
      Derives .members (ls ++ separator ++ ls')
  | lastElement {ls : List Lexeme} (h : Derives .value ls) : Derives .elements ls
  | elements {ls separator ls' : List Lexeme} (h : Derives .value ls)
      (hs : IsMark ',' separator) (h' : Derives .elements ls') :
      Derives .elements (ls ++ separator ++ ls')

/-- The pieces of a text are those of a value between blanks. -/
def IsText (pieces : List Lexeme) : Prop :=
  ∃ before ∈ blanks, ∃ behind ∈ blanks, ∃ ls, Derives .value ls ∧
    pieces = (.space, before) :: ls ++ [(.space, behind)]

/-- The characters of some pieces. -/
def text (pieces : List Lexeme) : List Char := pieces.flatMap (·.2)

/-- Blanks are a piece unless there are none. -/
def spaceOf (blank : List Char) : List Lexeme := if blank = [] then [] else [(.space, blank)]

/-- The lexemes of some pieces in front of which stands `blank`: blanks that stand side by side are
one lexeme, and there is none where there are no blanks. -/
def lexemesFrom (blank : List Char) : List Lexeme → List Lexeme
  | [] => spaceOf blank
  | l :: ls =>
    if l.1 = .space then lexemesFrom (blank ++ l.2) ls
    else spaceOf blank ++ l :: lexemesFrom [] ls

/-- The lexemes of some pieces. -/
def lexemes (pieces : List Lexeme) : List Lexeme := lexemesFrom [] pieces

/-! ## Members of the languages -/

theorem mem_oneOf {p : Char → Bool} {text : List Char} :
    text ∈ oneOf p ↔ ∃ c, p c ∧ text = [c] := Iff.rfl

theorem mem_exactly {s : String} {text : List Char} : text ∈ exactly s ↔ text = s.toList := Iff.rfl

theorem mem_optional {l : Language Char} {text : List Char} :
    text ∈ 1 + l ↔ text = [] ∨ text ∈ l := by
  rw [Language.mem_add, Language.mem_one]

/-- Texts of single characters are told by their characters. -/
theorem mem_kstar_oneOf {p : Char → Bool} {text : List Char} :
    text ∈ (oneOf p)∗ ↔ ∀ c ∈ text, p c := by
  rw [Language.mem_kstar]
  constructor
  · rintro ⟨texts, rfl, htexts⟩ c hc
    obtain ⟨t, ht, hc⟩ := List.mem_flatten.1 hc
    obtain ⟨d, hd, rfl⟩ := htexts t ht
    rwa [List.mem_singleton.1 hc]
  · intro h
    refine ⟨text.map ([·]), (List.flatMap_singleton' text).symm, fun t ht => ?_⟩
    obtain ⟨c, hc, rfl⟩ := List.mem_map.1 ht
    exact ⟨c, h c hc, rfl⟩

theorem mem_blanks {text : List Char} : text ∈ blanks ↔ ∀ c ∈ text, isBlank c := mem_kstar_oneOf

theorem nil_mem_blanks : [] ∈ blanks := Language.nil_mem_kstar _

theorem append_mem_blanks {text text' : List Char} (h : text ∈ blanks) (h' : text' ∈ blanks) :
    text ++ text' ∈ blanks :=
  (kstar_mul_kstar (oneOf isBlank)).le (Language.append_mem_mul h h')

theorem mem_digits {text : List Char} :
    text ∈ digits ↔ text ≠ [] ∧ ∀ c ∈ text, c.isDigit := by
  rw [digits, Language.mem_mul]
  constructor
  · rintro ⟨_, ⟨c, hc, rfl⟩, ds, hds, rfl⟩
    refine ⟨by simp, fun d hd => ?_⟩
    rcases List.mem_append.1 hd with hd | hd
    · rwa [List.mem_singleton.1 hd]
    · exact mem_kstar_oneOf.1 hds d hd
  · rintro ⟨hne, h⟩
    cases text with
    | nil => exact absurd rfl hne
    | cons c ds =>
      exact ⟨[c], ⟨c, h c (by simp), rfl⟩, ds,
        mem_kstar_oneOf.2 fun d hd => h d (by simp [hd]), rfl⟩

/-- A string is made of the characters between its quotes. -/
theorem mem_string {text : List Char} : text ∈ string ↔
    ∃ texts : List (List Char), (∀ t ∈ texts, t ∈ character) ∧
      text = '"' :: (texts.flatten ++ ['"']) := by
  simp only [string, Language.mem_mul, Language.mem_kstar, mem_exactly]
  constructor
  · rintro ⟨_, ⟨_, rfl, _, ⟨texts, rfl, htexts⟩, rfl⟩, _, rfl, rfl⟩
    exact ⟨texts, htexts, by simp⟩
  · rintro ⟨texts, htexts, rfl⟩
    exact ⟨_, ⟨_, rfl, _, ⟨texts, rfl, htexts⟩, rfl⟩, _, rfl, by simp⟩

/-! ## Lexemes of a text -/

@[simp] theorem text_nil : text [] = [] := rfl

@[simp] theorem text_cons (l : Lexeme) (ls : List Lexeme) : text (l :: ls) = l.2 ++ text ls := rfl

@[simp] theorem text_append (ls ls' : List Lexeme) : text (ls ++ ls') = text ls ++ text ls' :=
  List.flatMap_append

theorem text_spaceOf (blank : List Char) : text (spaceOf blank) = blank := by
  rw [spaceOf]
  split
  next h => rw [h, text_nil]
  · simp

theorem text_lexemesFrom (blank : List Char) (pieces : List Lexeme) :
    text (lexemesFrom blank pieces) = blank ++ text pieces := by
  induction pieces generalizing blank with
  | nil => rw [lexemesFrom, text_spaceOf, text_nil, List.append_nil]
  | cons l ls ih =>
    rw [lexemesFrom]
    split
    · rw [ih, text_cons, List.append_assoc]
    · rw [text_append, text_spaceOf, text_cons, ih, text_cons, List.nil_append]

/-- The lexemes make up the text. -/
theorem text_lexemes (pieces : List Lexeme) : text (lexemes pieces) = text pieces :=
  text_lexemesFrom [] pieces

/-- Blanks that are a lexeme are all blanks at their place: no others stand beside them. -/
theorem isChain_lexemesFrom (blank : List Char) (pieces : List Lexeme) :
    (lexemesFrom blank pieces).IsChain fun l l' => l.1 = .space → l'.1 ≠ .space := by
  induction pieces generalizing blank with
  | nil =>
    rw [lexemesFrom, spaceOf]
    split <;> simp
  | cons l ls ih =>
    rw [lexemesFrom]
    split
    · exact ih _
    next hl =>
      have hchain : (l :: lexemesFrom [] ls).IsChain fun l l' => l.1 = .space → l'.1 ≠ .space :=
        (ih []).cons fun _ _ h => absurd h hl
      rw [spaceOf]
      split
      · exact hchain
      · exact hchain.cons (by simpa using hl)

/-! ## What is behind a piece -/

/-- What can be behind a value: blanks and a mark that no value begins with, or blanks and the
end. -/
def FollowsValue (rest : List Char) : Prop :=
  ∃ blank ∈ blanks, ∃ tail, rest = blank ++ tail ∧
    ∀ c ∈ tail.head?, c = ',' ∨ c = ']' ∨ c = '\x7d'

/-- What a piece in front of `rest` is. -/
def Fits (rest : List Char) : Lexeme → Prop
  | (.key, text) => ∃ name ∈ string, ∃ before ∈ blanks, text = name ++ before ++ [':']
  | (.string, text) => text ∈ string ∧ FollowsValue rest
  | (.number, text) => text ∈ number ∧ FollowsValue rest
  | (.literal, text) => text ∈ literal
  | (.punct, text) => ∃ c ∈ ['\x7b', '\x7d', '[', ']', ','], text = [c]
  | (.space, text) => text ∈ blanks

/-- Each of some pieces fits in front of the others and `rest`. -/
def AllFit (rest : List Char) : List Lexeme → Prop
  | [] => True
  | l :: ls => Fits (text ls ++ rest) l ∧ AllFit rest ls

section Fits

variable {c : Char} {rest : List Char} {ls ls' : List Lexeme}

theorem allFit_singleton {l : Lexeme} (h : Fits rest l) : AllFit rest [l] := ⟨h, trivial⟩

theorem AllFit.append (h : AllFit (text ls' ++ rest) ls) (h' : AllFit rest ls') :
    AllFit rest (ls ++ ls') := by
  induction ls with
  | nil => exact h'
  | cons l ls ih =>
    obtain ⟨hl, hls⟩ := h
    rw [← List.append_assoc, ← text_append] at hl
    exact ⟨hl, ih hls⟩

theorem IsMark.allFit (h : IsMark c ls) (hc : c ∈ ['\x7b', '\x7d', '[', ']', ',']) :
    AllFit rest ls := by
  obtain ⟨before, hbefore, behind, hbehind, rfl⟩ := h
  exact ⟨hbefore, ⟨c, hc, rfl⟩, hbehind, trivial⟩

theorem IsMark.followsValue (h : IsMark c ls) (hc : c = ',' ∨ c = ']' ∨ c = '\x7d') :
    FollowsValue (text ls ++ rest) := by
  obtain ⟨before, hbefore, behind, hbehind, rfl⟩ := h
  refine ⟨before, hbefore, c :: behind ++ rest, by simp, fun d hd => ?_⟩
  obtain rfl : c = d := by simpa using hd
  exact hc

/-- What is derived fits in front of what can be behind a value. -/
theorem Derives.allFit {symbol : Symbol} (h : Derives symbol ls) (hrest : FollowsValue rest) :
    AllFit rest ls := by
  induction h generalizing rest with
  | literal htext => exact allFit_singleton htext
  | number htext => exact allFit_singleton ⟨htext, hrest⟩
  | string htext => exact allFit_singleton ⟨htext, hrest⟩
  | emptyObject ho hc => exact (ho.allFit (by simp)).append (hc.allFit (by simp))
  | object ho _ hc ih =>
    exact ((ho.allFit (by simp)).append (ih (hc.followsValue (by simp)))).append
      (hc.allFit (by simp))
  | emptyArray ho hc => exact (ho.allFit (by simp)).append (hc.allFit (by simp))
  | array ho _ hc ih =>
    exact ((ho.allFit (by simp)).append (ih (hc.followsValue (by simp)))).append
      (hc.allFit (by simp))
  | member hname hbefore hbehind _ ih =>
    exact ⟨⟨_, hname, _, hbefore, rfl⟩, hbehind, ih hrest⟩
  | lastMember _ ih => exact ih hrest
  | members _ hs _ ih ih' =>
    exact ((ih (hs.followsValue (by simp))).append (hs.allFit (by simp))).append (ih' hrest)
  | lastElement _ ih => exact ih hrest
  | elements _ hs _ ih ih' =>
    exact ((ih (hs.followsValue (by simp))).append (hs.allFit (by simp))).append (ih' hrest)

theorem IsText.allFit {pieces : List Lexeme} (h : IsText pieces) : AllFit [] pieces := by
  obtain ⟨before, hbefore, behind, hbehind, ls, hvalue, rfl⟩ := h
  have hrest : FollowsValue (text [(.space, behind)] ++ []) :=
    ⟨behind, hbehind, [], by simp, by simp⟩
  exact ⟨hbefore, (hvalue.allFit hrest).append (allFit_singleton hbehind)⟩

end Fits

end Munch.Json
