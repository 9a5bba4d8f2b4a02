import Munch.Regex.Mode

/-!
# Pattern flags

The flags that a pattern is compiled with, as a set of bits and as letters.

* `Flags.parse`: the set that a text of letters means; the letter `g` is accepted and means nothing.
* `Flags.letters`: the letters of a set in the order of their bits.
* `Flags.ofBits?`, `Flags.truncate`, `Flags.retain`: sets from bits, of which one means no flag.
-/

namespace Munch

/-- A flag of a pattern. -/
inductive Flag where
  | caseInsensitive
  | multiLine
  | dotMatchesNewLine
  | ignoreWhitespace
  | swapGreed
  | crlf
  | noUnicode
  deriving DecidableEq, Inhabited, Repr

namespace Flag

/-- All flags in the order of their bits. -/
def all : List Flag :=
  [caseInsensitive, multiLine, dotMatchesNewLine, ignoreWhitespace, swapGreed, crlf, noUnicode]

/-- The number of the bit that stands for the flag. -/
def bit : Flag → Nat
  | caseInsensitive => 0
  | multiLine => 1
  | dotMatchesNewLine => 2
  | ignoreWhitespace => 3
  | swapGreed => 4
  | crlf => 5
  | noUnicode => 6

/-- The letter that stands for the flag. -/
def letter : Flag → Char
  | caseInsensitive => 'i'
  | multiLine => 'm'
  | dotMatchesNewLine => 's'
  | ignoreWhitespace => 'x'
  | swapGreed => 'U'
  | crlf => 'R'
  | noUnicode => 'a'

/-- The flag in capitals. -/
def label : Flag → String
  | caseInsensitive => "CASE_INSENSITIVE"
  | multiLine => "MULTI_LINE"
  | dotMatchesNewLine => "DOT_MATCHES_NEW_LINE"
  | ignoreWhitespace => "IGNORE_WHITESPACE"
  | swapGreed => "SWAP_GREED"
  | crlf => "CRLF"
  | noUnicode => "NO_UNICODE"

/-- The flag that a letter stands for. -/
def ofLetter? : Char → Option Flag
  | 'i' => some caseInsensitive
  | 'm' => some multiLine
  | 's' => some dotMatchesNewLine
  | 'x' => some ignoreWhitespace
  | 'U' => some swapGreed
  | 'R' => some crlf
  | 'a' => some noUnicode
  | _ => none

end Flag

/-- A set of flags, one bit for each; the highest bit means no flag. -/
structure Flags where
  bits : BitVec 8
  deriving DecidableEq, Inhabited, Repr

namespace Flags

def empty : Flags := ⟨0⟩

def singleton (f : Flag) : Flags := ⟨BitVec.ofNat 8 (1 <<< f.bit)⟩

def union (a b : Flags) : Flags := ⟨a.bits ||| b.bits⟩

def has (s : Flags) (f : Flag) : Bool := s.bits.getLsbD f.bit

/-- The flags of the set in the order of their bits. -/
def toList (s : Flags) : List Flag := Flag.all.filter s.has

/-- The letters of the set. -/
def letters (s : Flags) : List Char := s.toList.map Flag.letter

/-- The written form of the set. -/
def render (s : Flags) : String := String.ofList s.letters

/-! ## Reading -/

/-- What one letter means. -/
def ofLetter? (c : Char) : Option Flags :=
  if c = 'g' then some empty else (Flag.ofLetter? c).map singleton

/-- Adds the flags of a text to `s`, or returns the first character that means none. -/
def parseFrom (s : Flags) : List Char → Except Char Flags
  | [] => .ok s
  | c :: cs =>
    match ofLetter? c with
    | some t => parseFrom (s.union t) cs
    | none => .error c

/-- The flags of a text, or the first character that means none. -/
def parse (cs : List Char) : Except Char Flags := parseFrom empty cs

/-- The set with the given bits, if all of them mean flags. -/
def ofBits? (bits : BitVec 8) : Option Flags := if bits.getLsbD 7 then none else some ⟨bits⟩

/-- The set with those of the given bits that mean flags. -/
def truncate (bits : BitVec 8) : Flags := ⟨bits &&& 0x7F⟩

/-- The set with the given bits, also with the one that means no flag. -/
def retain (bits : BitVec 8) : Flags := ⟨bits⟩

/-- The mode in which a pattern with these flags begins. -/
def mode (s : Flags) : Regex.Mode where
  ignoreCase := s.has .caseInsensitive
  multiLine := s.has .multiLine
  dotAll := s.has .dotMatchesNewLine
  verbose := s.has .ignoreWhitespace
  swapGreed := s.has .swapGreed
  crlf := s.has .crlf
  unicode := !s.has .noUnicode

end Flags

end Munch
