import Munch.Regex.Fault

/-!
# Parsed patterns

The tree of a regular expression as it is written: every node keeps its extent, and flags are
still directives inside the tree. `ClassSet` is the tree of a bracketed class.
-/

namespace Munch.Regex

/-- A character given in a pattern, by itself or by an escape. -/
structure Literal where
  extent : Extent
  char : Char
  /-- Whether it is written by two digits as `\xHH`, which outside Unicode mode means a byte. -/
  asByte : Bool := false
  deriving DecidableEq, Inhabited, Repr

/-- The classes with a one-letter escape: `\d`, `\s` and `\w`. -/
inductive LetterClass where
  | digit
  | space
  | word
  deriving DecidableEq, Inhabited, Repr

/-- The named classes inside brackets, as in `[[:alpha:]]`. -/
inductive NamedClass where
  | alnum | alpha | ascii | blank | cntrl | digit | graph | lower | print | punct | space | upper
  | word | xdigit
  deriving DecidableEq, Inhabited, Repr

/-- How `\p` names a set: by one letter, by a name, or by a property and its value. -/
inductive PropertyQuery where
  | letter (c : Char)
  | name (name : String)
  | value (property value : String)
  deriving DecidableEq, Inhabited, Repr

/-- Conditions on a place. -/
inductive Assertion where
  | startLine
  | endLine
  | startText
  | endText
  | wordBoundary
  | notWordBoundary
  | wordStart
  | wordEnd
  | wordStartHalf
  | wordEndHalf
  deriving DecidableEq, Inhabited, Repr

/-- The smallest parts of a pattern. -/
inductive Atom where
  | literal (l : Literal)
  | letterClass (extent : Extent) (kind : LetterClass) (negated : Bool)
  | property (extent : Extent) (query : PropertyQuery) (negated : Bool)
  | assertion (extent : Extent) (kind : Assertion)
  | dot (extent : Extent)
  deriving DecidableEq, Inhabited, Repr

def Atom.extent : Atom → Extent
  | literal l => l.extent
  | letterClass e _ _ => e
  | property e _ _ => e
  | assertion e _ => e
  | dot e => e

/-- The operations on sets inside brackets: `&&`, `--` and `~~`. -/
inductive SetOp where
  | intersection
  | difference
  | symmetricDifference
  deriving DecidableEq, Inhabited, Repr

/-- What stands inside brackets. -/
inductive ClassSet where
  | empty (extent : Extent)
  | literal (l : Literal)
  | range (extent : Extent) (lo hi : Literal)
  | namedClass (extent : Extent) (kind : NamedClass) (negated : Bool)
  | letterClass (extent : Extent) (kind : LetterClass) (negated : Bool)
  | property (extent : Extent) (query : PropertyQuery) (negated : Bool)
  | bracketed (extent : Extent) (negated : Bool) (set : ClassSet)
  | union (extent : Extent) (items : List ClassSet)
  | operation (extent : Extent) (op : SetOp) (left right : ClassSet)
  deriving Inhabited, Repr

def ClassSet.extent : ClassSet → Extent
  | empty e => e
  | literal l => l.extent
  | range e _ _ => e
  | namedClass e _ _ => e
  | letterClass e _ _ => e
  | property e _ _ => e
  | bracketed e _ _ => e
  | union e _ => e
  | operation e _ _ _ => e

/-- The flags that a pattern can switch inside itself. -/
inductive InlineFlag where
  | ignoreCase
  | multiLine
  | dotAll
  | swapGreed
  | unicode
  | crlf
  | verbose
  deriving DecidableEq, Inhabited, Repr

/-- One switch of a flag. -/
structure FlagSwitch where
  flag : InlineFlag
  on : Bool
  deriving DecidableEq, Inhabited, Repr

/-- What a pair of parentheses is for. -/
inductive GroupKind where
  | capture (index : Nat) (name : Option String)
  | plain (switches : List FlagSwitch)
  deriving DecidableEq, Inhabited, Repr

/-- A parsed pattern. -/
inductive Tree where
  | empty (extent : Extent)
  | flags (extent : Extent) (switches : List FlagSwitch)
  | atom (a : Atom)
  | bracketed (extent : Extent) (negated : Bool) (set : ClassSet)
  | repetition (extent : Extent) (min : Nat) (max : Option Nat) (greedy : Bool) (body : Tree)
  | group (extent : Extent) (kind : GroupKind) (body : Tree)
  | concat (extent : Extent) (items : List Tree)
  | alternation (extent : Extent) (branches : List Tree)
  deriving Inhabited, Repr

def Tree.extent : Tree → Extent
  | empty e => e
  | flags e _ => e
  | atom a => a.extent
  | bracketed e _ _ => e
  | repetition e _ _ _ _ => e
  | group e _ _ => e
  | concat e _ => e
  | alternation e _ => e

end Munch.Regex
