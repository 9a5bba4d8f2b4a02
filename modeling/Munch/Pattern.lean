import Munch.Config
import Munch.Flags
import Munch.Needle
import Munch.Text.Quoted

/-!
# Patterns and matchers

A `Pattern` describes what a token looks like; a `Matcher` is a pattern made ready for searching.

* `Pattern.render`: the written form, a quoted text or an expression between slashes.
* `Pattern.matcher`: compiles the pattern under the limits of a configuration.
* `Matcher.findAt`: the first match at or after a byte offset.
-/

namespace Munch

/-! ## Patterns -/

inductive Pattern where
  /-- A text that is matched verbatim. -/
  | literal (text : String)
  /-- The text of a regular expression, compiled when a tokenizer is built. -/
  | regex (source : String) (flags : Flags)
  /-- A regular expression that has been compiled before. -/
  | compiled (regex : Regex)
  deriving DecidableEq, Inhabited, Repr

/-- Why patterns make no tokenizer. -/
inductive PatternError where
  /-- The definition number `index` does not compile. -/
  | compile (index : Nat) (pattern : String) (error : Regex.CompileError)
  | unknownFlag (flag : Char)
  deriving DecidableEq, Inhabited, Repr

namespace PatternError

/-- The number of the definition that the error concerns, if it concerns one. -/
def index? : PatternError → Option Nat
  | compile index _ _ => some index
  | unknownFlag _ => none

def message : PatternError → String
  | compile index pattern error =>
    "failed to compile pattern #" ++ toString index ++ " \x60" ++ pattern ++ "\x60: " ++
      error.message
  | unknownFlag flag => "unknown pattern flag \x60" ++ String.singleton flag ++ "\x60"

end PatternError

namespace Pattern

/-- A regular expression with the flags that `flags` spells. -/
def regexWithFlags (source flags : String) : Except PatternError Pattern :=
  match Flags.parse flags.toList with
  | .ok flags => .ok (.regex source flags)
  | .error c => .error (.unknownFlag c)

/-- The text of the pattern: the literal itself or the regular expression. -/
def text : Pattern → String
  | literal text => text
  | regex source _ => source
  | compiled r => r.source

def isLiteral : Pattern → Bool
  | literal _ => true
  | _ => false

/-- The written form of the pattern, as characters. -/
def renderChars : Pattern → List Char
  | literal text => Text.quoteChars text.toList
  | regex source flags => '/' :: source.toList ++ '/' :: flags.letters
  | compiled r => '/' :: r.source.toList ++ ['/']

/-- The written form of the pattern. -/
def render (p : Pattern) : String := String.ofList p.renderChars

end Pattern

/-! ## Matchers -/

inductive Matcher where
  | literal (needle : Needle)
  | regex (r : Regex)
  deriving DecidableEq, Inhabited, Repr

/-- The matcher of a pattern. Compiled expressions are taken as they are. -/
def Pattern.matcher (config : Config) : Pattern → Except Regex.CompileError Matcher
  | literal text => .ok (.literal ⟨text.toList⟩)
  | regex source flags => (Regex.compile config.limits flags.mode source).map .regex
  | compiled r => .ok (.regex r)

namespace Matcher

/-- The first match at or after a place. -/
def find : Matcher → Cursor → Option Match
  | literal needle => needle.find
  | regex r => r.find

/-- The first match at or after byte `start`. A regular expression begins at the first place between
characters from there on, and sees the text before it. -/
def findAt (m : Matcher) (text : List Char) (start : Nat) : Option Match :=
  match m with
  | literal needle => needle.findAt text start
  | regex r => (Cursor.seek text start).bind r.find

/-- The names of the groups, the whole match as group 0 first. -/
def groupNames : Matcher → List (Option String)
  | literal _ => [none]
  | regex r => r.groupNames

/-- The number of the group with the given name. -/
def groupIndex? : Matcher → String → Option Nat
  | literal _, _ => none
  | regex r, name => r.groupIndex? name

end Matcher

end Munch
