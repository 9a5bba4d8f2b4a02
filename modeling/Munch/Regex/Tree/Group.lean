import Munch.Regex.Tree
import Munch.Regex.Tree.Blank
import Munch.Unicode.Recent

/-!
# Opening a group

Reading what follows an opening parenthesis: nothing for a numbered group, `?<name>` or `?P<name>`
for a named one, and `?flags:` for a group that captures nothing. `?flags)` is no group but a
directive for what follows it.
-/

namespace Munch.Regex

/-! ## Names -/

/-- The letters of names. -/
def nameLetters : CharSet := Unicode.Property.alphabetic ∪ Unicode.Recent.alphabetic

/-- The digits of names. -/
def nameDigits : CharSet := Unicode.Category.number ∪ Unicode.Recent.number

/-- Whether a character may stand in the name of a group; digits and punctuation never come
first. -/
def isNameChar (isFirst : Bool) (c : Char) : Bool :=
  c = '_' || c.isAlpha || nameLetters.contains c ||
    (!isFirst && (c = '.' || c = '[' || c = ']' || c.isDigit || nameDigits.contains c))

/-- Reads a name up to the `>` that ends it; returns the name and the text from the `>` on. -/
def nameChars (acc : List Char) : List Char → Except Fault (List Char × List Char)
  | [] => .error ⟨.groupNameUnended, atPoint [], none⟩
  | c :: cs =>
    if c = '>' then .ok (acc.reverse, c :: cs)
    else if isNameChar acc.isEmpty c then nameChars (c :: acc) cs
    else .error ⟨.groupNameInvalid, here (c :: cs), none⟩

/-- Reads a name and its `>`, and refuses one that is among the given names. -/
def groupName (names : List (String × Extent)) (cs : List Char) :
    Except Fault (String × Extent × List Char) := do
  let (chars, rest) ← nameChars [] cs
  if chars.isEmpty then .error ⟨.groupNameEmpty, atPoint cs, none⟩
  let name := String.ofList chars
  let extent := between cs rest
  match names.find? (·.1 = name) with
  | some (_, first) => .error ⟨.groupNameDuplicate, extent, some first⟩
  | none => return (name, extent, rest.tail)

/-! ## Flags -/

/-- The flag that a letter stands for. -/
def InlineFlag.ofChar? : Char → Option InlineFlag
  | 'i' => some .ignoreCase
  | 'm' => some .multiLine
  | 's' => some .dotAll
  | 'U' => some .swapGreed
  | 'u' => some .unicode
  | 'R' => some .crlf
  | 'x' => some .verbose
  | _ => none

/-- One sign of a list of flags: a letter, or the hyphen that turns off what follows it. -/
inductive FlagSign where
  | flag (f : InlineFlag)
  | negation
  deriving DecidableEq, Inhabited, Repr

/-- Reads flags up to the `:` or `)` that ends them; returns the signs, the last one first, and the
text from their end on. -/
def flagSigns (signs : List (FlagSign × Extent)) :
    List Char → Except Fault (List (FlagSign × Extent) × List Char)
  | [] => .error ⟨.flagUnended, atPoint [], none⟩
  | c :: cs =>
    if c = ':' ∨ c = ')' then .ok (signs, c :: cs)
    else
      let extent := here (c :: cs)
      let first (sign : FlagSign) : Option Extent := (signs.find? (·.1 = sign)).map (·.2)
      if c = '-' then
        match first .negation with
        | some e => .error ⟨.negationRepeated, extent, some e⟩
        | none => flagSigns ((.negation, extent) :: signs) cs
      else
        match InlineFlag.ofChar? c with
        | none => .error ⟨.flagUnrecognized, extent, none⟩
        | some f =>
          match first (.flag f) with
          | some e => .error ⟨.flagDuplicate, extent, some e⟩
          | none => flagSigns ((.flag f, extent) :: signs) cs

/-- The switches that a list of signs means; a hyphen turns off the flags after it. -/
def switchesOf (on : Bool) : List FlagSign → List FlagSwitch
  | [] => []
  | .negation :: signs => switchesOf false signs
  | .flag f :: signs => ⟨f, on⟩ :: switchesOf on signs

/-- The state in which a list of switches leaves a flag. -/
def stateAfter (switches : List FlagSwitch) (flag : InlineFlag) (before : Bool) : Bool :=
  ((switches.find? (·.flag = flag)).map (·.on)).getD before

/-- Reads flags and what ends them. -/
def flagSwitches (cs : List Char) : Except Fault (List FlagSwitch × List Char) := do
  let (signs, rest) ← flagSigns [] cs
  match signs with
  | (.negation, extent) :: _ => .error ⟨.negationDangling, extent, none⟩
  | signs => return (switchesOf true (signs.reverse.map (·.1)), rest)

/-! ## Openings -/

/-- What an opening parenthesis turns out to be. -/
inductive GroupOpening where
  /-- A group, with the name and the extent of the name if it has one. -/
  | capture (name : Option (String × Extent))
  | plain (switches : List FlagSwitch)
  /-- A directive, which has no closing parenthesis of its own. -/
  | directive (switches : List FlagSwitch)
  deriving Inhabited, Repr

/-- Whether a text begins with one of the marks of look-around; returns what follows the mark. -/
def lookAroundMark? : List Char → Option (List Char)
  | '?' :: '=' :: cs => some cs
  | '?' :: '!' :: cs => some cs
  | '?' :: '<' :: '=' :: cs => some cs
  | '?' :: '<' :: '!' :: cs => some cs
  | _ => none

/-- Reads the opening of a group from its parenthesis on. -/
def groupOpening (verbose : Bool) (names : List (String × Extent)) (whole : List Char) :
    Except Fault (GroupOpening × List Char) := do
  let inside := skip verbose whole.tail
  if let some rest := lookAroundMark? inside then
    .error ⟨.lookAround, between whole rest, none⟩
  match inside with
  | '?' :: 'P' :: '<' :: cs =>
    let (name, extent, rest) ← groupName names cs
    return (.capture (some (name, extent)), rest)
  | '?' :: '<' :: cs =>
    let (name, extent, rest) ← groupName names cs
    return (.capture (some (name, extent)), rest)
  | '?' :: cs =>
    if cs.isEmpty then .error ⟨.groupUnclosed, here whole, none⟩
    let (switches, rest) ← flagSwitches cs
    match rest with
    | ')' :: after =>
      if rest.length = cs.length then .error ⟨.repetitionMissing, atPoint inside, none⟩
      return (.directive switches, after)
    | rest => return (.plain switches, rest.tail)
  | cs => return (.capture none, cs)

end Munch.Regex
