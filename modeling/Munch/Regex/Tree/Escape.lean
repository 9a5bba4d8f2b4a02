import Munch.CharSet
import Munch.Regex.Tree
import Munch.Regex.Tree.Blank

/-!
# Escapes

What a backslash introduces: characters by name or by code point, classes, properties and
assertions. `escape` reads one escape from its backslash on and returns what follows it.
-/

namespace Munch.Regex

/-- Punctuation with a meaning in patterns, which a backslash takes away. -/
def isMeta (c : Char) : Bool := "\\.+*?()|[]\x7b\x7d^$#&-~".toList.contains c

/-- Whether a backslash in front of the character means the character. -/
def isEscapable (c : Char) : Bool :=
  isMeta c || (c.toNat < 128 && !c.isAlphanum && c != '<' && c != '>')

/-! ## Code points -/

/-- Reads `n` further digits on top of `acc`; `cs` begins with the next of them. -/
def hexDigitsFixed (verbose : Bool) : Nat → Nat → List Char → Except Fault (Nat × List Char)
  | 0, acc, cs => .ok (acc, cs)
  | _ + 1, _, [] => .error ⟨.escapeUnended, atPoint [], none⟩
  | n + 1, acc, c :: cs =>
    match Unicode.hexValue? c with
    | none => .error ⟨.hexDigitInvalid, here (c :: cs), none⟩
    | some d => hexDigitsFixed verbose n (16 * acc + d) (skip verbose cs)

/-- Reads digits up to the closing brace and returns their number, their value, and the text from
the brace on. `opening` begins with the opening brace. -/
def hexDigitsBraced (verbose : Bool) (opening : List Char) (count acc : Nat) :
    Nat → List Char → Except Fault (Nat × Nat × List Char)
  | 0, cs => .error ⟨.escapeUnended, between opening cs, none⟩
  | fuel + 1, cs =>
    match cs with
    | [] => .error ⟨.escapeUnended, between opening [], none⟩
    | '\x7d' :: _ => .ok (count, acc, cs)
    | c :: cs =>
      match Unicode.hexValue? c with
      | none => .error ⟨.hexDigitInvalid, here (c :: cs), none⟩
      | some d => hexDigitsBraced verbose opening (count + 1) (16 * acc + d) fuel (skip verbose cs)

/-- Reads the code point after `\x`, `\u` or `\U`, given the number of digits without braces and the
whole escape. -/
def hexEscape (verbose : Bool) (whole : List Char) (digits : Nat) (cs : List Char) :
    Except Fault (Atom × List Char) := do
  match skip verbose cs with
  | [] => .error ⟨.escapeUnended, atPoint [], none⟩
  | '\x7b' :: after =>
    let opening := '\x7b' :: after
    let (count, value, closing) ←
      hexDigitsBraced verbose opening 0 0 (after.length + 1) (skip verbose after)
    let rest := skip verbose closing.tail
    if count = 0 then .error ⟨.hexEmpty, between opening rest, none⟩
    match charOfCode? value with
    | none => .error ⟨.hexInvalid, between after closing, none⟩
    | some c => .ok (.literal ⟨between whole rest, c, false⟩, rest)
  | first =>
    let (value, rest) ← hexDigitsFixed verbose digits 0 first
    match charOfCode? value with
    | none => .error ⟨.hexInvalid, between first rest, none⟩
    | some c => .ok (.literal ⟨between whole rest, c, digits = 2⟩, rest)

/-! ## Properties -/

/-- Reads up to the closing brace and returns the characters before it and the text after it. -/
def bracedName (verbose : Bool) (acc : List Char) :
    Nat → List Char → Except Fault (List Char × List Char)
  | 0, _ => .error ⟨.escapeUnended, atPoint [], none⟩
  | fuel + 1, cs =>
    match cs with
    | [] => .error ⟨.escapeUnended, atPoint [], none⟩
    | '\x7d' :: cs => .ok (acc.reverse, cs)
    | c :: cs => bracedName verbose (c :: acc) fuel (skip verbose cs)

/-- Splits a text at the first place where `mark` stands. -/
def splitAtMark (mark : List Char) : List Char → Option (List Char × List Char)
  | [] => none
  | c :: cs =>
    if mark.isPrefixOf (c :: cs) then some ([], (c :: cs).drop mark.length)
    else (splitAtMark mark cs).map fun (before, after) => (c :: before, after)

/-- What a text between the braces of `\p` asks for, and whether the text itself negates it. -/
def PropertyQuery.ofName (name : List Char) : PropertyQuery × Bool :=
  let valued (pv : List Char × List Char) : PropertyQuery :=
    .value (String.ofList pv.1) (String.ofList pv.2)
  match splitAtMark ['!', '='] name with
  | some pv => (valued pv, true)
  | none =>
    match (splitAtMark [':'] name).or (splitAtMark ['='] name) with
    | some pv => (valued pv, false)
    | none => (.name (String.ofList name), false)

/-- Reads what follows `\p` or `\P`, given the whole escape. -/
def propertyEscape (verbose : Bool) (whole : List Char) (negated : Bool) (cs : List Char) :
    Except Fault (Atom × List Char) := do
  match skip verbose cs with
  | [] => .error ⟨.escapeUnended, atPoint [], none⟩
  | '\x7b' :: after =>
    let (name, rest) ← bracedName verbose [] (after.length + 1) (skip verbose after)
    let (query, unlike) := PropertyQuery.ofName name
    .ok (.property (between whole rest) query (negated != unlike), rest)
  | c :: after =>
    if c = '\\' then .error ⟨.propertyInvalid, here (c :: after), none⟩
    let rest := skip verbose after
    .ok (.property (between whole rest) (.letter c) negated, rest)

/-! ## Word boundaries -/

/-- Whether a character may stand in the name of a special word boundary. -/
def isBoundaryChar (c : Char) : Bool := c.isAlpha || c = '-'

/-- Reads the name of a special word boundary and returns it with the text from its end on. -/
def boundaryName (verbose : Bool) (acc : List Char) : Nat → List Char → List Char × List Char
  | 0, cs => (acc.reverse, cs)
  | fuel + 1, cs =>
    match cs with
    | [] => (acc.reverse, [])
    | c :: rest =>
      if isBoundaryChar c then boundaryName verbose (c :: acc) fuel (skip verbose rest)
      else (acc.reverse, cs)

/-- Reads `{start}` and the like after `\b`; none if the brace opens a counted repetition. `whole`
is the escape and `cs` what follows it. -/
def specialBoundary? (verbose : Bool) (whole cs : List Char) :
    Except Fault (Option (Assertion × List Char)) := do
  match cs with
  | '\x7b' :: after =>
    match skip verbose after with
    | [] => .error ⟨.boundaryUnended, between whole [], none⟩
    | c :: more =>
      if isBoundaryChar c then
        let name := boundaryName verbose [] (more.length + 1) (c :: more)
        match name.2 with
        | '\x7d' :: rest =>
          match String.ofList name.1 with
          | "start" => .ok (some (.wordStart, rest))
          | "end" => .ok (some (.wordEnd, rest))
          | "start-half" => .ok (some (.wordStartHalf, rest))
          | "end-half" => .ok (some (.wordEndHalf, rest))
          | _ => .error ⟨.boundaryUnrecognized, between (c :: more) ('\x7d' :: rest), none⟩
        | stopped => .error ⟨.boundaryUnclosed, between cs stopped, none⟩
      else .ok none
  | _ => .ok none

/-! ## All escapes -/

/-- Reads an escape; `whole` begins with its backslash. -/
def escape (verbose : Bool) (whole : List Char) : Except Fault (Atom × List Char) := do
  match whole.tail with
  | [] => .error ⟨.escapeUnended, between whole [], none⟩
  | c :: rest =>
    let extent := between whole rest
    let char (c : Char) := .ok (.literal ⟨extent, c, false⟩, rest)
    let letter (kind : LetterClass) (negated : Bool) :=
      .ok (.letterClass extent kind negated, rest)
    let assertion (kind : Assertion) := .ok (.assertion extent kind, rest)
    if c.isDigit then .error ⟨.backreference, extent, none⟩
    else if isEscapable c then char c
    else match c with
      | 'x' => hexEscape verbose whole 2 rest
      | 'u' => hexEscape verbose whole 4 rest
      | 'U' => hexEscape verbose whole 8 rest
      | 'p' => propertyEscape verbose whole false rest
      | 'P' => propertyEscape verbose whole true rest
      | 'd' => letter .digit false
      | 'D' => letter .digit true
      | 's' => letter .space false
      | 'S' => letter .space true
      | 'w' => letter .word false
      | 'W' => letter .word true
      | 'a' => char '\x07'
      | 'f' => char '\x0c'
      | 't' => char '\t'
      | 'n' => char '\n'
      | 'r' => char '\r'
      | 'v' => char '\x0b'
      | 'A' => assertion .startText
      | 'z' => assertion .endText
      | 'B' => assertion .notWordBoundary
      | '<' => assertion .wordStart
      | '>' => assertion .wordEnd
      | 'b' =>
        match ← specialBoundary? verbose whole rest with
        | some (kind, rest) => .ok (.assertion (between whole rest) kind, rest)
        | none => assertion .wordBoundary
      | _ => .error ⟨.escapeUnrecognized, extent, none⟩

end Munch.Regex
