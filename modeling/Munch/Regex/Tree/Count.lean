import Munch.Regex.Tree
import Munch.Regex.Tree.Blank

/-!
# Repetition operators

Reading `?`, `*`, `+` and the counted forms `{n}`, `{n,}` and `{n,m}`, each with an optional `?`
that makes it lazy.
-/

namespace Munch.Regex

/-- A repetition operator: how often at least and at most, and whether as often as possible. -/
structure Count where
  min : Nat
  max : Option Nat
  greedy : Bool
  deriving DecidableEq, Inhabited, Repr

/-- Reads digits on top of `acc` and returns how many there are, their value and what follows. -/
def decimalDigits (verbose : Bool) (count acc : Nat) : Nat → List Char → Nat × Nat × List Char
  | 0, cs => (count, acc, cs)
  | fuel + 1, cs =>
    match cs with
    | [] => (count, acc, [])
    | c :: rest =>
      if c.isDigit then
        decimalDigits verbose (count + 1) (10 * acc + (c.toNat - 48)) fuel (skip verbose rest)
      else (count, acc, cs)

/-- The greatest number of a counted repetition. -/
def maxCount : Nat := 4294967295

/-- Reads a number between blanks, or the fault of a missing or too great one, and what follows. -/
def decimal (verbose : Bool) (cs : List Char) : Except Fault Nat × List Char :=
  let first := cs.dropWhile isBlank
  let (count, value, rest) := decimalDigits verbose 0 0 first.length first
  let extent := between first rest
  let after := rest.dropWhile isBlank
  let after := if after.length < rest.length then skip verbose after else after
  if count = 0 then (.error ⟨.countMissing, extent, none⟩, after)
  else if maxCount < value then (.error ⟨.decimalInvalid, extent, none⟩, after)
  else (.ok value, after)

/-- Reads the braces of a counted repetition and returns the bounds and what follows the closing
brace; `whole` begins with the opening one. -/
def braces (verbose : Bool) (whole : List Char) :
    Except Fault ((Nat × Option Nat) × List Char) := do
  let unclosed (cs : List Char) : Fault := ⟨.countUnclosed, between whole cs, none⟩
  let inside := skip verbose whole.tail
  if inside.isEmpty then .error (unclosed [])
  let (low, cs) := decimal verbose inside
  if cs.isEmpty then .error (unclosed [])
  let (bounds, cs) ← match cs with
    | ',' :: after =>
      match skip verbose after with
      | [] => .error (unclosed [])
      | '\x7d' :: rest => do
        let low ← low
        pure ((low, none), '\x7d' :: rest)
      | after => do
        let low ← low
        let (high, cs) := decimal verbose after
        let high ← high
        pure ((low, some high), cs)
    | cs => do
      let low ← low
      pure ((low, some low), cs)
  match cs with
  | '\x7d' :: rest => return (bounds, rest)
  | cs => .error (unclosed cs)

/-- Reads a `?` that makes a repetition lazy. -/
def lazyMark (cs : List Char) : Bool × List Char :=
  match cs with
  | '?' :: rest => (false, rest)
  | cs => (true, cs)

/-- Reads a repetition operator from its first character on. -/
def repetition (verbose : Bool) (whole : List Char) : Except Fault (Count × List Char) := do
  let simple (min : Nat) (max : Option Nat) : Except Fault (Count × List Char) :=
    let (greedy, rest) := lazyMark whole.tail
    .ok (⟨min, max, greedy⟩, rest)
  match whole.head? with
  | some '?' => simple 0 (some 1)
  | some '*' => simple 0 none
  | some '+' => simple 1 none
  | _ =>
    let ((min, max), rest) ← braces verbose whole
    let (greedy, rest) := lazyMark (skip verbose rest)
    if max.any (· < min) then .error ⟨.countInvalid, between whole rest, none⟩
    return (⟨min, max, greedy⟩, rest)

end Munch.Regex
