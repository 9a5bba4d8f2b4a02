import Munch.Regex.Expr.Texts
import Munch.Text.ByteRanges

/-!
# The size of an expression

How many bytes of memory the automata for an expression take. An automaton reads bytes, not
characters. There are two of them: one reads forwards and knows the groups, the other reads
backwards and knows none. `Expr.size` is the size of one, `Expr.automatonSize` that of the larger.

A set with characters above ASCII takes many states. Forwards they are shared when the same bytes
may follow, backwards when the same bytes came before. Texts to choose from share their beginnings.
-/

namespace Munch.Regex

/-- How an automaton reads. -/
inductive Direction where
  | forwards
  | backwards
  deriving DecidableEq, Inhabited, Repr

namespace Automaton

/-- The bytes that a state takes by itself. -/
def state : Nat := 32

/-- The bytes for each range of bytes that a state with several of them reads. -/
def range : Nat := 8

/-- The bytes for each way that a state can choose. -/
def way : Nat := 4

/-! ## Sets of characters -/

/-- Sequences by their first ranges: each of these with what follows it. -/
def byFirst : List (List ByteRange) → List (ByteRange × List (List ByteRange))
  | [] => []
  | [] :: ss => byFirst ss
  | (r :: rest) :: ss =>
    match byFirst ss with
    | [] => [(r, [rest])]
    | (first, rests) :: groups =>
      if first = r then (r, rest :: rests) :: groups
      else (r, [rest]) :: (first, rests) :: groups

/-- What can be left to read of the given sequences, at most `depth` ranges deep, each time as the
sequences that it is made of. -/
def remainders : Nat → List (List ByteRange) → List (List (List ByteRange))
  | 0, _ => []
  | depth + 1, ss =>
    if ss.all (·.isEmpty) then []
    else ss :: (byFirst ss).flatMap fun group => remainders depth group.2

/-- The size of the states that read the given sequences forwards: one for all places with the same
remainder, and the one at the end. -/
def remainderSize (ss : List (List ByteRange)) : Nat :=
  state +
    (remainders 4 ss).eraseDups.foldr (fun rest n => state + range * (byFirst rest).length + n) 0

/-- The number of ranges with which `s` goes on after the beginning that it shares with `before`. -/
def newRanges (before s : List ByteRange) : Nat :=
  match before, s with
  | a :: as, b :: bs => if a = b then newRanges as bs else bs.length + 1
  | _, s => s.length

/-- The size of the states that read the given sequences backwards, with a state of its own for each
beginning of a sequence; `before` is the sequence in front of them. -/
def beginningSize (before : List ByteRange) : List (List ByteRange) → Nat
  | [] => 2 * state
  | s :: ss => state * newRanges before s + way + beginningSize s ss

/-- The size of the states that read one character of a set. -/
def setSize (d : Direction) (set : CharSet) : Nat :=
  match set.toChar? with
  | some c => state * c.utf8Size
  | none =>
    if set.isAscii then 2 * state + range * set.ranges.length
    else match d with
      | .forwards => remainderSize set.byteRanges
      | .backwards => beginningSize [] set.byteRanges

/-! ## Texts to choose from -/

/-- The pieces of a list between the empty texts in it. -/
def pieces : List (List UInt8) → List (List (List UInt8))
  | [] => [[]]
  | text :: texts =>
    match text, pieces texts with
    | [], ps => [] :: ps
    | _ :: _, [] => [[text]]
    | _ :: _, p :: ps => (text :: p) :: ps

/-- The number of places at which the given texts end here. Ends before any text goes on count
once. -/
def endCount (texts : List (List UInt8)) : Nat :=
  let later := texts.dropWhile (·.isEmpty)
  later.countP (·.isEmpty) + if texts.head?.any (·.isEmpty) then 1 else 0

/-- The size of the states that read one of the given texts, at most `depth` bytes deep. A text is
preferred to those behind it, so those do not share states with the texts before it if it ends. -/
def textsSize : Nat → List (List UInt8) → Nat
  | 0, _ => 0
  | depth + 1, texts =>
    if texts.all (·.isEmpty) then 0
    else
      let runs := (pieces texts).filter (!·.isEmpty)
      let sizes := runs.map fun run =>
        let firsts := (run.filterMap (·.head?)).eraseDups
        let rests := firsts.map fun b =>
          textsSize depth (run.filterMap fun t => if t.head? = some b then some t.tail else none)
        state + (if firsts.length = 1 then 0 else range * firsts.length) + way + rests.sum
      state + way * endCount texts + sizes.sum

end Automaton

open Automaton

/-! ## Expressions -/

/-- What a branch adds to the size of its choice. -/
def branchSize (branch : Bool) : Nat := if branch then way else 0

/-- The size of the states for an expression, which can be a branch of a choice. -/
def Expr.sizeIn (d : Direction) (branch : Bool) : Expr → Nat
  | empty => state + branchSize branch
  | chars set _ => setSize d set + branchSize branch
  | look _ => state + branchSize branch
  | capture _ _ body =>
    (if d = .forwards then 2 * state else 0) + body.sizeIn d false + branchSize branch
  | seq a b => a.sizeIn d false + b.sizeIn d false + branchSize branch
  | alt a b =>
    if branch then a.sizeIn d true + b.sizeIn d true
    else match (alt a b).spellings? with
      | some texts =>
        let texts := if d = .forwards then texts else texts.map List.reverse
        state + textsSize ((texts.map List.length).foldl Nat.max 0) texts
      | none => 2 * state + a.sizeIn d true + b.sizeIn d true
  | iterate 0 none _ body =>
    (if body.minLength.any (0 < ·) then state + 2 * way else 3 * state + 4 * way) +
      body.sizeIn d false + branchSize branch
  | iterate 0 (some 1) _ body =>
    2 * state + 2 * way + body.sizeIn d false + branchSize branch
  | iterate min none _ body =>
    state + 2 * way + min * body.sizeIn d false + branchSize branch
  | iterate min (some max) _ body =>
    let body := body.sizeIn d false
    let copies := if min = 0 then state else min * body
    let optional := if min = max then 0 else state + (max - min) * (state + 2 * way + body)
    copies + optional + branchSize branch

/-- Whether every match begins with the given condition. -/
def Expr.beginsWith (l : Look) : Expr → Bool
  | look l' => l' = l
  | iterate min _ _ body => 0 < min && body.beginsWith l
  | capture _ _ body => body.beginsWith l
  | seq a b => a.beginsWith l || (a.maxLength = some 0 && b.beginsWith l)
  | alt a b => a.beginsWith l && b.beginsWith l
  | _ => false

/-- Whether every match ends with the given condition. -/
def Expr.endsWith (l : Look) : Expr → Bool
  | look l' => l' = l
  | iterate min _ _ body => 0 < min && body.endsWith l
  | capture _ _ body => body.endsWith l
  | seq a b => b.endsWith l || (b.maxLength = some 0 && a.endsWith l)
  | alt a b => a.endsWith l && b.endsWith l
  | _ => false

/-- The size of the automaton that reads in one direction. One that need not begin at an end of the
text has states to skip bytes first, and the one that reads forwards has two for group 0. -/
def Expr.size (d : Direction) (e : Expr) : Nat :=
  let bound : Bool := match d with
    | .forwards => e.beginsWith .textStart
    | .backwards => e.endsWith .textEnd
  let skip := if bound then state else 3 * state + range + 2 * way
  let ends := if d = .forwards then 3 * state else state
  skip + ends + e.sizeIn d false

/-- The size of the larger automaton; to search for texts needs none. -/
def Expr.automatonSize (e : Expr) : Nat :=
  if e.isTextual then 0 else max (e.size .forwards) (e.size .backwards)

end Munch.Regex
