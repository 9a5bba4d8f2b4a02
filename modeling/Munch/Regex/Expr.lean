import Munch.CharSet

/-!
# Regular expressions

`Expr` is a regular expression as it is matched: flags are resolved, classes are sets, and only the
groups that capture are left. The functions that build expressions keep them in a normal form:

* `Expr.sequence`: nested sequences are flattened and empty parts dropped.
* `Expr.choice`: nested choices are flattened, a choice of single characters or of sets is one set,
  and if all branches are sequences, the parts that they begin with in common stand in front of the
  choice.
* `Expr.repeated`: an expression that matches the empty text alone is taken at most once, and
  repetitions that take exactly nothing or exactly one are none.
-/

namespace Munch.Regex

/-- Conditions on a place, with their flags resolved. -/
inductive Look where
  | textStart
  | textEnd
  | lineStart
  | lineEnd
  /-- The start of a line where `\r\n` and a lone `\r` end lines, too. -/
  | lineStartCrlf
  | lineEndCrlf
  /-- The flag says whether words are made of all letters or of ASCII ones. -/
  | wordBoundary (unicode : Bool)
  | notWordBoundary (unicode : Bool)
  | wordStart (unicode : Bool)
  | wordEnd (unicode : Bool)
  | wordStartHalf (unicode : Bool)
  | wordEndHalf (unicode : Bool)
  deriving DecidableEq, Inhabited, Repr

/-- A regular expression. -/
inductive Expr where
  | empty
  /-- A character of a set. Sets that are written as sets of bytes read the same, but are not the
  same as others. -/
  | chars (set : CharSet) (asBytes : Bool := false)
  | look (l : Look)
  | iterate (min : Nat) (max : Option Nat) (greedy : Bool) (body : Expr)
  | capture (index : Nat) (name : Option String) (body : Expr)
  | seq (first second : Expr)
  | alt (first second : Expr)
  deriving DecidableEq, Inhabited, Repr

namespace Expr

/-! ## Sizes -/

/-- The least number of characters in a match; none if that is unknown because some part matches
nothing at all. -/
def minLength : Expr → Option Nat
  | empty => some 0
  | chars set _ => if set.isEmpty then none else some 1
  | look _ => some 0
  | iterate min _ _ body => body.minLength.map (min * ·)
  | capture _ _ body => body.minLength
  | seq a b => do return (← a.minLength) + (← b.minLength)
  | alt a b => do return min (← a.minLength) (← b.minLength)

/-- The greatest number of characters in a match, if there is one. -/
def maxLength : Expr → Option Nat
  | empty => some 0
  | chars set _ => if set.isEmpty then none else some 1
  | look _ => some 0
  | iterate _ max _ body => do return (← max) * (← body.maxLength)
  | capture _ _ body => body.maxLength
  | seq a b => do return (← a.maxLength) + (← b.maxLength)
  | alt a b => do return max (← a.maxLength) (← b.maxLength)

/-! ## Building -/

/-- The parts of a sequence. -/
def factors : Expr → List Expr
  | empty => []
  | seq a b => a.factors ++ b.factors
  | e => [e]

/-- The branches of a choice. -/
def branches : Expr → List Expr
  | alt a b => a.branches ++ b.branches
  | e => [e]

/-- The given parts, none of them a sequence, one after the other. -/
def ofFactors : List Expr → Expr
  | [] => empty
  | [e] => e
  | e :: es => seq e (ofFactors es)

/-- The set of an expression that reads one character. -/
def charSet? : Expr → Option CharSet
  | chars set _ => some set
  | _ => none

/-- Whether an expression reads one certain character. -/
def isLiteral (e : Expr) : Bool := (e.charSet?.bind CharSet.toChar?).isSome

/-- A set, as it is written. Certain characters and the empty set are the same in both ways. -/
def ofSet (asBytes : Bool) (set : CharSet) : Expr :=
  chars set (asBytes && !set.isEmpty && set.toChar?.isNone)

/-- All that the given expressions read, if all of them are certain characters or none of them is
one and all are sets. -/
def union? (es : List Expr) : Option CharSet :=
  if es.all isLiteral ∨ es.all (!·.isLiteral) then (es.mapM charSet?).map CharSet.unions else none

/-- The given branches, none of them a choice, in the order of preference. -/
def ofBranches (es : List Expr) : Expr :=
  match union? es with
  | some set => chars set
  | none => ofAlternatives es
where
  ofAlternatives : List Expr → Expr
    | [] => chars ∅
    | [e] => e
    | e :: es => alt e (ofAlternatives es)

def sequence (es : List Expr) : Expr := ofFactors (es.flatMap factors)

/-- The parts of a sequence, with neighbouring literals taken together as one part. -/
def parts : List Expr → List (List Expr)
  | [] => []
  | e :: es =>
    match parts es with
    | [] => [[e]]
    | p :: ps => if e.isLiteral ∧ p.all isLiteral then (e :: p) :: ps else [e] :: p :: ps

/-- The longest common beginning of two lists. -/
def commonPrefix {α : Type} [DecidableEq α] : List α → List α → List α
  | a :: as, b :: bs => if a = b then a :: commonPrefix as bs else []
  | _, _ => []

/-- The parts with which all of the given sequences begin, if each of them has several parts. -/
def sharedParts : List (List (List Expr)) → List (List Expr)
  | first :: second :: others =>
    if (first :: second :: others).any (·.length < 2) then []
    else (second :: others).foldl commonPrefix first
  | _ => []

def choice (es : List Expr) : Expr :=
  let sequences := (es.flatMap branches).map fun e => parts e.factors
  let shared := sharedParts sequences
  let rests := sequences.map fun s => ofFactors (s.drop shared.length).flatten
  ofFactors (shared.flatten ++ (ofBranches (rests.flatMap branches)).factors)

def repeated (min : Nat) (max : Option Nat) (greedy : Bool) (body : Expr) : Expr :=
  let (min, max) :=
    if body.maxLength = some 0 then (Nat.min min 1, some ((max.map (Nat.min · 1)).getD 1))
    else (min, max)
  if min = 0 ∧ max = some 0 then empty
  else if min = 1 ∧ max = some 1 then body
  else iterate min max greedy body

/-! ## Groups -/

/-- The groups of an expression with their names, by their first occurrence. -/
def captures : Expr → List (Nat × Option String)
  | iterate _ _ _ body => body.captures
  | capture index name body => (index, name) :: body.captures
  | seq a b => a.captures ++ b.captures
  | alt a b => a.captures ++ b.captures
  | _ => []

/-- The names of all groups, the whole match as group 0 first. Numbers of groups that are not in the
expression are kept up to the greatest one that is. -/
def groupNames (e : Expr) : List (Option String) :=
  let captures := e.captures
  let last := captures.foldl (fun n c => Nat.max n c.1) 0
  (List.range (last + 1)).map fun i => ((captures.find? (·.1 = i)).bind (·.2))

end Expr

end Munch.Regex
