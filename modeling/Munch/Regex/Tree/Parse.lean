import Munch.Regex.Tree.Bracket
import Munch.Regex.Tree.Count
import Munch.Regex.Tree.Group

/-!
# Reading patterns

`Tree.parse` reads a whole pattern, or finds its first fault from left to right.

Verbose mode can be switched inside a pattern; a switch lasts to the end of the group that it
stands in. Groups that capture are numbered by their opening parentheses, from 1 on.
-/

namespace Munch.Regex

/-- What the reader of a pattern carries along. -/
structure Reader where
  rest : List Char
  verbose : Bool
  /-- The number of groups opened so far that capture. -/
  groups : Nat := 0
  /-- The names of groups read so far. -/
  names : List (String × Extent) := []

/-- The part of a sequence that has been read: its start, the finished branches and the items of the
current branch with its start, the last ones first. -/
structure Partial where
  start : Nat
  branches : List Tree := []
  branchStart : Nat
  items : List Tree := []

namespace Partial

/-- The current branch, which ends where `rest` begins. -/
def branch (p : Partial) (rest : List Char) : Tree :=
  let extent : Extent := ⟨p.branchStart, rest.length⟩
  match p.items with
  | [] => .empty extent
  | [item] => item
  | items => .concat extent items.reverse

/-- Everything read so far as one tree, which ends where `rest` begins. -/
def finish (p : Partial) (rest : List Char) : Tree :=
  match p.branches with
  | [] => p.branch rest
  | branches => .alternation ⟨p.start, rest.length⟩ (p.branch rest :: branches).reverse

def push (p : Partial) (item : Tree) : Partial := { p with items := item :: p.items }

/-- Ends the current branch where `rest` begins with a `|` and begins the next one after it. -/
def nextBranch (p : Partial) (rest : List Char) : Partial :=
  { p with branches := p.branch rest :: p.branches, branchStart := rest.length - 1, items := [] }

/-- Takes the last item for a repetition operator at `rest`; a directive cannot be repeated. -/
def popOperand (p : Partial) (rest : List Char) : Except Fault (Tree × Partial) :=
  match p.items with
  | [] => .error ⟨.repetitionMissing, atPoint rest, none⟩
  | .flags _ _ :: _ => .error ⟨.repetitionMissing, atPoint rest, none⟩
  | item :: items => .ok (item, { p with items := items })

end Partial

/-- A sequence that begins where `rest` does. -/
def Partial.begin (rest : List Char) : Partial :=
  { start := rest.length, branchStart := rest.length }

/-- Reads a character outside brackets that is no operator. -/
def plainAtom (verbose : Bool) (cs : List Char) : Except Fault (Atom × List Char) :=
  match cs with
  | '\\' :: _ => escape verbose cs
  | '.' :: rest => .ok (.dot (between cs rest), rest)
  | '^' :: rest => .ok (.assertion (between cs rest) .startLine, rest)
  | '$' :: rest => .ok (.assertion (between cs rest) .endLine, rest)
  | c :: rest => .ok (.literal ⟨between cs rest, c, false⟩, rest)
  | [] => .error ⟨.escapeUnended, atPoint [], none⟩

/-- Reads up to the end of the pattern, or up to the closing parenthesis of the group whose opening
parenthesis has the extent `opened`. -/
def sequence (opened : Option Extent) :
    Nat → Partial → Reader → Except Fault (Tree × Reader)
  | 0, _, r => .error ⟨.groupUnopened, here r.rest, none⟩
  | fuel + 1, p, r => do
    let cs := skip r.verbose r.rest
    let continueAt (item : Tree) (rest : List Char) :=
      sequence opened fuel (p.push item) { r with rest := rest }
    match cs with
    | [] =>
      match opened with
      | some extent => .error ⟨.groupUnclosed, extent, none⟩
      | none => return (p.finish [], { r with rest := [] })
    | ')' :: _ =>
      match opened with
      | some _ => return (p.finish cs, { r with rest := cs })
      | none => .error ⟨.groupUnopened, here cs, none⟩
    | '|' :: rest => sequence opened fuel (p.nextBranch cs) { r with rest := rest }
    | '(' :: _ =>
      match ← groupOpening r.verbose r.names cs with
      | (.directive switches, rest) =>
        sequence opened fuel (p.push (.flags (between cs rest) switches))
          { r with rest := rest, verbose := stateAfter switches .verbose r.verbose }
      | (.capture name, rest) =>
        let index := r.groups + 1
        let inner : Reader :=
          { r with rest := rest, groups := index, names := name.toList ++ r.names }
        let (body, after) ← sequence (some (here cs)) fuel (.begin rest) inner
        let rest := after.rest.tail
        let item := .group (between cs rest) (.capture index (name.map (·.1))) body
        sequence opened fuel (p.push item) { after with rest := rest, verbose := r.verbose }
      | (.plain switches, rest) =>
        let inner : Reader :=
          { r with rest := rest, verbose := stateAfter switches .verbose r.verbose }
        let (body, after) ← sequence (some (here cs)) fuel (.begin rest) inner
        let rest := after.rest.tail
        let item := .group (between cs rest) (.plain switches) body
        sequence opened fuel (p.push item) { after with rest := rest, verbose := r.verbose }
    | '[' :: _ =>
      let (item, rest) ← bracketClass r.verbose cs
      continueAt item rest
    | c :: _ =>
      if c = '?' ∨ c = '*' ∨ c = '+' ∨ c = '\x7b' then
        let (body, p) ← p.popOperand cs
        let (count, rest) ← repetition r.verbose cs
        let extent : Extent := ⟨body.extent.start, rest.length⟩
        let item := .repetition extent count.min count.max count.greedy body
        sequence opened fuel (p.push item) { r with rest := rest }
      else
        let (a, rest) ← plainAtom r.verbose cs
        continueAt (.atom a) rest

/-- Reads a pattern; `verbose` is the mode that it begins in. -/
def Tree.parse (verbose : Bool) (pattern : List Char) : Except Fault Tree :=
  (sequence none (pattern.length + 1) (.begin pattern) { rest := pattern, verbose }).map (·.1)

end Munch.Regex
