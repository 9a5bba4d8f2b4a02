import Munch.Regex.Expr

/-!
# Matching programs

A program is a graph of instructions, each of which names the ones that may follow it. A `split`
prefers its first follower. `Program.ofExpr` lays out an expression so that the preferred path
through the program is the preferred match of the expression.

Code is laid out backwards: a fragment is given the place of the instruction that follows it, and
returns its own entry. An expression that repeats is laid out once for each of its copies.
-/

namespace Munch.Regex

/-- One instruction; places of instructions are numbers. -/
inductive Inst where
  /-- The match is complete. -/
  | accept
  /-- Reads one character of the set. -/
  | chars (set : CharSet) (next : Nat)
  /-- Goes on if the condition holds. -/
  | look (l : Look) (next : Nat)
  /-- Begins a group. -/
  | opening (group : Nat) (next : Nat)
  /-- Ends a group. -/
  | closing (group : Nat) (next : Nat)
  /-- Tries the first way, then the second. -/
  | split (first second : Nat)
  deriving DecidableEq, Inhabited, Repr

/-- A program with the place of its first instruction. -/
structure Program where
  code : Array Inst
  entry : Nat
  deriving DecidableEq, Inhabited, Repr

/-- Lays out code in front of the instruction at a given place, and returns its entry. -/
abbrev Fragment := Nat → Array Inst → Nat × Array Inst

namespace Fragment

/-- A single instruction. -/
def inst (f : Nat → Inst) : Fragment := fun next code => (code.size, code.push (f next))

/-- `n` copies, one after the other. -/
def copies (body : Fragment) : Nat → Fragment
  | 0, next, code => (next, code)
  | n + 1, next, code =>
    let (entry, code) := body next code
    copies body n entry code

/-- A choice between going on with `body` and leaving for `leave`. -/
def branch (greedy : Bool) (body leave : Nat) : Inst :=
  if greedy then .split body leave else .split leave body

/-- Up to `n` copies, each of which can be left for the place `leave`; `next` follows the last. -/
def upTo (greedy : Bool) (body : Fragment) (leave : Nat) : Nat → Fragment
  | 0, next, code => (next, code)
  | n + 1, next, code =>
    let (entry, code) := body next code
    upTo greedy body leave n code.size (code.push (branch greedy entry leave))

/-- A body with a choice behind it between one more round and going on. Returns the entry of the
body, the place of the choice, and the code. -/
def loop (greedy : Bool) (body : Fragment) (next : Nat) (code : Array Inst) :
    Nat × Nat × Array Inst :=
  let choice := code.size
  let (entry, code) := body choice (code.push .accept)
  (entry, choice, code.setIfInBounds choice (branch greedy entry next))

/-- Any number of rounds. A body that cannot match the empty text is entered by the choice behind
it; any other has a choice of its own in front, so that the preferred path does not depend on
whether the choice has been passed before. -/
def star (greedy nonempty : Bool) (body : Fragment) : Fragment := fun next code =>
  let (entry, choice, code) := loop greedy body next code
  if nonempty then (choice, code) else (code.size, code.push (branch greedy entry next))

/-- At least one round. -/
def plus (greedy : Bool) (body : Fragment) : Fragment := fun next code =>
  let (entry, _, code) := loop greedy body next code
  (entry, code)

end Fragment

/-- The fragment of an expression. -/
def Expr.layOut : Expr → Fragment
  | empty, next, code => (next, code)
  | chars set _, next, code => Fragment.inst (.chars set) next code
  | look l, next, code => Fragment.inst (.look l) next code
  | capture index _ body, next, code =>
    let (close, code) := Fragment.inst (.closing index) next code
    let (entry, code) := body.layOut close code
    Fragment.inst (.opening index) entry code
  | seq a b, next, code =>
    let (entry, code) := b.layOut next code
    a.layOut entry code
  | alt a b, next, code =>
    let (second, code) := b.layOut next code
    let (first, code) := a.layOut next code
    Fragment.inst (fun _ => .split first second) next code
  | iterate 0 none greedy body, next, code =>
    Fragment.star greedy (body.minLength.any (0 < ·)) body.layOut next code
  | iterate (n + 1) none greedy body, next, code =>
    let (entry, code) := Fragment.plus greedy body.layOut next code
    Fragment.copies body.layOut n entry code
  | iterate min (some max) greedy body, next, code =>
    let (entry, code) := Fragment.upTo greedy body.layOut next (max - min) next code
    Fragment.copies body.layOut min entry code

/-- The program of an expression. -/
def Program.ofExpr (e : Expr) : Program :=
  let (entry, code) := e.layOut 0 #[.accept]
  ⟨code, entry⟩

end Munch.Regex
