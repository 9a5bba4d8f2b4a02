import Mathlib.Tactic.Common
import Munch.Regex.Search

/-!
# Searches without groups

The ends of groups decide nothing, so a search that keeps no account of them goes the way of one
that does: at each place, from each start, and from start to start. Both have followed the same
instructions in vain.

* `Outcome.reach`: the end of a search without the groups.
* `Program.findSpan_eq`: the span of a search is found without groups, too.
-/

namespace Munch.Regex

/-- The same end of a search that keeps no account of groups. -/
def Outcome.reach : Outcome → Reach
  | found stop _ => .found stop
  | failed here later => .failed here later

section Follow

variable {code : Array Inst} {p : Cursor} {onwards : Nat → Captures → List Nat → Outcome}
  {onwards' : Nat → List Nat → Reach}

theorem pass_eq (honwards : ∀ next captures later,
      onwards' next later = (onwards next captures later).reach)
    (fuel pc : Nat) (captures : Captures) (here : Nat) (later : List Nat) :
    pass code p onwards' fuel pc here later =
      (follow code p onwards fuel pc captures here later).reach := by
  induction fuel generalizing pc captures here later with
  | zero => rfl
  | succ fuel ih =>
    rw [pass, follow]
    by_cases hseen : hasBit here pc
    · rw [if_pos hseen, if_pos hseen]
      rfl
    rw [if_neg hseen, if_neg hseen]
    dsimp only
    cases code[pc]? with
    | none => rfl
    | some i =>
      cases i with
      | accept => rfl
      | chars set next =>
        dsimp only
        split
        · rw [honwards next captures]
          cases onwards next captures later <;> rfl
        · rfl
      | look l next =>
        dsimp only
        split
        · exact ih ..
        · rfl
      | opening group next => exact ih ..
      | closing group next => exact ih ..
      | split first second =>
        dsimp only
        rw [ih first captures]
        cases follow code p onwards fuel first captures (here ||| bit pc) later with
        | found stop captures => rfl
        | failed here later => exact ih ..

end Follow

theorem reach_eq (code : Array Inst) (before : Option Char) (offset : Nat) (cs : List Char)
    (pc : Nat) (captures : Captures) (seen : List Nat) :
    reach code before offset cs pc seen =
      (explore code before offset cs pc captures seen).reach := by
  induction cs generalizing before offset pc captures seen with
  | nil =>
    rw [reach, explore]
    refine pass_eq ?_ _ _ captures _ _
    exact fun _ _ _ => rfl
  | cons c cs ih =>
    rw [reach, explore]
    refine pass_eq ?_ _ _ captures _ _
    exact fun next captures later => ih ..

theorem Program.findSpanFrom_eq (program : Program) (before : Option Char) (offset : Nat)
    (seen : List Nat) (cs : List Char) :
    program.findSpanFrom before offset seen cs =
      (program.findFrom before offset seen cs).map (·.1) := by
  induction cs generalizing before offset seen with
  | nil =>
    rw [findSpanFrom, findFrom, reach_eq _ _ _ _ _ {}]
    cases explore program.code before offset [] program.entry {} seen <;> rfl
  | cons c cs ih =>
    rw [findSpanFrom, findFrom, reach_eq _ _ _ _ _ {}]
    cases explore program.code before offset (c :: cs) program.entry {} seen with
    | found stop captures => rfl
    | failed here later => exact ih ..

/-- The span of a search does not depend on whether an account of groups is kept. -/
theorem Program.findSpan_eq (program : Program) (p : Cursor) :
    program.findSpan p = (program.find p).map (·.1) := program.findSpanFrom_eq ..

end Munch.Regex
