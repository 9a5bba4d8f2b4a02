import Munch.Regex.Tree

/-!
# Nesting depth

How deep the parts of a pattern stand inside each other. Groups, repetitions, alternations,
sequences, bracketed classes, unions and set operations add one level each; atoms, directives and
empty parts add none. `Tree.checkDepth` finds the first part below a limit, outer parts before inner
ones and then from left to right.
-/

namespace Munch.Regex

/-- Goes one level down to a part with the given extent. -/
def descend (limit depth : Nat) (extent : Extent) : Except Fault Nat :=
  if limit < depth + 1 then .error ⟨.nestedTooDeep limit, extent, none⟩ else .ok (depth + 1)

mutual

def ClassSet.checkDepth (limit depth : Nat) : ClassSet → Except Fault Unit
  | .bracketed e _ set => do set.checkDepth limit (← descend limit depth e)
  | .union e items => do ClassSet.checkDepths limit (← descend limit depth e) items
  | .operation e _ left right => do
    let depth ← descend limit depth e
    left.checkDepth limit depth
    right.checkDepth limit depth
  | _ => .ok ()

def ClassSet.checkDepths (limit depth : Nat) : List ClassSet → Except Fault Unit
  | [] => .ok ()
  | set :: sets => do
    set.checkDepth limit depth
    ClassSet.checkDepths limit depth sets

end

mutual

/-- Finds the first part that stands deeper than `limit`, for a tree that stands at `depth`. -/
def Tree.checkDepth (limit depth : Nat) : Tree → Except Fault Unit
  | .bracketed e _ set => do set.checkDepth limit (← descend limit depth e)
  | .repetition e _ _ _ body => do body.checkDepth limit (← descend limit depth e)
  | .group e _ body => do body.checkDepth limit (← descend limit depth e)
  | .concat e items => do Tree.checkDepths limit (← descend limit depth e) items
  | .alternation e branches => do Tree.checkDepths limit (← descend limit depth e) branches
  | _ => .ok ()

def Tree.checkDepths (limit depth : Nat) : List Tree → Except Fault Unit
  | [] => .ok ()
  | tree :: trees => do
    tree.checkDepth limit depth
    Tree.checkDepths limit depth trees

end

end Munch.Regex
