import Munch.Match
import Munch.Regex.Expr.OfTree
import Munch.Regex.Expr.Size
import Munch.Regex.Fault.Report
import Munch.Regex.Search
import Munch.Regex.Tree.Depth
import Munch.Regex.Tree.Parse

/-!
# Compiled regular expressions

`Regex.compile` turns the text of a pattern into a `Regex`, or says what is wrong with it;
`Regex.find` searches with one.
-/

namespace Munch

namespace Regex

/-- Bounds on what is compiled. -/
structure Limits where
  /-- The greatest size in bytes. -/
  size : Nat := 10485760
  /-- The greatest nesting depth. -/
  nesting : Nat := 250
  deriving DecidableEq, Inhabited, Repr

/-- Why a pattern is no regular expression. -/
inductive CompileError where
  | malformed (pattern : String) (fault : Fault)
  | tooLarge (limit : Nat)
  deriving DecidableEq, Inhabited, Repr

def CompileError.message : CompileError → String
  | malformed pattern fault => fault.report pattern.toList
  | tooLarge limit => "Compiled regex exceeds size limit of " ++ toString limit ++ " bytes."

/-- The expression that a pattern means in the given mode, if it has no fault. -/
def Expr.ofPattern? (nesting : Nat) (mode : Mode) (pattern : List Char) : Except Fault Expr := do
  let tree ← Tree.parse mode.verbose pattern
  tree.checkDepth nesting 0
  Expr.ofTree? mode tree

end Regex

/-- A compiled regular expression: its text, its program, and the names of its groups, the whole
match as group 0 first. -/
structure Regex where
  source : String
  program : Regex.Program
  groupNames : List (Option String)
  deriving DecidableEq, Inhabited, Repr

namespace Regex

/-- Compiles a pattern in the given mode. -/
def compile (limits : Limits) (mode : Mode) (source : String) : Except CompileError Regex :=
  match Expr.ofPattern? limits.nesting mode source.toList with
  | .error fault => .error (.malformed source fault)
  | .ok e =>
    if limits.size < e.automatonSize then .error (.tooLarge limits.size)
    else .ok ⟨source, .ofExpr e, e.groupNames⟩

/-- The number of groups, the whole match included. -/
def groupCount (r : Regex) : Nat := r.groupNames.length

/-- The first match at or after a place. An expression without groups is searched for without an
account of them. -/
def find (r : Regex) (c : Cursor) : Option Match :=
  if r.groupCount = 1 then (r.program.findSpan c).map fun span => ⟨span, []⟩
  else (r.program.find c).map fun (span, captures) =>
    ⟨span, (List.range (r.groupCount - 1)).map fun i => captures.span? (i + 1)⟩

/-- The number of the group with the given name. -/
def groupIndex? (r : Regex) (name : String) : Option Nat := r.groupNames.idxOf? (some name)

end Regex

end Munch
