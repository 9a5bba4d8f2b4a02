import Munch.Regex.Expr
import Munch.Regex.Expr.OfClass

/-!
# The expression that a tree means

`Expr.ofTree?` resolves the flags of a parsed pattern and the sets that its classes mean, or finds
the first fault in doing so. A directive holds to the end of the group around it, also in the
branches that follow.
-/

namespace Munch.Regex

/-- The condition that an assertion means. -/
def Mode.look (m : Mode) : Assertion → Look
  | .startLine =>
    if m.multiLine then (if m.crlf then .lineStartCrlf else .lineStart) else .textStart
  | .endLine => if m.multiLine then (if m.crlf then .lineEndCrlf else .lineEnd) else .textEnd
  | .startText => .textStart
  | .endText => .textEnd
  | .wordBoundary => .wordBoundary m.unicode
  | .notWordBoundary => .notWordBoundary m.unicode
  | .wordStart => .wordStart m.unicode
  | .wordEnd => .wordEnd m.unicode
  | .wordStartHalf => .wordStartHalf m.unicode
  | .wordEndHalf => .wordEndHalf m.unicode

/-- The characters that the dot matches. -/
def Mode.dot (m : Mode) (extent : Extent) : Except Fault CharSet :=
  if m.unicode then
    .ok (if m.dotAll then .full
      else if m.crlf then (CharSet.singleton '\n' ∪ .singleton '\r').compl
      else (CharSet.singleton '\n').compl)
  else .error ⟨.invalidUtf8, extent, none⟩

/-- The characters that a literal matches. -/
def Mode.literal (m : Mode) (l : Literal) : Except Fault CharSet := do
  return m.fold (.singleton (← m.character l))

/-- The expression of a set: one of bytes outside Unicode mode. -/
def Mode.chars (m : Mode) (set : CharSet) : Expr := .ofSet (!m.unicode) set

/-- The expression of an atom. -/
def Mode.atom (m : Mode) : Atom → Except Fault Expr
  | .literal l => do return m.chars (← m.literal l)
  | .letterClass e kind negated => do return m.chars (← m.letterClass e kind negated)
  | .property e query negated => do return m.chars (← m.property e query negated)
  | .assertion _ kind => .ok (.look (m.look kind))
  | .dot e => do return m.chars (← m.dot e)

mutual

/-- The expression of a tree that is read in mode `m`, and the mode after it. -/
def Tree.toExpr (m : Mode) : Tree → Except Fault (Expr × Mode)
  | .empty _ => .ok (.empty, m)
  | .flags _ switches => .ok (.empty, m.setAll switches)
  | .atom a => do return (← m.atom a, m)
  | .bracketed e negated set => do
    return (m.chars (← m.foldAndNegate e negated (← set.set m)), m)
  | .repetition _ min max greedy body => do
    let (body, m) ← body.toExpr m
    return (.repeated min max (greedy != m.swapGreed) body, m)
  | .group _ (.capture index name) body => do
    let (body, _) ← body.toExpr m
    return (.capture index name body, m)
  | .group _ (.plain switches) body => do
    let (body, _) ← body.toExpr (m.setAll switches)
    return (body, m)
  | .concat _ items => do
    let (items, m) ← Tree.toExprs m items
    return (.sequence items, m)
  | .alternation _ branches => do
    let (branches, m) ← Tree.toExprs m branches
    return (.choice branches, m)

/-- The expressions of trees that are read one after the other. -/
def Tree.toExprs (m : Mode) : List Tree → Except Fault (List Expr × Mode)
  | [] => .ok ([], m)
  | tree :: trees => do
    let (e, m) ← tree.toExpr m
    let (es, m) ← Tree.toExprs m trees
    return (e :: es, m)

end

/-- The expression of a whole pattern that is read in mode `m`. -/
def Expr.ofTree? (m : Mode) (tree : Tree) : Except Fault Expr := (tree.toExpr m).map (·.1)

end Munch.Regex
