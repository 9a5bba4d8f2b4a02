/-!
# Lines and columns

A `LineTracker` reads a text piece by piece and knows the line and column that come next. The line
ends are `\n`, `\r\n` and a `\r` that no `\n` follows, also where the pieces separate `\r` from
`\n`. Both counts begin at 1, and columns count characters.
-/

namespace Munch

/-- Where something begins: line, column and byte offset. -/
structure Location where
  line : Nat
  column : Nat
  offset : Nat
  deriving DecidableEq, Inhabited, Repr

/-- The written form `line:column`. -/
def Location.render (l : Location) : String := toString l.line ++ ":" ++ toString l.column

/-- The line and column of the next character. -/
structure LineTracker where
  line : Nat
  column : Nat
  /-- Whether the last character was `\r`, whose line end a `\n` would complete. -/
  afterReturn : Bool
  deriving DecidableEq, Inhabited, Repr

namespace LineTracker

/-- The start of a text. -/
def start : LineTracker := ⟨1, 1, false⟩

/-- Moves past one character. -/
def step (t : LineTracker) (c : Char) : LineTracker :=
  if c = '\n' ∧ t.afterReturn then { t with afterReturn := false }
  else if c = '\n' ∨ c = '\r' then ⟨t.line + 1, 1, c = '\r'⟩
  else ⟨t.line, t.column + 1, false⟩

/-- Moves past a text. -/
def advance (t : LineTracker) (text : List Char) : LineTracker := text.foldl step t

def toLocation (t : LineTracker) (offset : Nat) : Location := ⟨t.line, t.column, offset⟩

end LineTracker

end Munch
