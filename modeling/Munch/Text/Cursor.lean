import Munch.Text.Utf8

/-!
# Places in a text

A `Cursor` stands between two characters of a text: it knows the character before it, the text
after it, and its byte offset.

* `Cursor.seek`: the first place at or after a byte offset, which itself may lie inside a character.
* `Cursor.readTo`: the text up to a byte offset, and the place after it.
-/

namespace Munch

/-- A place between two characters of a text. -/
structure Cursor where
  /-- The character before the place, unless it is the start of the text. -/
  before : Option Char
  /-- The text after the place. -/
  rest : List Char
  /-- The number of bytes before the place. -/
  offset : Nat
  deriving DecidableEq, Inhabited, Repr

namespace Cursor

/-- The start of a text. -/
def ofText (text : List Char) : Cursor := ⟨none, text, 0⟩

/-- Reads up to byte `stop`, from a place on that is given by the character before it, its offset
and the text after it. Returns the text read and the place after it. -/
def readFrom (stop : Nat) (before : Option Char) (offset : Nat) :
    List Char → List Char × Cursor
  | [] => ([], ⟨before, [], offset⟩)
  | c :: cs =>
    if offset < stop then
      let (text, after) := readFrom stop (some c) (offset + c.utf8Size) cs
      (c :: text, after)
    else ([], ⟨before, c :: cs, offset⟩)

/-- Reads up to byte `stop` and returns the text read and the place after it. -/
def readTo (p : Cursor) (stop : Nat) : List Char × Cursor :=
  readFrom stop p.before p.offset p.rest

/-- The first place at or after byte `start`, searched from the given place on. -/
def seekFrom (start : Nat) (before : Option Char) (offset : Nat) : List Char → Option Cursor
  | [] => if start ≤ offset then some ⟨before, [], offset⟩ else none
  | c :: cs =>
    if start ≤ offset then some ⟨before, c :: cs, offset⟩
    else seekFrom start (some c) (offset + c.utf8Size) cs

/-- The first place of a text at or after byte `start`; none past the end of the text. -/
def seek (text : List Char) (start : Nat) : Option Cursor := seekFrom start none 0 text

end Cursor

end Munch
