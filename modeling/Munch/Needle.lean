import Munch.Match
import Munch.Text.Cursor

/-!
# Verbatim search

A `Needle` is a text that is searched as it is. It is found wherever its bytes stand in the text
searched, and because a character never begins inside another one, a needle that is not empty is
found between characters alone. The empty needle is found at any byte, also inside a character.
-/

namespace Munch

/-- A text to be searched verbatim. -/
structure Needle where
  text : List Char
  deriving DecidableEq, Inhabited, Repr

namespace Needle

def byteLength (n : Needle) : Nat := Text.byteLength n.text

/-- The bytes of the needle. -/
def bytes (n : Needle) : List UInt8 := n.text.flatMap String.utf8EncodeChar

/-- The span of the needle at byte `offset`. -/
def matchAt (n : Needle) (offset : Nat) : Match := { span := ⟨offset, offset + n.byteLength⟩ }

/-- The first place of the needle in a text that begins at byte `offset`. -/
def findFrom (n : Needle) (offset : Nat) : List Char → Option Match
  | [] => if n.text.isEmpty then some (n.matchAt offset) else none
  | c :: cs =>
    if n.text.isPrefixOf (c :: cs) then some (n.matchAt offset)
    else n.findFrom (offset + c.utf8Size) cs

/-- The first match at or after a place. -/
def find (n : Needle) (c : Cursor) : Option Match := n.findFrom c.offset c.rest

/-- The first match at or after byte `start`. -/
def findAt (n : Needle) (text : List Char) (start : Nat) : Option Match :=
  if n.text.isEmpty then
    if start ≤ Text.byteLength text then some (n.matchAt start) else none
  else (Cursor.seek text start).bind n.find

end Needle

end Munch
