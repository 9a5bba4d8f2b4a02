import Munch.CharSet

/-!
# Written sets of code points

The tables of character properties are texts: hexadecimal code points separated by blanks or line
ends, where `A-B` stands for all code points from `A` to `B`, and `A-B/S` for every `S`-th of them,
from `A` on. The pieces of a table are in increasing order.
-/

namespace Munch.Unicode

/-- The value of a hexadecimal digit of either case. -/
def hexValue? (c : Char) : Option Nat :=
  if '0' ≤ c ∧ c ≤ '9' then some (c.toNat - 48)
  else if 'a' ≤ c ∧ c ≤ 'f' then some (c.toNat - 87)
  else if 'A' ≤ c ∧ c ≤ 'F' then some (c.toNat - 55)
  else none

/-- Reads the hexadecimal digits at the front, on top of `acc`, and returns what follows them. -/
def readHex (acc : Nat) : List Char → Nat × List Char
  | [] => (acc, [])
  | c :: cs =>
    match hexValue? c with
    | some d => readHex (16 * acc + d) cs
    | none => (acc, c :: cs)

/-- The ranges that one piece of a table stands for. -/
def readPiece (piece : List Char) : List (Nat × Nat) :=
  match readHex 0 piece with
  | (lo, '-' :: rest) =>
    match readHex 0 rest with
    | (hi, '/' :: rest) =>
      let step := (readHex 0 rest).1
      (List.range ((hi - lo) / step + 1)).map fun i => (lo + i * step, lo + i * step)
    | (hi, _) => [(lo, hi)]
  | (lo, _) => [(lo, lo)]

/-- The set that a table stands for. -/
def readTable (table : String) : CharSet :=
  let pieces := ((table.splitOn "\n").flatMap (·.splitOn " ")).filter (!·.isEmpty)
  ⟨CharSet.join (pieces.flatMap fun piece => readPiece piece.toList)⟩

end Munch.Unicode
