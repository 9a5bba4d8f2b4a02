import Munch.CharSet

/-!
# Sets of characters in bytes

In UTF-8 a character is a leading byte with up to three more bytes of six bits each. A sequence of
byte ranges stands for the characters whose bytes lie in these ranges, one after the other.

* `CharSet.byteRanges`: the sequences for the characters of a set, in increasing order. Surrogates,
  which have no bytes, are left out.
-/

namespace Munch

/-- The least and the greatest of some bytes. -/
abbrev ByteRange := Nat × Nat

/-- The sequences for the numbers from `lo` to `hi` in `n` bytes of six bits after a first byte,
which counts from `lead` on. All numbers under the same first bytes make one sequence. -/
def digitRanges (lead : Nat) : Nat → Nat → Nat → List (List ByteRange)
  | 0, lo, hi => [[(lead + lo, lead + hi)]]
  | n + 1, lo, hi =>
    let unit := 64 ^ (n + 1)
    let under (digit lo hi : Nat) : List (List ByteRange) :=
      (digitRanges 0x80 n lo hi).map ((lead + digit, lead + digit) :: ·)
    if lo / unit = hi / unit then under (lo / unit) (lo % unit) (hi % unit)
    else
      let first := (lo + unit - 1) / unit
      let next := (hi + 1) / unit
      let below := if lo % unit = 0 then [] else under (lo / unit) (lo % unit) (unit - 1)
      let whole : List (List ByteRange) :=
        if first < next then
          [(lead + first, lead + next - 1) :: List.replicate (n + 1) (0x80, 0xBF)]
        else []
      let above := if (hi + 1) % unit = 0 then [] else under (hi / unit) 0 (hi % unit)
      below ++ whole ++ above

/-- The numbers that are written in one form: their bounds, the first byte for the number 0, and how
many bytes follow it. -/
structure ByteForm where
  least : Nat
  greatest : Nat
  lead : Nat
  tail : Nat

/-- All forms in increasing order. -/
def ByteForm.all : List ByteForm := [
  ⟨0, 0x7F, 0, 0⟩, ⟨0x80, 0x7FF, 0xC0, 1⟩, ⟨0x800, 0xD7FF, 0xE0, 2⟩, ⟨0xE000, 0xFFFF, 0xE0, 2⟩,
  ⟨0x10000, 0x10FFFF, 0xF0, 3⟩]

/-- The sequences for the characters of a set. -/
def CharSet.byteRanges (s : CharSet) : List (List ByteRange) :=
  s.ranges.flatMap fun (lo, hi) =>
    ByteForm.all.flatMap fun f =>
      if max lo f.least ≤ min hi f.greatest then
        digitRanges f.lead f.tail (max lo f.least) (min hi f.greatest)
      else []

end Munch
