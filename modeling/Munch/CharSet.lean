/-!
# Sets of code points

A `CharSet` is a list of closed ranges of code points in increasing order, no two of which overlap
or touch. The ends of a range are characters; what lies between may include surrogates, which are
none.

* `CharSet.ofRanges` accepts ranges in any order and brings them into that form.
* `∪`, `compl`, `∩`, `\` and `symmDiff` are the usual operations; complements are taken in
  `[0, 0x10FFFF]`. What is next to a range begins or ends with the next character (`codeBefore`,
  `codeAfter`), so a range that is cut at the surrogates keeps none of them.

Ranges are joined by their numbers, so those that end before the surrogates and those that begin
behind them stay apart. Sets of the same characters can therefore differ, as the full set and the
union of both sides do.
-/

namespace Munch

/-- The character with the given code point. -/
def charOfCode? (n : Nat) : Option Char :=
  if h : n.isValidChar then some (Char.ofNatAux n h) else none

/-- A set of code points, as increasing closed ranges with a gap between any two. -/
structure CharSet where
  ranges : List (Nat × Nat)
  deriving DecidableEq, Inhabited, Repr

namespace CharSet

/-- The greatest code point. -/
def maxCode : Nat := 0x10FFFF

/-! ## Sorted lists of ranges -/

/-- Joins `(lo, hi)` with the ranges after it that overlap or touch it. -/
def joinFrom (lo hi : Nat) : List (Nat × Nat) → List (Nat × Nat)
  | [] => [(lo, hi)]
  | (lo', hi') :: rs =>
    if lo' ≤ hi + 1 then joinFrom lo (max hi hi') rs else (lo, hi) :: joinFrom lo' hi' rs

/-- Joins the overlapping and touching ranges of a list sorted by lower bound. -/
def join : List (Nat × Nat) → List (Nat × Nat)
  | [] => []
  | (lo, hi) :: rs => joinFrom lo hi rs

/-- Puts `a` into a list at its place and continues with what is left by `k`. -/
def mergeOne (a : Nat × Nat) (k : List (Nat × Nat) → List (Nat × Nat)) :
    List (Nat × Nat) → List (Nat × Nat)
  | [] => a :: k []
  | b :: bs => if a.1 ≤ b.1 then a :: k (b :: bs) else b :: mergeOne a k bs

/-- Merges two lists sorted by lower bound. -/
def merge : List (Nat × Nat) → List (Nat × Nat) → List (Nat × Nat)
  | [], bs => bs
  | a :: as, bs => mergeOne a (merge as) bs

/-- The code point of the character before another one. -/
def codeBefore (n : Nat) : Nat := if n = 0xE000 then 0xD7FF else n - 1

/-- The code point of the character after another one. -/
def codeAfter (n : Nat) : Nat := if n = 0xD7FF then 0xE000 else n + 1

/-- The ranges between the given ones and after the last. Two ranges that only surrogates keep apart
have a gap from the end of the first to the beginning of the second, which are taken for its ends
in the wrong order. -/
def gaps : List (Nat × Nat) → List (Nat × Nat)
  | [] => []
  | [(_, hi)] => if hi < maxCode then [(codeAfter hi, maxCode)] else []
  | (_, hi) :: (lo, hi') :: rs =>
    (min (codeAfter hi) (codeBefore lo), max (codeAfter hi) (codeBefore lo)) ::
      gaps ((lo, hi') :: rs)

/-- The parts that `a` shares with the ranges of a list, up to the first that ends behind `a`; `k`
continues from there. -/
def meetOne (a : Nat × Nat) (k : List (Nat × Nat) → List (Nat × Nat)) :
    List (Nat × Nat) → List (Nat × Nat)
  | [] => []
  | b :: bs =>
    let rest := if a.2 < b.2 then k (b :: bs) else meetOne a k bs
    if max a.1 b.1 ≤ min a.2 b.2 then (max a.1 b.1, min a.2 b.2) :: rest else rest

/-- The parts that two sorted lists share. -/
def meet : List (Nat × Nat) → List (Nat × Nat) → List (Nat × Nat)
  | [], _ => []
  | a :: as, bs => meetOne a (meet as) bs

/-- What the ranges of a list leave of `(lo, hi)`; `k` continues with those that are not behind. -/
def cutOne (k : List (Nat × Nat) → List (Nat × Nat)) (hi lo : Nat) :
    List (Nat × Nat) → List (Nat × Nat)
  | [] => (lo, hi) :: k []
  | b :: bs =>
    if b.2 < lo then cutOne k hi lo bs
    else if hi < b.1 then (lo, hi) :: k (b :: bs)
    else
      let rest := if b.2 < hi then cutOne k hi (codeAfter b.2) bs else k (b :: bs)
      if lo < b.1 then (lo, codeBefore b.1) :: rest else rest

/-- What a sorted list leaves of another one. -/
def cut : List (Nat × Nat) → List (Nat × Nat) → List (Nat × Nat)
  | [], _ => []
  | a :: as, bs => cutOne (cut as) a.2 a.1 bs

/-- Membership in a sorted list of ranges. -/
def inRanges (c : Nat) : List (Nat × Nat) → Bool
  | [] => false
  | (lo, hi) :: rs => if c < lo then false else c ≤ hi || inRanges c rs

/-! ## Operations -/

def empty : CharSet := ⟨[]⟩

instance : EmptyCollection CharSet := ⟨empty⟩

/-- Every code point. -/
def full : CharSet := ⟨[(0, maxCode)]⟩

def range (lo hi : Nat) : CharSet := ⟨[(lo, hi)]⟩

def singleton (c : Char) : CharSet := range c.toNat c.toNat

def union (a b : CharSet) : CharSet := ⟨join (merge a.ranges b.ranges)⟩

instance : Union CharSet := ⟨union⟩

def compl (a : CharSet) : CharSet :=
  match a.ranges with
  | [] => full
  | (lo, hi) :: rs => ⟨(if 0 < lo then [(0, codeBefore lo)] else []) ++ gaps ((lo, hi) :: rs)⟩

def inter (a b : CharSet) : CharSet := ⟨meet a.ranges b.ranges⟩

instance : Inter CharSet := ⟨inter⟩

def diff (a b : CharSet) : CharSet := ⟨cut a.ranges b.ranges⟩

instance : SDiff CharSet := ⟨diff⟩

def symmDiff (a b : CharSet) : CharSet := (a ∪ b) \ (a ∩ b)

/-- The set of all members of the given ranges. -/
def ofRanges (rs : List (Nat × Nat)) : CharSet :=
  rs.foldr (fun r s => range r.1 r.2 ∪ s) ∅

/-- The union of several sets. -/
def unions (ss : List CharSet) : CharSet := ss.foldr (· ∪ ·) ∅

/-- Whether the code point `c` is a member. -/
def hasCode (s : CharSet) (c : Nat) : Bool := inRanges c s.ranges

/-- Whether the character `c` is a member. -/
def contains (s : CharSet) (c : Char) : Bool := s.hasCode c.toNat

/-- The only member of a set that has just one. -/
def toChar? (s : CharSet) : Option Char :=
  match s.ranges with
  | [(lo, hi)] => if lo = hi then charOfCode? lo else none
  | _ => none

/-- The number of members. -/
def size (s : CharSet) : Nat := s.ranges.foldr (fun r n => r.2 + 1 - r.1 + n) 0

/-- The characters that are members, in increasing order. -/
def toList (s : CharSet) : List Char :=
  (s.ranges.flatMap fun r => List.range' r.1 (r.2 + 1 - r.1)).filterMap charOfCode?

def isEmpty (s : CharSet) : Bool := s.ranges.isEmpty

/-- Whether no member lies above `0x7F`. -/
def isAscii (s : CharSet) : Bool := s.ranges.all (·.2 ≤ 0x7F)

end CharSet

end Munch
