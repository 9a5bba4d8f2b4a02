import Munch.Regex.Expr

/-!
# Texts that matches begin with

To search for an expression that matches a few texts and nothing else is to search for these texts.
`Expr.texts` finds the texts that all matches begin with; a text is whole if it is a match.

There must not be too many of them. So a list that is too long is given up or cut short, and what is
cut short is no longer whole. `Texts.select` decides which texts are searched for: those behind a
text that they begin with never match, a beginning that is rare or long is enough, and many texts
are cut short. `Expr.isTextual` says whether whole texts are left after that.
-/

namespace Munch.Regex

/-- The bytes that a match begins with, and whether they are all of it. -/
structure Beginning where
  bytes : List UInt8
  whole : Bool
  deriving DecidableEq, Inhabited, Repr

namespace Beginning

/-- The first `n` bytes. -/
def cut (n : Nat) (t : Beginning) : Beginning :=
  if n < t.bytes.length then ⟨t.bytes.take n, false⟩ else t

/-- The same bytes, with more behind them. -/
def more (t : Beginning) : Beginning := { t with whole := false }

end Beginning

/-- What the matches of an expression begin with, in the order of preference; none if that can be
anything. -/
abbrev Texts := Option (List Beginning)

namespace Texts

/-! ## Bounds -/

/-- The most texts in a list. -/
def maxCount : Nat := 250

/-- The most bytes of a text. -/
def maxBytes : Nat := 100

/-- The most characters of a set that are listed. -/
def maxChars : Nat := 10

/-- The most rounds of a repetition that are listed. -/
def maxRounds : Nat := 10

/-- The bytes that are kept of each text where there are too many of them. -/
def keptBytes : Nat := 4

/-! ## Lists of texts -/

/-- Takes neighbours with the same bytes together. -/
def dedup (ts : List Beginning) : List Beginning :=
  ts.foldr (fun t ts =>
    match ts with
    | [] => [t]
    | u :: us => if t.bytes = u.bytes then ⟨t.bytes, t.whole && u.whole⟩ :: us else t :: u :: us) []

def shorten (n : Nat) (ts : List Beginning) : List Beginning := ts.map (·.cut n)

/-- The empty text. -/
def nothing : Texts := some [⟨[], true⟩]

/-- Whether nothing can be put behind any of the texts. -/
def isOpen (ts : Texts) : Bool := ts.all (·.all (!·.whole))

/-- The same texts, as beginnings. -/
def beginnings (ts : Texts) : Texts := ts.map (·.map (·.more))

/-- Every whole text of the first list followed by every text of the second. -/
def cross : Texts → Texts → Texts
  | some as, some bs =>
    if as.length * bs.length ≤ maxCount then
      some (shorten maxBytes (dedup (as.flatMap fun a =>
        if a.whole then bs.map fun b => ⟨a.bytes ++ b.bytes, b.whole⟩ else [a])))
    else followed as
  | some as, none => followed as
  | none, _ => none
where
  /-- Texts followed by anything. -/
  followed (as : List Beginning) : Texts :=
    if as.any (·.bytes.isEmpty) then none else some (shorten maxBytes (as.map (·.more)))

/-- The texts of both lists. -/
def union : Texts → Texts → Texts
  | some as, some bs =>
    if as.length + bs.length ≤ maxCount then some (dedup (as ++ bs))
    else
      let as := dedup (shorten keptBytes as)
      let bs := dedup (shorten keptBytes bs)
      if as.length + bs.length ≤ maxCount then some (dedup (as ++ bs)) else none
  | _, _ => none

/-- The texts of the first list with those of the second behind them, as far as there can be any. -/
def followedBy (as bs : Texts) : Texts := if isOpen as then as else cross as bs

/-- The texts of `n` rounds. -/
def rounds (round : Texts) : Nat → Texts
  | 0 => nothing
  | n + 1 => (rounds round n).followedBy round

/-- The characters of a set, if they are few. -/
def ofSet (set : CharSet) : Texts :=
  if set.size ≤ maxChars then some (set.toList.map fun c => ⟨String.utf8EncodeChar c, true⟩)
  else none

/-- The texts of a repetition. -/
def repeated (min : Nat) (max : Option Nat) (greedy : Bool) (round : Texts) : Texts :=
  if min = 0 then
    let round := if max = some 1 then round else beginnings round
    if greedy then union round nothing else union nothing round
  else if max = none then beginnings round
  else
    let texts := rounds round (Nat.min min maxRounds)
    if max = some min ∧ min ≤ maxRounds then texts else beginnings texts

end Texts

/-! ## Texts of an expression -/

/-- How an expression adds to the texts of what stands before it, in a sequence and in a choice. -/
structure Adding where
  after : Texts → Texts
  beside : Texts → Texts

namespace Adding

/-- Adds the given texts. -/
def one (ts : Texts) : Adding := ⟨(·.followedBy ts), (·.union ts)⟩

/-- Adds one part of a sequence after the other. -/
def seq (a b : Adding) : Adding :=
  let after := fun ts => b.after (a.after ts)
  ⟨after, (·.union (after .nothing))⟩

/-- Adds one branch of a choice after the other. -/
def alt (a b : Adding) : Adding :=
  let beside := fun ts => b.beside (a.beside ts)
  ⟨(·.followedBy (beside (some []))), beside⟩

/-- The texts that are added to nothing. -/
def texts (a : Adding) : Texts := a.after .nothing

end Adding

/-- How an expression adds the texts that its matches begin with. -/
def Expr.adding : Expr → Adding
  | empty => .one .nothing
  | look _ => .one .nothing
  | chars set _ => .one (.ofSet set)
  | iterate min max greedy body => .one (body.adding.texts.repeated min max greedy)
  | capture _ _ body => .one body.adding.texts
  | seq a b => a.adding.seq b.adding
  | alt a b => a.adding.alt b.adding

/-- The texts that matches of an expression begin with. -/
def Expr.texts (e : Expr) : Texts := e.adding.texts

namespace Texts

/-! ## Texts to search for -/

/-- The texts that do not begin with one before them. -/
def leading (before : List (List UInt8)) : List Beginning → List Beginning
  | [] => []
  | t :: ts =>
    if before.any (·.isPrefixOf t.bytes) then leading before ts
    else t :: leading (t.bytes :: before) ts

/-- The bytes that all texts begin with. -/
def shared : List Beginning → List UInt8
  | [] => []
  | t :: ts => ts.foldl (fun bytes u => Expr.commonPrefix bytes u.bytes) t.bytes

/-- The ASCII bytes that are common in texts. -/
def commonBytes : List UInt8 :=
  "\n\r (),-./0129:_abcdefghilmnoprstuvxy|".toList.map (·.toNat.toUInt8)

/-- Whether a byte is common in texts. All bytes that begin characters above ASCII count. -/
def isCommon (b : UInt8) : Bool := 0xC0 ≤ b || commonBytes.contains b

def isWhole (ts : List Beginning) : Bool := ts.all (·.whole)

/-- Shortens texts, as long as there are too many, by the given bounds: the bytes to keep, and the
most texts that need not be shortened. -/
def shortenMany : List (Nat × Nat) → List Beginning → List Beginning
  | [], ts => ts
  | (kept, most) :: bounds, ts =>
    if ts.length ≤ most then ts else shortenMany bounds (leading [] (shorten kept ts))

/-- Many texts as their beginnings, unless these are too short or still too many. -/
def fewer (ts : List Beginning) : List Beginning :=
  let short := shortenMany [(5, 10), (4, 10), (3, 64), (2, 64), (1, 10)] ts
  if short.isEmpty ∨ short.any (·.bytes.length ≤ 2) ∨ 64 < short.length then ts else short

/-- The texts to search for instead of some texts, none of which is empty. Where one of these is not
whole, the same is true of whatever could be searched for, so they are left alone. -/
def select (ts : List Beginning) : List Beginning :=
  let least := leading [] ts
  if !isWhole least then least
  else
    let common := shared least
    let isShortAndRare := common.length ≤ 3 ∧ common.head?.any (!isCommon ·)
    if 1 < ts.length ∧ isShortAndRare then dedup (shorten 1 least)
    else if 4 < common.length ∨ (1 < common.length ∧ 16 < least.length) then
      dedup (shorten common.length least)
    else fewer least

end Texts

/-- The least number of texts to choose from that are searched for however many there are. -/
def manyTexts : Nat := 3000

/-- The bytes of the text that an expression spells, if it is a sequence of single characters. -/
def Expr.spelling? : Expr → Option (List UInt8)
  | chars set _ => set.toChar?.map String.utf8EncodeChar
  | seq a b => do return (← a.spelling?) ++ (← b.spelling?)
  | _ => none

/-- The bytes of the texts that the branches of an expression spell, if all of them do. -/
def Expr.spellings? (e : Expr) : Option (List (List UInt8)) := e.branches.mapM spelling?

/-- Whether an expression has a condition on a place. -/
def Expr.hasLook : Expr → Bool
  | look _ => true
  | iterate _ _ _ body => body.hasLook
  | capture _ _ body => body.hasLook
  | seq a b => a.hasLook || b.hasLook
  | alt a b => a.hasLook || b.hasLook
  | _ => false

/-- Whether to search for an expression is to search for texts. Groups and conditions on a place are
more than texts. -/
def Expr.isTextual (e : Expr) : Bool :=
  let ofTexts := e.texts.any fun ts =>
    !ts.isEmpty && !ts.any (·.bytes.isEmpty) && Texts.isWhole (Texts.select ts)
  let isMany := e.spellings?.any (manyTexts ≤ ·.length)
  e.captures.isEmpty && !e.hasLook && (ofTexts || isMany)

end Munch.Regex
