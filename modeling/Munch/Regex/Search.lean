import Munch.Regex.Program
import Munch.Text.Cursor
import Munch.Unicode.Property

/-!
# Searching with a program

A program is followed depth first from one place of the text, preferred ways first, and no
instruction is followed twice at the same place.

* `Program.find`: the preferred match among those that start first, with its groups.
* `Program.findSpan`: a search that keeps no account of groups.

What has been followed in vain is kept as one number for each place from the current one on, whose
bits are the instructions; places without a number have seen none. Whether a match can be completed
from an instruction at a place does not depend on the way that led there, nor on where the match
began, so what one start has tried in vain is not tried again by a later one. The work of a search
is therefore bounded by the size of the program times the length of the text.
-/

namespace Munch.Regex

/-! ## Conditions on a place -/

/-- Whether a character belongs to words. -/
def isWordChar (unicode : Bool) (c : Char) : Bool :=
  if unicode then Unicode.word.contains c else c.isAlphanum || c = '_'

/-- Whether the character before a place belongs to a word. -/
def wordBefore (unicode : Bool) (p : Cursor) : Bool := p.before.any (isWordChar unicode)

/-- Whether the character after a place belongs to a word. -/
def wordAfter (unicode : Bool) (p : Cursor) : Bool := p.rest.head?.any (isWordChar unicode)

/-- Whether a condition holds at a place. -/
def Look.holds (p : Cursor) : Look → Bool
  | textStart => p.before.isNone
  | textEnd => p.rest.isEmpty
  | lineStart => p.before.all (· = '\n')
  | lineEnd => p.rest.head?.all (· = '\n')
  | lineStartCrlf =>
    match p.before with
    | none => true
    | some c => c = '\n' || (c = '\r' && p.rest.head? != some '\n')
  | lineEndCrlf =>
    match p.rest with
    | [] => true
    | c :: _ => c = '\r' || (c = '\n' && p.before != some '\r')
  | wordBoundary u => wordBefore u p != wordAfter u p
  | notWordBoundary u => wordBefore u p == wordAfter u p
  | wordStart u => !wordBefore u p && wordAfter u p
  | wordEnd u => wordBefore u p && !wordAfter u p
  | wordStartHalf u => !wordBefore u p
  | wordEndHalf u => !wordAfter u p

/-! ## Groups -/

/-- The groups met on a way through the program, the latest first: where they began, and the spans
of those that ended. -/
structure Captures where
  opened : List (Nat × Nat) := []
  spans : List (Nat × Span) := []
  deriving DecidableEq, Inhabited, Repr

namespace Captures

/-- Begins a group at byte `offset`. -/
def opening (c : Captures) (group offset : Nat) : Captures :=
  { c with opened := (group, offset) :: c.opened }

/-- Ends a group at byte `offset`. -/
def closing (c : Captures) (group offset : Nat) : Captures :=
  match c.opened.lookup group with
  | some start => { c with spans := (group, ⟨start, offset⟩) :: c.spans }
  | none => c

/-- The span of the last round in which the group took part. -/
def span? (c : Captures) (group : Nat) : Option Span := c.spans.lookup group

end Captures

/-! ## What has been followed -/

/-- The numbers with a single bit that fit a machine word. -/
def smallBits : Array Nat := Array.ofFn fun i : Fin 63 => 1 <<< i.val

/-- The number whose only bit is bit `i`. -/
def bit (i : Nat) : Nat :=
  match smallBits[i]? with
  | some b => b
  | none => 1 <<< i

theorem bit_eq (i : Nat) : bit i = 1 <<< i := by
  unfold bit
  split
  · next b h =>
    obtain ⟨hi, rfl⟩ := Array.getElem?_eq_some_iff.1 h
    simp [smallBits]
  · rfl

/-- Whether instruction `pc` is among those whose bits make up `seen`. -/
@[inline] def hasBit (seen pc : Nat) : Bool := seen &&& bit pc != 0

theorem and_bit (n i : Nat) : n &&& bit i = if n.testBit i then bit i else 0 := by
  rw [bit_eq, Nat.one_shiftLeft]
  apply Nat.eq_of_testBit_eq
  intro j
  rw [Nat.testBit_and, Nat.testBit_two_pow]
  by_cases h : i = j
  · subst h
    cases n.testBit i <;> simp
  · cases n.testBit i <;> simp [h]

theorem hasBit_eq (seen pc : Nat) : hasBit seen pc = seen.testBit pc := by
  rw [hasBit, and_bit, bit_eq]
  cases seen.testBit pc <;> simp

/-- The end of a search from one start: a match that ends at byte `stop`, or the instructions that
have been followed in vain, at the current place and at each later one. -/
inductive Outcome where
  | found (stop : Nat) (captures : Captures)
  | failed (here : Nat) (later : List Nat)
  deriving DecidableEq, Inhabited, Repr

/-! ## Following a program -/

/-- Follows the program at one place, at most `fuel` instructions deep; `onwards` follows it from
the next place on. The last two arguments are what has been followed in vain so far. -/
def follow (code : Array Inst) (p : Cursor) (onwards : Nat → Captures → List Nat → Outcome) :
    Nat → Nat → Captures → Nat → List Nat → Outcome
  | 0, _, _, here, later => .failed here later
  | fuel + 1, pc, captures, here, later =>
    if hasBit here pc then .failed here later
    else
      let here := here ||| bit pc
      match code[pc]? with
      | none => .failed here later
      | some .accept => .found p.offset captures
      | some (.chars set next) =>
        if p.rest.head?.any set.contains then
          match onwards next captures later with
          | .found stop captures => .found stop captures
          | .failed there later => .failed here (there :: later)
        else .failed here later
      | some (.look l next) =>
        if l.holds p then follow code p onwards fuel next captures here later
        else .failed here later
      | some (.opening group next) =>
        follow code p onwards fuel next (captures.opening group p.offset) here later
      | some (.closing group next) =>
        follow code p onwards fuel next (captures.closing group p.offset) here later
      | some (.split first second) =>
        match follow code p onwards fuel first captures here later with
        | .found stop captures => .found stop captures
        | .failed here later => follow code p onwards fuel second captures here later

/-- Follows the program from a place on, which is given by the character before it, its offset and
the text after it. The last argument is what has been followed in vain, from this place on. -/
def explore (code : Array Inst) (before : Option Char) (offset : Nat) :
    List Char → Nat → Captures → List Nat → Outcome
  | [], pc, captures, seen =>
    follow code ⟨before, [], offset⟩ (fun _ _ later => .failed 0 later) (code.size + 1) pc captures
      (seen.headD 0) seen.tail
  | c :: cs, pc, captures, seen =>
    follow code ⟨before, c :: cs, offset⟩ (explore code (some c) (offset + c.utf8Size) cs)
      (code.size + 1) pc captures (seen.headD 0) seen.tail

/-! ## Searching with groups -/

/-- The span and the groups of the preferred match among those that start first, for starts from the
given place on. The last but one argument is what earlier starts have followed in vain. -/
def Program.findFrom (p : Program) (before : Option Char) (offset : Nat) (seen : List Nat) :
    List Char → Option (Span × Captures)
  | [] =>
    match explore p.code before offset [] p.entry {} seen with
    | .found stop captures => some (⟨offset, stop⟩, captures)
    | .failed _ _ => none
  | c :: cs =>
    match explore p.code before offset (c :: cs) p.entry {} seen with
    | .found stop captures => some (⟨offset, stop⟩, captures)
    | .failed _ later => p.findFrom (some c) (offset + c.utf8Size) later cs

/-- The first match at or after a place. -/
def Program.find (p : Program) (c : Cursor) : Option (Span × Captures) :=
  p.findFrom c.before c.offset [] c.rest

/-! ## Searching without groups -/

/-- The end of a search from one start that keeps no account of groups. -/
inductive Reach where
  | found (stop : Nat)
  | failed (here : Nat) (later : List Nat)
  deriving DecidableEq, Inhabited, Repr

/-- Follows the program at one place as `follow` does, but passes through the ends of groups. -/
def pass (code : Array Inst) (p : Cursor) (onwards : Nat → List Nat → Reach) :
    Nat → Nat → Nat → List Nat → Reach
  | 0, _, here, later => .failed here later
  | fuel + 1, pc, here, later =>
    if hasBit here pc then .failed here later
    else
      let here := here ||| bit pc
      match code[pc]? with
      | none => .failed here later
      | some .accept => .found p.offset
      | some (.chars set next) =>
        if p.rest.head?.any set.contains then
          match onwards next later with
          | .found stop => .found stop
          | .failed there later => .failed here (there :: later)
        else .failed here later
      | some (.look l next) =>
        if l.holds p then pass code p onwards fuel next here later else .failed here later
      | some (.opening _ next) => pass code p onwards fuel next here later
      | some (.closing _ next) => pass code p onwards fuel next here later
      | some (.split first second) =>
        match pass code p onwards fuel first here later with
        | .found stop => .found stop
        | .failed here later => pass code p onwards fuel second here later

/-- Follows the program from a place on. -/
def reach (code : Array Inst) (before : Option Char) (offset : Nat) :
    List Char → Nat → List Nat → Reach
  | [], pc, seen =>
    pass code ⟨before, [], offset⟩ (fun _ later => .failed 0 later) (code.size + 1) pc
      (seen.headD 0) seen.tail
  | c :: cs, pc, seen =>
    pass code ⟨before, c :: cs, offset⟩ (reach code (some c) (offset + c.utf8Size) cs)
      (code.size + 1) pc (seen.headD 0) seen.tail

/-- The span of the preferred match among those that start first, for starts from the given place
on. -/
def Program.findSpanFrom (p : Program) (before : Option Char) (offset : Nat) (seen : List Nat) :
    List Char → Option Span
  | [] =>
    match reach p.code before offset [] p.entry seen with
    | .found stop => some ⟨offset, stop⟩
    | .failed _ _ => none
  | c :: cs =>
    match reach p.code before offset (c :: cs) p.entry seen with
    | .found stop => some ⟨offset, stop⟩
    | .failed _ later => p.findSpanFrom (some c) (offset + c.utf8Size) later cs

/-- The span of the first match at or after a place. -/
def Program.findSpan (p : Program) (c : Cursor) : Option Span :=
  p.findSpanFrom c.before c.offset [] c.rest

end Munch.Regex
