import Munch.Regex.Mode
import Munch.Unicode.CaseFold
import Munch.Unicode.Lookup

/-!
# The set that a class means

Classes as sets of characters. In Unicode mode every character may be a member. Outside it classes
are sets of ASCII characters, because a class must not match a part of a character: complements are
refused there, and so are members above ASCII.
-/

namespace Munch.Regex

/-! ## Named sets -/

/-- The members of a named class. -/
def NamedClass.set : NamedClass → CharSet
  | alnum => ⟨[(0x30, 0x39), (0x41, 0x5A), (0x61, 0x7A)]⟩
  | alpha => ⟨[(0x41, 0x5A), (0x61, 0x7A)]⟩
  | ascii => ⟨[(0, 0x7F)]⟩
  | blank => ⟨[(0x09, 0x09), (0x20, 0x20)]⟩
  | cntrl => ⟨[(0, 0x1F), (0x7F, 0x7F)]⟩
  | digit => ⟨[(0x30, 0x39)]⟩
  | graph => ⟨[(0x21, 0x7E)]⟩
  | lower => ⟨[(0x61, 0x7A)]⟩
  | print => ⟨[(0x20, 0x7E)]⟩
  | punct => ⟨[(0x21, 0x2F), (0x3A, 0x40), (0x5B, 0x60), (0x7B, 0x7E)]⟩
  | space => ⟨[(0x09, 0x0D), (0x20, 0x20)]⟩
  | upper => ⟨[(0x41, 0x5A)]⟩
  | word => ⟨[(0x30, 0x39), (0x41, 0x5A), (0x5F, 0x5F), (0x61, 0x7A)]⟩
  | xdigit => ⟨[(0x30, 0x39), (0x41, 0x46), (0x61, 0x66)]⟩

/-- The members of `\d`, `\s` or `\w`. -/
def LetterClass.set (unicode : Bool) : LetterClass → CharSet
  | digit => if unicode then Unicode.Category.decimalNumber else NamedClass.digit.set
  | space => if unicode then Unicode.whiteSpace else NamedClass.space.set
  | word => if unicode then Unicode.word else NamedClass.word.set

/-- The members of a property, or the cause why there is no such property. -/
def PropertyQuery.set : PropertyQuery → Except Cause CharSet
  | letter c => named (Unicode.lookUp? (String.singleton c))
  | name n => named (Unicode.lookUp? n)
  | value p v => named (Unicode.lookUpValue? p v)
where
  named : Except Unicode.LookupError CharSet → Except Cause CharSet
    | .ok set => .ok set
    | .error .unknownProperty => .error .propertyUnknown
    | .error .unknownValue => .error .propertyValueUnknown

/-! ## Classes -/

/-- Closes a set under case if the mode says so. -/
def Mode.fold (m : Mode) (set : CharSet) : CharSet :=
  if m.ignoreCase then (if m.unicode then Unicode.foldCase set else Unicode.foldCaseAscii set)
  else set

/-- Refuses a set with members above ASCII outside Unicode mode. -/
def Mode.allow (m : Mode) (extent : Extent) (set : CharSet) : Except Fault CharSet :=
  if m.unicode ∨ set.isAscii then .ok set else .error ⟨.invalidUtf8, extent, none⟩

/-- The set or, if negated, its complement. -/
def negateIf (negated : Bool) (set : CharSet) : CharSet := if negated then set.compl else set

/-- The set under the case rule of the mode, negated if asked for. -/
def Mode.foldAndNegate (m : Mode) (extent : Extent) (negated : Bool) (set : CharSet) :
    Except Fault CharSet :=
  m.allow extent (negateIf negated (m.fold set))

/-- A character as it is meant by the mode: outside Unicode mode two digits mean a byte, and a byte
above ASCII is no character. -/
def Mode.character (m : Mode) (l : Literal) : Except Fault Char :=
  if !m.unicode && l.asByte && 0x7F < l.char.toNat then .error ⟨.invalidUtf8, l.extent, none⟩
  else .ok l.char

/-- A character as the member of a class. -/
def Mode.member (m : Mode) (l : Literal) : Except Fault Nat := do
  let c ← m.character l
  if !m.unicode && 0x7F < c.toNat then .error ⟨.unicodeNotAllowed, l.extent, none⟩
  return c.toNat

/-- The set of a one-letter class. -/
def Mode.letterClass (m : Mode) (extent : Extent) (kind : LetterClass) (negated : Bool) :
    Except Fault CharSet :=
  m.allow extent (negateIf negated (kind.set m.unicode))

/-- The set of a property. -/
def Mode.property (m : Mode) (extent : Extent) (query : PropertyQuery) (negated : Bool) :
    Except Fault CharSet :=
  if m.unicode then
    match query.set with
    | .ok set => m.foldAndNegate extent negated set
    | .error cause => .error ⟨cause, extent, none⟩
  else .error ⟨.unicodeNotAllowed, extent, none⟩

def SetOp.apply : SetOp → CharSet → CharSet → CharSet
  | intersection, a, b => a ∩ b
  | difference, a, b => a \ b
  | symmetricDifference, a, b => a.symmDiff b

mutual

/-- The set that stands inside brackets. -/
def ClassSet.set (m : Mode) : ClassSet → Except Fault CharSet
  | .empty _ => .ok ∅
  | .literal l => do
    let c ← m.member l
    return .range c c
  | .range _ lo hi => do
    let lo ← m.member lo
    return .range lo (← m.member hi)
  | .namedClass e kind negated => m.foldAndNegate e negated kind.set
  | .letterClass e kind negated => m.letterClass e kind negated
  | .property e query negated => m.property e query negated
  | .bracketed e negated set => do m.foldAndNegate e negated (← set.set m)
  | .union _ items => ClassSet.unionSet m items
  | .operation _ op left right => do
    let left ← left.set m
    let right ← right.set m
    return op.apply (m.fold left) (m.fold right)

/-- The union of the given sets. -/
def ClassSet.unionSet (m : Mode) : List ClassSet → Except Fault CharSet
  | [] => .ok ∅
  | item :: items => do
    let set ← item.set m
    return set ∪ (← ClassSet.unionSet m items)

end

end Munch.Regex
