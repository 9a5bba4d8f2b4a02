import Munch.Regex.Tree.Escape

/-!
# Bracketed classes

Reading what stands between `[` and `]`: characters, ranges, escapes, named classes, nested classes
and the set operations `&&`, `--` and `~~`, which are of one rank and group to the left.
-/

namespace Munch.Regex

/-! ## Pieces of a class -/

/-- The named class with the given name. -/
def NamedClass.ofName? : String → Option NamedClass
  | "alnum" => some .alnum
  | "alpha" => some .alpha
  | "ascii" => some .ascii
  | "blank" => some .blank
  | "cntrl" => some .cntrl
  | "digit" => some .digit
  | "graph" => some .graph
  | "lower" => some .lower
  | "print" => some .print
  | "punct" => some .punct
  | "space" => some .space
  | "upper" => some .upper
  | "word" => some .word
  | "xdigit" => some .xdigit
  | _ => none

/-- Reads a named class such as `[:^alpha:]`, if one stands at the front. -/
def namedClass? (whole : List Char) : Option (ClassSet × List Char) :=
  match whole with
  | '[' :: ':' :: cs =>
    let (negated, cs) := match cs with
      | '^' :: cs => (true, cs)
      | cs => (false, cs)
    match cs.dropWhile (· != ':') with
    | ':' :: ']' :: rest =>
      (NamedClass.ofName? (String.ofList (cs.takeWhile (· != ':')))).map fun kind =>
        (.namedClass (between whole rest) kind negated, rest)
    | _ => none
  | _ => none

/-- An atom as a member of a class. -/
def Atom.toClassSet : Atom → Except Fault ClassSet
  | literal l => .ok (.literal l)
  | letterClass e kind negated => .ok (.letterClass e kind negated)
  | property e query negated => .ok (.property e query negated)
  | assertion e _ => .error ⟨.classEscapeInvalid, e, none⟩
  | dot e => .error ⟨.classEscapeInvalid, e, none⟩

/-- An atom as the end of a range. -/
def Atom.toBoundary : Atom → Except Fault Literal
  | literal l => .ok l
  | a => .error ⟨.classRangeBoundary, a.extent, none⟩

/-- Reads a character or an escape. -/
def classAtom (verbose : Bool) (cs : List Char) : Except Fault (Atom × List Char) :=
  match cs with
  | '\\' :: _ => escape verbose cs
  | c :: rest => .ok (.literal ⟨between cs rest, c, false⟩, rest)
  | [] => .error ⟨.escapeUnended, atPoint [], none⟩

/-- Reads a character, an escape or a range; `unclosed` is the fault of a class that ends here. -/
def classItem (verbose : Bool) (unclosed : Fault) (cs : List Char) :
    Except Fault (ClassSet × List Char) := do
  let (first, rest) ← classAtom verbose cs
  match skip verbose rest with
  | [] => .error unclosed
  | '-' :: after =>
    let next := peek verbose ('-' :: after)
    if next = some ']' ∨ next = some '-' then return (← first.toClassSet, '-' :: after)
    match skip verbose after with
    | [] => .error unclosed
    | second =>
      let (last, rest) ← classAtom verbose second
      let extent : Extent := ⟨first.extent.start, last.extent.stop⟩
      let lo ← first.toBoundary
      let hi ← last.toBoundary
      if hi.char < lo.char then .error ⟨.classRangeInvalid, extent, none⟩
      return (.range extent lo hi, rest)
  | rest => return (← first.toClassSet, rest)

/-! ## The opening bracket -/

/-- What the opening of a class says. -/
structure ClassOpening where
  /-- From the bracket to the end of the opening. -/
  extent : Extent
  negated : Bool
  /-- The members read so far, the last one first. -/
  items : List ClassSet
  /-- The extent of an empty class. -/
  emptyExtent : Extent
  rest : List Char

/-- Reads hyphens at the front of a class, the `whole` of which is given. -/
def leadingHyphens (verbose : Bool) (whole : List Char) (items : List ClassSet) :
    Nat → List Char → Except Fault (List ClassSet × List Char)
  | 0, cs => .ok (items, cs)
  | fuel + 1, cs =>
    match cs with
    | '-' :: rest =>
      let items := .literal ⟨here cs, '-', false⟩ :: items
      match skip verbose rest with
      | [] => .error ⟨.classUnclosed, atPoint whole, none⟩
      | rest => leadingHyphens verbose whole items fuel rest
    | _ => .ok (items, cs)

/-- Reads the opening of a class: the bracket, a `^`, hyphens, and a closing bracket that stands for
itself because nothing else comes before it. -/
def classOpening (verbose : Bool) (whole : List Char) : Except Fault ClassOpening := do
  let unclosed (cs : List Char) : Fault := ⟨.classUnclosed, between whole cs, none⟩
  let (negated, cs) ← match skip verbose whole.tail with
    | [] => .error (unclosed [])
    | '^' :: cs =>
      match skip verbose cs with
      | [] => .error (unclosed [])
      | cs => pure (true, cs)
    | cs => pure (false, cs)
  let (items, rest) ← leadingHyphens verbose whole [] (cs.length + 1) cs
  match items, rest with
  | [], ']' :: after =>
    match skip verbose after with
    | [] => .error (unclosed [])
    | after =>
      return ⟨between whole after, negated, [.literal ⟨here rest, ']', false⟩], atPoint cs, after⟩
  | items, rest => return ⟨between whole rest, negated, items, atPoint cs, rest⟩

/-! ## The whole class -/

/-- The members of a class as one set; `items` has the last one first. -/
def ClassSet.ofItems (emptyExtent : Extent) (items : List ClassSet) : ClassSet :=
  match items.reverse with
  | [] => .empty emptyExtent
  | [item] => item
  | first :: others =>
    .union ⟨first.extent.start, (others.getLast?.getD first).extent.stop⟩ (first :: others)

/-- Completes the operation whose left side has been read, if there is one. -/
def ClassSet.complete (pending : Option (SetOp × ClassSet)) (right : ClassSet) : ClassSet :=
  match pending with
  | none => right
  | some (op, left) => .operation ⟨left.extent.start, right.extent.stop⟩ op left right

/-- Reads the rest of a class after its opening: `items` are the members since the last operation,
the last one first, and `pending` is that operation with its left side. -/
def classRest (verbose : Bool) (whole : List Char) (opening : ClassOpening)
    (pending : Option (SetOp × ClassSet)) (items : List ClassSet) (emptyExtent : Extent) :
    Nat → List Char → Except Fault (ClassSet × List Char)
  | 0, _ => .error ⟨.classUnclosed, opening.extent, none⟩
  | fuel + 1, cs => do
    let set := ClassSet.complete pending (ClassSet.ofItems emptyExtent items)
    let operation (op : SetOp) (rest : List Char) :=
      classRest verbose whole opening (some (op, set)) [] (atPoint rest) fuel rest
    let cs := skip verbose cs
    match cs with
    | [] => .error ⟨.classUnclosed, opening.extent, none⟩
    | '[' :: _ =>
      match namedClass? cs with
      | some (item, rest) =>
        classRest verbose whole opening pending (item :: items) emptyExtent fuel rest
      | none =>
        let inner ← classOpening verbose cs
        let (item, rest) ←
          classRest verbose cs inner none inner.items inner.emptyExtent fuel inner.rest
        classRest verbose whole opening pending (item :: items) emptyExtent fuel rest
    | ']' :: rest => return (.bracketed (between whole rest) opening.negated set, rest)
    | '&' :: '&' :: rest => operation .intersection rest
    | '-' :: '-' :: rest => operation .difference rest
    | '~' :: '~' :: rest => operation .symmetricDifference rest
    | _ =>
      let (item, rest) ← classItem verbose ⟨.classUnclosed, opening.extent, none⟩ cs
      classRest verbose whole opening pending (item :: items) emptyExtent fuel rest

/-- Reads a bracketed class from its opening bracket on. -/
def bracketClass (verbose : Bool) (whole : List Char) : Except Fault (Tree × List Char) := do
  let opening ← classOpening verbose whole
  let (set, rest) ← classRest verbose whole opening none opening.items opening.emptyExtent
    (whole.length + 1) opening.rest
  match set with
  | .bracketed extent negated set => return (.bracketed extent negated set, rest)
  | set => return (.bracketed (between whole rest) false set, rest)

end Munch.Regex
