import Munch.Regex.Fault

/-!
# Fault reports

A fault shown in its pattern: the pattern with carets under the extents of the fault, then the cause
in words. A pattern of several lines is shown between rules and with line numbers, and an extent
over several lines is described instead of marked.
-/

namespace Munch.Regex

/-- A line and a column of a pattern, both counted from 1. -/
structure Place where
  line : Nat
  column : Nat
  deriving DecidableEq, Inhabited, Repr

/-- The place after a text that begins at the given place. -/
def Place.after (p : Place) (text : List Char) : Place :=
  text.foldl (fun p c => if c = '\n' then ⟨p.line + 1, 1⟩ else ⟨p.line, p.column + 1⟩) p

/-- The place in `pattern` that `left` characters follow. -/
def Place.ofSuffix (pattern : List Char) (left : Nat) : Place :=
  (⟨1, 1⟩ : Place).after (pattern.take (pattern.length - left))

/-- The ends of an extent as places. -/
structure Marked where
  start : Place
  stop : Place
  deriving DecidableEq, Inhabited, Repr

/-- The extents of a fault as places, in the order in which they come in the pattern. -/
def Fault.marks (pattern : List Char) (f : Fault) : List Marked :=
  let mark (e : Extent) : Marked := ⟨.ofSuffix pattern e.start, .ofSuffix pattern e.stop⟩
  match f.first with
  | none => [mark f.extent]
  | some e =>
    if f.extent.start > e.start ∨ (f.extent.start = e.start ∧ f.extent.stop > e.stop) then
      [mark f.extent, mark e]
    else [mark e, mark f.extent]

/-- The lines of a text; `\r\n` ends a line like `\n`, and an empty last line is none. -/
def linesFrom (line : List Char) : List Char → List (List Char)
  | [] => if line.isEmpty then [] else [line.reverse]
  | '\n' :: cs => line.reverse :: linesFrom [] cs
  | '\r' :: '\n' :: cs => line.reverse :: linesFrom [] cs
  | c :: cs => linesFrom (c :: line) cs

/-- Carets under the given marks of one line, from column `column + 1` on. -/
def carets (column : Nat) : List Marked → String
  | [] => ""
  | m :: ms =>
    let blanks := m.start.column - 1 - column
    let width := max 1 (m.stop.column - m.start.column)
    String.ofList (List.replicate blanks ' ' ++ List.replicate width '^') ++
      carets (column + blanks + width) ms

/-- A number with blanks in front of it to the given width. -/
def padNumber (width n : Nat) : String :=
  let digits := toString n
  String.ofList (List.replicate (width - digits.length) ' ') ++ digits

/-- The lines of a pattern, each with the marks on it below; `lineNumber` is that of the first. -/
def annotate (numberWidth : Nat) (marks : List Marked) (lineNumber : Nat) :
    List (List Char) → String
  | [] => ""
  | line :: lines =>
    let label := if numberWidth = 0 then "    " else padNumber numberWidth lineNumber ++ ": "
    let here := marks.filter fun m => m.start.line = lineNumber
    let below :=
      if here.isEmpty then ""
      else String.ofList (List.replicate label.length ' ') ++ carets 0 here ++ "\n"
    label ++ String.ofList line ++ "\n" ++ below ++
      annotate numberWidth marks (lineNumber + 1) lines

/-- An extent over several lines in words. -/
def Marked.describe (m : Marked) : String :=
  "on line " ++ toString m.start.line ++ " (column " ++ toString m.start.column ++
    ") through line " ++ toString m.stop.line ++ " (column " ++ toString (m.stop.column - 1) ++ ")"

/-- The report of a fault of `pattern`. -/
def Fault.report (pattern : List Char) (f : Fault) : String :=
  let lines := linesFrom [] pattern
  let marks := f.marks pattern
  let (single, multiple) := marks.partition fun m => m.start.line = m.stop.line
  let body :=
    if pattern.contains '\n' then
      let count := lines.length + if pattern.getLast? = some '\n' then 1 else 0
      let rule := String.ofList (List.replicate 79 '~') ++ "\n"
      let notes := multiple.map (·.describe ++ "\n")
      rule ++ annotate (toString count).length single 1 lines ++ rule ++ String.join notes
    else annotate 0 single 1 lines
  "regex parse error:\n" ++ body ++ "error: " ++ f.cause.message

end Munch.Regex
