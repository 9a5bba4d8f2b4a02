import Munch.Regex.Fault
import Munch.Unicode.Property

/-!
# Blanks and comments in patterns

In verbose mode blanks are skipped between the parts of a pattern, and so are comments, which begin
with `#` and end with the line. Otherwise nothing is skipped.
-/

namespace Munch.Regex

/-- Whether a character counts as a blank. -/
def isBlank (c : Char) : Bool := Unicode.whiteSpace.contains c

/-- Drops blanks and comments; `inComment` says whether the text begins inside a comment. -/
def dropBlank (inComment : Bool) : List Char → List Char
  | [] => []
  | c :: cs =>
    if inComment then dropBlank (c != '\n') cs
    else if isBlank c then dropBlank false cs
    else if c = '#' then dropBlank true cs
    else c :: cs

/-- Skips what the mode lets one skip. -/
def skip (verbose : Bool) (cs : List Char) : List Char :=
  if verbose then dropBlank false cs else cs

/-- The character that follows the next one. Verbose mode looks past blanks and past the first `#`
among them. -/
def peek (verbose : Bool) : List Char → Option Char
  | [] => none
  | _ :: cs =>
    if verbose then
      let after := match cs.dropWhile isBlank with
        | '#' :: cs => cs.dropWhile isBlank
        | cs => cs
      after.head?.or cs.head?
    else cs.head?

/-- The extent between two suffixes of a pattern. -/
def between (cs rest : List Char) : Extent := ⟨cs.length, rest.length⟩

/-- The extent of the next character, empty at the end. -/
def here (cs : List Char) : Extent := between cs cs.tail

/-- The empty extent in front of the next character. -/
def atPoint (cs : List Char) : Extent := between cs cs

end Munch.Regex
