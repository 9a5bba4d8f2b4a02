import Munch.Session

/-!
# Reading INI documents

An INI document has sections, which begin with a line `[name]`, and entries `key = value`. Entries
before the first section belong to the section with the empty name. Lines that begin with `;` or `#`
are comments, and what cannot be read is reported by line.

* `Ini.Document`: sections and entries, both in the order of their names.
* `Ini.parse`: the document of a source and the numbers of the lines that could not be read.
-/

namespace Munch.Ini

/-! ## Documents -/

/-- Values by name, in increasing order of the names. -/
abbrev Dictionary (α : Type) := List (String × α)

/-- Changes the value of a name, which is `default` if the name is new. -/
def Dictionary.alter {α : Type} (name : String) (default : α) (f : α → α) :
    Dictionary α → Dictionary α
  | [] => [(name, f default)]
  | (n, v) :: rest =>
    if name < n then (name, f default) :: (n, v) :: rest
    else if name = n then (n, f v) :: rest
    else (n, v) :: Dictionary.alter name default f rest

/-- The sections of a document with their entries. -/
abbrev Document := Dictionary (Dictionary String)

namespace Document

/-- Adds a section, unless it is there. -/
def addSection (d : Document) (name : String) : Document := Dictionary.alter name [] id d

/-- Sets an entry of a section, which is added if it is not there. -/
def setEntry (d : Document) (name key value : String) : Document :=
  Dictionary.alter name [] (Dictionary.alter key "" fun _ => value) d

end Document

/-! ## Tokens -/

/-- The types of tokens in a document. -/
inductive Kind where
  | heading
  | entry
  | comment
  | newline
  | blank
  deriving DecidableEq, Inhabited, Repr

/-- The flags of the patterns that are bound to lines. -/
def lineFlags : Flags := .singleton .multiLine

/-- What the tokens of a document look like. -/
def definitions : List (Definition Kind) := [
  ⟨.heading, .regex "^[ \\t]*\\[(?P<name>[^\\]\\n]*)\\][ \\t]*$" lineFlags⟩,
  ⟨.entry,
    .regex
      "^[ \\t]*(?P<key>[^=;#\\s][^=\\n]*?)[ \\t]*=[ \\t]*(?P<value>[^\\n]*?)[ \\t]*$" lineFlags⟩,
  ⟨.comment, .regex "^[ \\t]*[;#][^\\n]*" lineFlags⟩,
  ⟨.newline, .regex "\\r?\\n" .empty⟩,
  ⟨.blank, .regex "[ \\t]+" .empty⟩]

/-! ## Reading -/

/-- What has been read: the document, the current section, and the lines that could not be read, the
last one first. -/
structure State where
  document : Document := []
  current : String := ""
  badLines : List Nat := []
  deriving DecidableEq, Inhabited, Repr

/-- A text without the blanks and line ends at both of its ends. -/
def trim (cs : List Char) : List Char :=
  let blank (c : Char) : Bool := Unicode.whiteSpace.contains c
  ((cs.dropWhile blank).reverse.dropWhile blank).reverse

/-- The text of a group, empty if it took no part. -/
def groupText (t : Token Kind) (name : String) : List Char := (t.named? name).getD []

/-- Takes one token into account. -/
def State.add (s : State) (t : Token Kind) : State :=
  match t.tag? with
  | some .heading =>
    let name := String.ofList (trim (groupText t "name"))
    { s with document := s.document.addSection name, current := name }
  | some .entry =>
    let key := String.ofList (groupText t "key")
    let value := String.ofList (groupText t "value")
    { s with document := s.document.setEntry s.current key value }
  | some _ => s
  | none =>
    if s.badLines.head? = some t.location.line then s
    else { s with badLines := t.location.line :: s.badLines }

/-- The document that the tokens of a source make up, and the lines that could not be read. -/
def ofTokens (tokens : List (Token Kind)) : Document × List Nat :=
  let s := tokens.foldl State.add {}
  (s.document, s.badLines.reverse)

/-- The document of a source and the lines that could not be read. -/
def parse (source : List Char) : Except PatternError (Document × List Nat) :=
  (Tokenizer.build {} definitions).map fun t => ofTokens (t.scan source)

end Munch.Ini
