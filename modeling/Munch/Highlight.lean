import Munch.Session

/-!
# Highlighting JSON

`Highlight.highlight` wraps every token of a JSON text into a tag that names its class; blanks are
left as they are, and a character that belongs to no token is wrapped as an error.
-/

namespace Munch.Highlight

/-- The classes of JSON tokens. -/
inductive Kind where
  /-- The name of a member with the colon after it. -/
  | key
  | string
  | number
  /-- `true`, `false` or `null`. -/
  | literal
  | punct
  | space
  deriving DecidableEq, Inhabited, Repr

/-- What the tokens of JSON look like. A key is longer than the string that it begins with. -/
def definitions : List (Definition Kind) := [
  ⟨.key, .regex "\"(?:[^\"\\\\]|\\\\.)*\"\\s*:" .empty⟩,
  ⟨.string, .regex "\"(?:[^\"\\\\]|\\\\.)*\"" .empty⟩,
  ⟨.number,
    .regex "-?(?:0|[1-9][0-9]*)(?:\\.[0-9]+)?(?:[eE][+-]?[0-9]+)?" .empty⟩,
  ⟨.literal, .regex "true|false|null" .empty⟩,
  ⟨.punct, .regex "[\x7b\x7d\\[\\],]" .empty⟩,
  ⟨.space, .regex "\\s+" .empty⟩]

/-- The name of the tag for a token; none for a token that is left as it is. -/
def tagName : Option Kind → Option String
  | some .key => some "key"
  | some .string => some "str"
  | some .number => some "num"
  | some .literal => some "lit"
  | some .punct => some "punct"
  | some .space => none
  | none => some "err"

/-- A text inside a tag. -/
def wrap (name : String) (text : List Char) : List Char :=
  '<' :: name.toList ++ '>' :: text ++ '<' :: '/' :: name.toList ++ ['>']

/-- The markup of one token. -/
def markup (t : Token Kind) : List Char :=
  match tagName t.tag? with
  | some name => wrap name t.text
  | none => t.text

/-- The tokenizer for JSON. -/
def tokenizer : Except PatternError (Tokenizer Kind) := Tokenizer.build {} definitions

/-- The markup of a source. -/
def highlight (t : Tokenizer Kind) (source : List Char) : List Char :=
  (t.scan source).flatMap markup

end Munch.Highlight
