import Munch.Pattern
import Munch.Text.Location

/-!
# Tokens

A `Definition` says what tokens of one type look like, and carries a tag that is handed back with
every one of them. A `Token` is a piece of a source: either a match of the type that won at its
place, or a single character at which no type matched.
-/

namespace Munch

/-- A tag with the pattern of its tokens. -/
structure Definition (τ : Type) where
  tag : τ
  pattern : Pattern
  deriving DecidableEq, Inhabited, Repr

/-- A definition with its matcher and its number; the lower number wins a tie. -/
structure TokenType (τ : Type) where
  tag : τ
  pattern : Pattern
  matcher : Matcher
  index : Nat
  deriving DecidableEq, Inhabited, Repr

/-- A piece of a source. -/
structure Token (τ : Type) where
  /-- The type that won and its match; none if no type matched. They are joined in one field, for both
  are set together when a token is made of a match, and neither is if no type matched. -/
  winner : Option (TokenType τ × Match)
  /-- The byte at which the token begins. -/
  index : Nat
  text : List Char
  /-- The number of bytes of the token. -/
  length : Nat
  location : Location
  /-- The whole source. -/
  source : List Char
  deriving DecidableEq, Inhabited, Repr

namespace Token

variable {τ : Type}

def type? (t : Token τ) : Option (TokenType τ) := t.winner.map (·.1)

def match? (t : Token τ) : Option Match := t.winner.map (·.2)

def tag? (t : Token τ) : Option τ := t.type?.map (·.tag)

def pattern? (t : Token τ) : Option Pattern := t.type?.map (·.pattern)

def matcher? (t : Token τ) : Option Matcher := t.type?.map (·.matcher)

/-- Whether no type matched here. -/
def isFallback (t : Token τ) : Bool := t.winner.isNone

def span (t : Token τ) : Span := ⟨t.index, t.index + t.length⟩

/-- The number of characters of the token. -/
def charCount (t : Token τ) : Nat := t.text.length

/-- The text of a group; group 0 is the whole token. -/
def group? (t : Token τ) (i : Nat) : Option (List Char) := do
  let m ← t.match?
  Text.slice t.source (← m.groupSpan i)

/-- The text of the group with the given name. -/
def named? (t : Token τ) (name : String) : Option (List Char) := do
  let m ← t.matcher?
  t.group? (← m.groupIndex? name)

/-- The written form: quoted text, location, and the pattern that matched. -/
def render (t : Token τ) : String :=
  let pattern := match t.pattern? with
    | some p => p.render
    | none => "unmatched"
  Text.quoteText (String.ofList t.text) ++ " @ " ++ t.location.render ++ " (" ++ pattern ++ ")"

end Token

/-- What a token is kept for when its source and its tokenizer are gone. -/
structure OwnedToken (τ : Type) where
  /-- The tag of the type that won; none if no type matched. -/
  tag? : Option τ
  /-- The pattern of the type that won; none if no type matched. -/
  pattern? : Option Pattern
  /-- The match that won; none if no type matched. -/
  match? : Option Match
  index : Nat
  text : String
  length : Nat
  location : Location
  deriving DecidableEq, Inhabited, Repr

/-- Whether no type matched here. -/
def OwnedToken.isFallback {τ : Type} (t : OwnedToken τ) : Bool := t.tag?.isNone

/-- Detaches a token from its source and its tokenizer. -/
def Token.toOwned {τ : Type} (t : Token τ) : OwnedToken τ where
  tag? := t.tag?
  pattern? := t.pattern?
  match? := t.match?
  index := t.index
  text := String.ofList t.text
  length := t.length
  location := t.location

end Munch
