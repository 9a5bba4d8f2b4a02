import Munch.Token

/-!
# Tokenizers

A `Tokenizer` is a list of token types made ready for scanning. The order of the definitions is
kept: it decides between types whose matches are equally long.
-/

namespace Munch

/-- The token types, in the order of their definitions, and the configuration. -/
structure Tokenizer (τ : Type) where
  types : List (TokenType τ)
  config : Config
  deriving DecidableEq, Inhabited, Repr

namespace Tokenizer

variable {τ : Type}

/-- Makes definitions ready, the first of which has number `index`, or finds the first that does not
compile. -/
def typesFrom (config : Config) (index : Nat) :
    List (Definition τ) → Except PatternError (List (TokenType τ))
  | [] => .ok []
  | d :: ds =>
    match d.pattern.matcher config with
    | .error e => .error (.compile index d.pattern.text e)
    | .ok matcher => (typesFrom config (index + 1) ds).map (⟨d.tag, d.pattern, matcher, index⟩ :: ·)

/-- The tokenizer for a list of definitions. -/
def build (config : Config) (defs : List (Definition τ)) : Except PatternError (Tokenizer τ) :=
  (typesFrom config 0 defs).map fun types => ⟨types, config⟩

end Tokenizer

end Munch
