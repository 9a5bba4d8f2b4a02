import Munch.Regex.Basic

/-!
# Configuration

What can be chosen when a tokenizer is built: limits for the patterns that it compiles, and whether
lines and columns are counted.
-/

namespace Munch

structure Config where
  /-- The greatest size in bytes of a compiled pattern. -/
  sizeLimit : Option Nat := none
  /-- The greatest size in bytes of a search cache; searches here keep none. -/
  dfaSizeLimit : Option Nat := none
  /-- The greatest nesting depth of a pattern. -/
  nestLimit : Option Nat := none
  /-- Whether tokens know their line and column. -/
  trackLocations : Bool := true
  deriving DecidableEq, Inhabited, Repr

/-- The limits for compiling; those not chosen have their usual values. -/
def Config.limits (c : Config) : Regex.Limits :=
  let usual : Regex.Limits := {}
  ⟨c.sizeLimit.getD usual.size, c.nestLimit.getD usual.nesting⟩

end Munch
