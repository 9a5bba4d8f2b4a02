import Munch.Regex.Tree

/-!
# Matching modes

The flags under which a part of a pattern is read. A directive or a group switches some of them and
leaves the others as they are.
-/

namespace Munch.Regex

/-- The state of all flags. -/
structure Mode where
  /-- Letters match in both cases. -/
  ignoreCase : Bool := false
  /-- `^` and `$` match at lines, too. -/
  multiLine : Bool := false
  /-- The dot matches line ends, too. -/
  dotAll : Bool := false
  /-- Repetitions are lazy unless marked. -/
  swapGreed : Bool := false
  /-- Classes are those of all characters, not of ASCII. -/
  unicode : Bool := true
  /-- Lines end with `\r\n` and a lone `\r`, too. -/
  crlf : Bool := false
  /-- Blanks and comments in the pattern are skipped. -/
  verbose : Bool := false
  deriving DecidableEq, Inhabited, Repr

namespace Mode

/-- Sets one flag. -/
def set (m : Mode) (s : FlagSwitch) : Mode :=
  match s.flag with
  | .ignoreCase => { m with ignoreCase := s.on }
  | .multiLine => { m with multiLine := s.on }
  | .dotAll => { m with dotAll := s.on }
  | .swapGreed => { m with swapGreed := s.on }
  | .unicode => { m with unicode := s.on }
  | .crlf => { m with crlf := s.on }
  | .verbose => { m with verbose := s.on }

/-- Sets the flags of a directive. -/
def setAll (m : Mode) (switches : List FlagSwitch) : Mode := switches.foldl set m

end Mode

end Munch.Regex
