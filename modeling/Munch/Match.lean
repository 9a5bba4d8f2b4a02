import Munch.Text.Utf8

/-!
# Matches

A match is a span of a text with the spans of the groups that took part in it. The whole match
counts as group 0.
-/

namespace Munch

/-- A match: its span and the spans of the groups 1, 2 and so on. -/
structure Match where
  span : Span
  groups : List (Option Span) := []
  deriving DecidableEq, Inhabited, Repr

namespace Match

def start (m : Match) : Nat := m.span.start

def length (m : Match) : Nat := m.span.length

def isEmpty (m : Match) : Bool := m.span.isEmpty

/-- The number of groups, the whole match included. -/
def groupCount (m : Match) : Nat := m.groups.length + 1

/-- The span of a group, if there is such a group and it took part. -/
def groupSpan (m : Match) : Nat → Option Span
  | 0 => some m.span
  | i + 1 => (m.groups[i]?).join

end Match

end Munch
