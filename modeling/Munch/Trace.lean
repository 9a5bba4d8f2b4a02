import Munch.Session

/-!
# The log of a scan

Events as lines of a log. Searches and matched tokens are of the finer level; the tokenizer itself
and characters that no type matched are of the coarser one.
-/

namespace Munch

/-- The levels of a log, the coarser first. -/
inductive LogLevel where
  | debug
  | trace
  deriving DecidableEq, Inhabited, Repr

def LogLevel.label : LogLevel → String
  | debug => "DEBUG"
  | trace => "TRACE"

namespace Trace

def renderSpan (s : Span) : String := toString s.start ++ ".." ++ toString s.stop

/-- The groups of a match from number `i` on, with the names of those that have one. -/
def renderGroups (i : Nat) : List (Option String) → List (Option Span) → List String
  | name :: names, span :: spans =>
    let label := match name with
      | some n => toString i ++ "/" ++ Text.quoteText n
      | none => toString i
    let value := match span with
      | some s => renderSpan s
      | none => "None"
    (label ++ ": " ++ value) :: renderGroups (i + 1) names spans
  | _, _ => []

/-- The result of a search; an expression without groups of its own lists none. -/
def renderResult (names : List (Option String)) : Option Match → String
  | none => "Exhausted"
  | some m =>
    let groups :=
      if m.groups.isEmpty then "None"
      else
        "Some(CaptureLocations(Captures \x7b pid: Some(PatternID(0)), spans: \x7b" ++
          ", ".intercalate (renderGroups 0 names (some m.span :: m.groups)) ++ "\x7d \x7d))"
    "Found(MatchInfo \x7b span: " ++ renderSpan m.span ++ ", groups: " ++ groups ++ " \x7d)"

end Trace

namespace Event

def level : Event → LogLevel
  | built _ => .debug
  | searched _ _ _ _ => .trace
  | matched _ _ _ => .trace
  | unmatched _ _ => .debug

def message : Event → String
  | built types => "Built tokenizer with " ++ toString types ++ " token types"
  | searched type offset names result =>
    "Searched token type #" ++ toString type ++ " from " ++ toString offset ++ ": " ++
      Trace.renderResult names result
  | matched type offset text =>
    "Matched token type #" ++ toString type ++ " at " ++ toString offset ++ ": " ++
      Text.quoteText (String.ofList text)
  | unmatched offset c =>
    "No token type matched at " ++ toString offset ++ ", emitting " ++ Text.quoteChar c

/-- The lines of a log with their levels; the coarser level leaves out the finer lines. -/
def log (level : LogLevel) (events : List Event) : List (LogLevel × String) :=
  (events.filter fun e => level = .trace ∨ e.level = .debug).map fun e => (e.level, e.message)

end Event

end Munch
