import Munch.Tokenizer

/-!
# Scanning sessions

A `Session` reads one source from its start to its end. At every place all types are consulted: a
type is a candidate if its next match starts right there. The longest candidate wins, the earlier
type among equals, and an empty match never wins. Where there is no candidate, the single character
at the place becomes a token of its own, so that every token takes at least one character.

The last search of every type is kept and answers again as long as it can: a match until the session
has passed its start or has taken it, the absence of any match for ever.

* `Session.next`: the next token, with a record of the searches that were made for it.
* `Session.tokens`: all remaining tokens.
-/

namespace Munch

/-- What is known of the next match of a type. -/
inductive Cached where
  /-- Nothing: there was no search, or its match was taken. -/
  | stale
  | found (m : Match)
  /-- There is no further match. -/
  | exhausted
  deriving DecidableEq, Inhabited, Repr

namespace Cached

def ofSearch : Option Match → Cached
  | some m => found m
  | none => exhausted

def match? : Cached → Option Match
  | found m => some m
  | _ => none

/-- Whether the knowledge still says what the next match from byte `offset` on is. -/
def isValidAt (offset : Nat) : Cached → Bool
  | stale => false
  | found m => offset ≤ m.start
  | exhausted => true

end Cached

/-- What happens while a tokenizer is built and scans. -/
inductive Event where
  | built (types : Nat)
  /-- Type number `type`, whose groups are so named, was searched from byte `offset` on. -/
  | searched (type offset : Nat) (names : List (Option String)) (result : Option Match)
  | matched (type offset : Nat) (text : List Char)
  | unmatched (offset : Nat) (c : Char)
  deriving DecidableEq, Inhabited, Repr

/-- A scan of one source that has come to the place `cursor`. -/
structure Session (τ : Type) where
  types : List (TokenType τ)
  source : List Char
  cursor : Cursor
  /-- What is known of each type. -/
  cache : List Cached
  /-- The line and column of the place, if they are counted. -/
  tracker : Option LineTracker
  deriving DecidableEq, Inhabited, Repr

/-- A session at the start of a source. -/
def Tokenizer.session {τ : Type} (t : Tokenizer τ) (source : List Char) : Session τ where
  types := t.types
  source := source
  cursor := .ofText source
  cache := List.replicate t.types.length .stale
  tracker := if t.config.trackLocations then some .start else none

namespace Session

variable {τ : Type}

def offset (s : Session τ) : Nat := s.cursor.offset

/-- The text that has not been read yet. -/
def remainder (s : Session τ) : List Char := s.cursor.rest

def isDone (s : Session τ) : Bool := s.cursor.rest.isEmpty

/-- Bounds on the number of tokens to come. -/
def sizeHint (s : Session τ) : Nat × Nat :=
  let bytes := Text.byteLength s.source - s.offset
  (if 0 < bytes then 1 else 0, bytes)

/-- The location of the place; lines and columns that are not counted are 0. -/
def location (s : Session τ) : Location :=
  match s.tracker with
  | some t => t.toLocation s.offset
  | none => ⟨0, 0, s.offset⟩

/-! ## Searching -/

/-- Brings the knowledge of each type up to the given place, and tells which types were searched. -/
def refresh (p : Cursor) : List (TokenType τ) → List Cached → List Cached × List Event
  | t :: ts, c :: cs =>
    let (later, events) := refresh p ts cs
    if c.isValidAt p.offset then (c :: later, events)
    else
      let result := t.matcher.find p
      (.ofSearch result :: later,
        .searched t.index p.offset t.matcher.groupNames result :: events)
  | _, _ => ([], [])

/-- The longest match that starts at byte `offset`, with the position of its type, unless it is no
longer than `best`. Earlier matches are kept against equally long ones. -/
def longest (offset : Nat) (best : Nat) : List (TokenType τ) → List Cached →
    Option (Nat × TokenType τ × Match)
  | t :: ts, c :: cs =>
    match c.match? with
    | some m =>
      if m.start = offset ∧ best < m.length then
        some (((longest offset m.length ts cs).map fun (i, w) => (i + 1, w)).getD (0, t, m))
      else (longest offset best ts cs).map fun (i, w) => (i + 1, w)
    | none => (longest offset best ts cs).map fun (i, w) => (i + 1, w)
  | _, _ => none

/-! ## Tokens -/

/-- Takes the text up to byte `stop` as a token. -/
def take (s : Session τ) (winner : Option (TokenType τ × Match)) (cache : List Cached)
    (stop : Nat) : Token τ × Session τ :=
  let (text, cursor) := s.cursor.readTo stop
  ({ winner, index := s.offset, text, length := Text.byteLength text, location := s.location,
     source := s.source },
    { s with cursor, cache, tracker := s.tracker.map (·.advance text) })

/-- The next token with what happened on the way to it, and the session after it; none at the end of
the source. -/
def step (s : Session τ) : Option (Token τ × List Event × Session τ) :=
  match s.cursor.rest with
  | [] => none
  | c :: _ =>
    let (cache, searches) := refresh s.cursor s.types s.cache
    match longest s.offset 0 s.types cache with
    | some (position, type, m) =>
      let (token, after) := s.take (some (type, m)) (cache.set position .stale) m.span.stop
      some (token, searches ++ [.matched type.index s.offset token.text], after)
    | none =>
      let (token, after) := s.take none cache (s.offset + c.utf8Size)
      some (token, searches ++ [.unmatched s.offset c], after)

/-- The next token and the session after it. -/
def next (s : Session τ) : Option (Token τ × Session τ) :=
  s.step.map fun (token, _, after) => (token, after)

/-- Up to `n` tokens, what happened on the way to them, and the session after them. -/
def run : Nat → Session τ → List (Token τ) × List Event × Session τ
  | 0, s => ([], [], s)
  | n + 1, s =>
    match s.step with
    | none => ([], [], s)
    | some (token, events, after) =>
      let (tokens, later, final) := run n after
      (token :: tokens, events ++ later, final)

/-- All remaining tokens, what happened on the way, and the session at the end. There are at most as
many tokens as characters. -/
def finish (s : Session τ) : List (Token τ) × List Event × Session τ :=
  s.run s.cursor.rest.length

/-- All remaining tokens. -/
def tokens (s : Session τ) : List (Token τ) := s.finish.1

/-- Skips `n` tokens and takes the next one. -/
def nth (n : Nat) (s : Session τ) : Option (Token τ) × Session τ :=
  let after := (s.run n).2.2
  match after.next with
  | some (token, after) => (some token, after)
  | none => (none, after)

end Session

namespace Tokenizer

variable {τ : Type}

/-- The tokens of a source. -/
def scan (t : Tokenizer τ) (source : List Char) : List (Token τ) := (t.session source).tokens

/-- What happens while the definitions are made ready and a source is scanned, with the number of
tokens. -/
def trace (t : Tokenizer τ) (source : List Char) : Nat × List Event :=
  let (tokens, events, _) := (t.session source).finish
  (tokens.length, .built t.types.length :: events)

/-- The tokens of a source under definitions that are used once, in the default configuration. -/
def tokenize (defs : List (Definition τ)) (source : List Char) :
    Except PatternError (List (OwnedToken τ)) :=
  (build {} defs).map fun t => (t.scan source).map Token.toOwned

end Tokenizer

end Munch
