import Munch.Session

/-!
# Several sessions on one tokenizer

A `Workspace` holds the sessions that were opened on one tokenizer, each under its number. A
`Command` begins, reads or closes a session, or searches with the matcher of one type; no command
concerns more than one session.
-/

namespace Munch

/-- What can be asked of a session. -/
inductive Reading where
  | next
  /-- Takes the next token and detaches it from the source. -/
  | own
  /-- Skips `n` tokens and takes the next one. -/
  | nth (n : Nat)
  /-- Takes all remaining tokens. -/
  | rest
  /-- Reads to the end and counts the tokens. -/
  | count
  /-- Takes nothing. -/
  | state
  deriving DecidableEq, Inhabited, Repr

/-- What can be asked of a workspace; `id` is the number of a session. -/
inductive Command where
  | begin (source : List Char)
  /-- Searches a text with the matcher of one type. -/
  | find (type : Nat) (source : List Char) (start : Nat)
  | read (id : Nat) (reading : Reading)
  | close (id : Nat)
  deriving DecidableEq, Inhabited, Repr

/-- What a reading gives back. -/
inductive Result (τ : Type) where
  | token (t : Option (Token τ))
  | owned (t : Option (OwnedToken τ))
  | tokens (ts : List (Token τ))
  | count (n : Nat)
  | source (text : List Char)
  deriving DecidableEq, Inhabited, Repr

/-- The answer to a command, with the session as it is afterwards. -/
inductive Answer (τ : Type) where
  | opened (id : Nat) (after : Session τ)
  | read (result : Result τ) (after : Session τ)
  /-- What the matcher of a type found. -/
  | found (m : Option Match)
  | closed
  deriving DecidableEq, Inhabited, Repr

/-- A tokenizer with its sessions; a session that was closed leaves its number unused. -/
structure Workspace (τ : Type) where
  tokenizer : Tokenizer τ
  sessions : List (Option (Session τ)) := []
  deriving DecidableEq, Inhabited, Repr

namespace Session

variable {τ : Type}

/-- Answers a reading. -/
def read (s : Session τ) : Reading → Result τ × Session τ
  | .next =>
    match s.next with
    | some (t, after) => (.token (some t), after)
    | none => (.token none, s)
  | .own =>
    match s.next with
    | some (t, after) => (.owned (some t.toOwned), after)
    | none => (.owned none, s)
  | .nth n =>
    let (t, after) := s.nth n
    (.token t, after)
  | .rest =>
    let (ts, _, after) := s.finish
    (.tokens ts, after)
  | .count =>
    let (ts, _, after) := s.finish
    (.count ts.length, after)
  | .state => (.source s.source, s)

end Session

namespace Workspace

variable {τ : Type}

/-- The open session with the given number. -/
def session? (w : Workspace τ) (id : Nat) : Option (Session τ) := (w.sessions[id]?).join

/-- The workspace with another state of a session, or without it. -/
def set (w : Workspace τ) (id : Nat) (s : Option (Session τ)) : Workspace τ :=
  { w with sessions := w.sessions.set id s }

/-- Carries out a command; none if there is no such session or type. -/
def perform (w : Workspace τ) : Command → Option (Answer τ × Workspace τ)
  | .begin source =>
    let s := w.tokenizer.session source
    some (.opened w.sessions.length s, { w with sessions := w.sessions ++ [some s] })
  | .find type source start =>
    (w.tokenizer.types[type]?).map fun t => (.found (t.matcher.findAt source start), w)
  | .read id reading =>
    (w.session? id).map fun s =>
      let (result, after) := s.read reading
      (.read result after, w.set id (some after))
  | .close id => (w.session? id).map fun _ => (.closed, w.set id none)

/-- Carries out commands one after the other, up to the first that cannot be. -/
def performAll (w : Workspace τ) : List Command → List (Answer τ) × Workspace τ
  | [] => ([], w)
  | c :: cs =>
    match w.perform c with
    | none => ([], w)
    | some (answer, w) =>
      let (answers, w) := performAll w cs
      (answer :: answers, w)

end Workspace

end Munch
