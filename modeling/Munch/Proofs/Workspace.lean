import Munch.Proofs.Session.Stream

/-!
# Scripts of commands on several sessions

However the commands on several sessions are interleaved, each session answers as the stream of its
own source does, which only the readings of this session have moved on.

* `Command.Applicable`: scripts whose commands concern sessions that are open.
* `Workspace.Follows`: a workspace whose sessions stand as some streams do, one by one.
* `Workspace.Follows.perform`, `Workspace.Follows.performAll`: one command and a script of them.
* `TokenStream.getElem?_foldl_perform`: a script moves a stream on by the readings of its session.
* `Workspace.answers_of_script`: the answers to a script.
-/

namespace Munch

variable {τ : Type}

namespace Command

/-- Each command concerns a session that is open, or one of the types. Which of the sessions begun
before are open is said by `sessions`. -/
def Applicable (types : Nat) : List Bool → List Command → Prop
  | _, [] => True
  | sessions, begin _ :: script => Applicable types (sessions ++ [true]) script
  | sessions, find type _ _ :: script => type < types ∧ Applicable types sessions script
  | sessions, read id _ :: script => sessions[id]? = some true ∧ Applicable types sessions script
  | sessions, close id :: script =>
    sessions[id]? = some true ∧ Applicable types (sessions.set id false) script

/-- The sources of the sessions that a script begins, in order. -/
def sources (script : List Command) : List (List Char) :=
  script.filterMap fun
    | begin source => some source
    | _ => none

/-- The readings of session number `id` in a script, in order. -/
def readings (id : Nat) (script : List Command) : List Reading :=
  script.filterMap fun
    | read i reading => if i = id then some reading else none
    | _ => none

end Command

namespace TokenStream

/-- What a command does to the streams of several sessions, of which some have been closed. -/
def perform (t : Tokenizer τ) (streams : List (Option (TokenStream τ))) :
    Command → List (Option (TokenStream τ))
  | .begin source => streams ++ [some (t.stream source)]
  | .find _ _ _ => streams
  | .read id reading => streams.modify id (Option.map fun st => (st.read reading).2)
  | .close id => streams.set id none

variable {t : Tokenizer τ} {streams : List (Option (TokenStream τ))} {types : Nat}

theorem exists_of_isSome {id : Nat} (h : (streams.map Option.isSome)[id]? = some true) :
    id < streams.length ∧ ∃ st, streams[id]? = some (some st) := by
  rw [List.getElem?_map, Option.map_eq_some_iff] at h
  obtain ⟨st?, hid, hst⟩ := h
  obtain ⟨st, rfl⟩ := Option.isSome_iff_exists.1 hst
  exact ⟨(List.getElem?_eq_some_iff.1 hid).1, st, hid⟩

/-- A command leaves open and closed what the rest of the script takes for open and closed. -/
theorem applicable_perform {c : Command} {script : List Command}
    (hc : Command.Applicable types (streams.map Option.isSome) (c :: script)) :
    Command.Applicable types ((perform t streams c).map Option.isSome) script := by
  cases c with
  | begin source =>
    rw [perform, List.map_append]
    exact hc
  | find type source start => exact hc.2
  | read id reading =>
    have hsame : (perform t streams (.read id reading)).map Option.isSome =
        streams.map Option.isSome := by
      refine List.ext_getElem? fun i => ?_
      cases hi : streams[i]? <;> simp [perform, List.getElem?_modify, hi, apply_ite]
    rw [hsame]
    exact hc.2
  | close id =>
    rw [perform, List.map_set]
    exact hc.2

/-- A command moves no stream on but that of its session. -/
theorem getElem?_perform {c : Command} {script : List Command}
    (hc : Command.Applicable types (streams.map Option.isSome) (c :: script))
    {later : List (Option (TokenStream τ))} {id : Nat} {st' : TokenStream τ}
    (h : (perform t streams c ++ later)[id]? = some (some st')) :
    ∃ st, (streams ++ ((Command.sources [c]).map fun source => some (t.stream source)) ++
        later)[id]? = some (some st) ∧
      st' = st.after (Command.readings id [c]) := by
  cases c with
  | begin source => exact ⟨st', h, rfl⟩
  | find type source start => exact ⟨st', by simpa [perform, Command.sources] using h, rfl⟩
  | read j reading =>
    obtain ⟨hj, st, hst⟩ := exists_of_isSome hc.1
    by_cases hid : j = id
    · subst hid
      rw [perform, List.getElem?_append_left (by simpa using hj), List.getElem?_modify_eq, hst] at h
      cases h
      refine ⟨st, ?_, by simp [Command.readings, after]⟩
      simpa [Command.sources, List.getElem?_append_left hj] using hst
    · refine ⟨st', ?_, by simp [Command.readings, hid, after]⟩
      simpa [perform, Command.sources, List.getElem?_append,
        List.getElem?_modify_ne _ _ hid] using h
  | close j =>
    by_cases hid : j = id
    · obtain ⟨hj, -⟩ := exists_of_isSome hc.1
      subst hid
      rw [perform, List.getElem?_append_left (by simpa using hj), List.getElem?_set_self hj] at h
      cases h
    · refine ⟨st', ?_, rfl⟩
      simpa [perform, Command.sources, List.getElem?_append, List.getElem?_set_ne hid] using h

theorem length_foldl_perform (script : List Command) :
    (script.foldl (perform t) streams).length =
      streams.length + (Command.sources script).length := by
  induction script generalizing streams with
  | nil => rfl
  | cons c script ih =>
    rw [List.foldl_cons, ih]
    cases c with
    | begin source => simp [perform, Command.sources, Nat.add_assoc, Nat.add_comm 1]
    | find type source start => rfl
    | read id reading => simp [perform, Command.sources]
    | close id => simp [perform, Command.sources]

/-- A script moves each stream on by the readings of its session, in whatever order they come with
the other commands. -/
theorem getElem?_foldl_perform {script : List Command}
    (h : Command.Applicable types (streams.map Option.isSome) script) {id : Nat}
    {st' : TokenStream τ} (hst : (script.foldl (perform t) streams)[id]? = some (some st')) :
    ∃ st, (streams ++ (Command.sources script).map fun source => some (t.stream source))[id]? =
        some (some st) ∧
      st' = st.after (Command.readings id script) := by
  induction script generalizing streams with
  | nil => exact ⟨st', by simpa [Command.sources] using hst, rfl⟩
  | cons c script ih =>
    obtain ⟨mid, hmid, rfl⟩ := ih (applicable_perform h) hst
    obtain ⟨st, hfirst, rfl⟩ := getElem?_perform h hmid
    have hsources : Command.sources (c :: script) =
        Command.sources [c] ++ Command.sources script := List.filterMap_append (l := [c])
    have hreadings : Command.readings id (c :: script) =
        Command.readings id [c] ++ Command.readings id script := List.filterMap_append (l := [c])
    refine ⟨st, ?_, ?_⟩
    · rw [hsources, List.map_append, ← List.append_assoc]
      exact hfirst
    · rw [hreadings, after, after, after, List.foldl_append]

end TokenStream

/-- The answer to a command from the streams of several sessions. -/
def Answer.Fits (t : Tokenizer τ) (streams : List (Option (TokenStream τ))) :
    Command → Answer τ → Prop
  | .begin source, .opened id after => id = streams.length ∧ after.StandsAt (t.stream source)
  | .find type source start, .found m =>
    ∃ ty, t.types[type]? = some ty ∧ m = ty.matcher.findAt source start
  | .read id reading, .read result after => ∃ st, streams[id]? = some (some st) ∧
    result = (st.read reading).1 ∧ after.StandsAt (st.read reading).2
  | .close _, .closed => True
  | _, _ => False

namespace Workspace

/-- Each open session of the workspace follows the stream of its number. -/
structure Follows (w : Workspace τ) (t : Tokenizer τ) (streams : List (Option (TokenStream τ))) :
    Prop where
  tokenizer : w.tokenizer = t
  length : w.sessions.length = streams.length
  sessions : ∀ id st, streams[id]? = some (some st) →
    ∃ s, w.session? id = some s ∧ s.Follows st

variable {w : Workspace τ} {t : Tokenizer τ} {streams : List (Option (TokenStream τ))}

/-! ## One command -/

theorem session?_set_self {id : Nat} (h : id < w.sessions.length) (s? : Option (Session τ)) :
    (w.set id s?).session? id = s? := by
  simp [session?, set, h]

theorem session?_set_ne {j id : Nat} (h : j ≠ id) (s? : Option (Session τ)) :
    (w.set j s?).session? id = w.session? id := by
  simp [session?, set, h]

/-- A command that concerns an open session is carried out and answered as by the streams. -/
theorem Follows.perform (h : w.Follows t streams) {c : Command} {script : List Command}
    (hc : Command.Applicable t.types.length (streams.map Option.isSome) (c :: script)) :
    ∃ answer after, w.perform c = some (answer, after) ∧ Answer.Fits t streams c answer ∧
      after.Follows t (TokenStream.perform t streams c) := by
  obtain ⟨rfl, hlength, hsessions⟩ := h
  cases c with
  | begin source =>
    have hfollows := Session.follows_stream w.tokenizer source
    refine ⟨.opened w.sessions.length _, _, rfl, ⟨hlength, hfollows.standsAt⟩, rfl, ?_, ?_⟩
    · simp [TokenStream.perform, hlength]
    · intro id st hst
      by_cases hid : id < streams.length
      · rw [TokenStream.perform, List.getElem?_append_left hid] at hst
        rw [session?, List.getElem?_append_left (hlength ▸ hid)]
        exact hsessions id st hst
      · obtain ⟨hlt, -⟩ := List.getElem?_eq_some_iff.1 hst
        rw [TokenStream.perform, List.length_append, List.length_singleton] at hlt
        obtain rfl : id = streams.length := by omega
        rw [TokenStream.perform, List.getElem?_concat_length] at hst
        cases hst
        exact ⟨_, by rw [session?, ← hlength, List.getElem?_concat_length]; rfl, hfollows⟩
  | find type source start =>
    obtain ⟨ty, hty⟩ : ∃ ty, w.tokenizer.types[type]? = some ty :=
      ⟨_, List.getElem?_eq_getElem hc.1⟩
    exact ⟨.found (ty.matcher.findAt source start), w, by rw [Workspace.perform, hty]; rfl,
      ⟨ty, hty, rfl⟩, rfl, hlength, hsessions⟩
  | read id reading =>
    obtain ⟨hid, st, hst⟩ := TokenStream.exists_of_isSome hc.1
    obtain ⟨s, hs, hfollows⟩ := hsessions id st hst
    obtain ⟨hresult, hafter⟩ := hfollows.read reading
    refine ⟨.read (s.read reading).1 (s.read reading).2, w.set id (some (s.read reading).2),
      by rw [Workspace.perform, hs]; rfl, ⟨st, hst, hresult, hafter.standsAt⟩, rfl, ?_, ?_⟩
    · simp [TokenStream.perform, Workspace.set, hlength]
    · intro j st' hst'
      by_cases hj : id = j
      · subst hj
        rw [TokenStream.perform, List.getElem?_modify_eq, hst] at hst'
        cases hst'
        exact ⟨_, session?_set_self (hlength ▸ hid) _, hafter⟩
      · rw [TokenStream.perform, List.getElem?_modify_ne _ _ hj] at hst'
        rw [session?_set_ne hj]
        exact hsessions j st' hst'
  | close id =>
    obtain ⟨hid, st, hst⟩ := TokenStream.exists_of_isSome hc.1
    obtain ⟨s, hs, -⟩ := hsessions id st hst
    refine ⟨.closed, w.set id none, by rw [Workspace.perform, hs]; rfl, trivial, rfl, ?_, ?_⟩
    · simp [TokenStream.perform, Workspace.set, hlength]
    · intro j st' hst'
      by_cases hj : id = j
      · subst hj
        rw [TokenStream.perform, List.getElem?_set_self hid] at hst'
        cases hst'
      · rw [TokenStream.perform, List.getElem?_set_ne hj] at hst'
        rw [session?_set_ne hj]
        exact hsessions j st' hst'

/-! ## Scripts -/

/-- All commands of a script are carried out, and each answer is that of the streams as the commands
in front of it have left them. -/
theorem Follows.performAll (h : w.Follows t streams) {script : List Command}
    (hscript : Command.Applicable t.types.length (streams.map Option.isSome) script) :
    (w.performAll script).1.length = script.length ∧
    ∀ i c, script[i]? = some c → ∃ answer, (w.performAll script).1[i]? = some answer ∧
      Answer.Fits t ((script.take i).foldl (TokenStream.perform t) streams) c answer := by
  induction script generalizing w streams with
  | nil => exact ⟨rfl, by simp⟩
  | cons c script ih =>
    obtain ⟨answer, after, hperform, hfits, hafter⟩ := h.perform hscript
    obtain ⟨hlength, hanswers⟩ := ih hafter (TokenStream.applicable_perform hscript)
    have hall : (w.performAll (c :: script)).1 = answer :: (after.performAll script).1 := by
      rw [Workspace.performAll, hperform]
    rw [hall]
    refine ⟨by rw [List.length_cons, hlength, List.length_cons], fun i d hd => ?_⟩
    cases i with
    | zero =>
      cases hd
      exact ⟨answer, rfl, hfits⟩
    | succ i => exact hanswers i d hd

end Workspace

theorem Command.Applicable.take {types : Nat} {sessions : List Bool} {script : List Command}
    (h : Applicable types sessions script) (n : Nat) :
    Applicable types sessions (script.take n) := by
  induction script generalizing sessions n with
  | nil => simpa using h
  | cons c script ih =>
    cases n with
    | zero => trivial
    | succ n =>
      cases c with
      | begin source => exact ih h n
      | find type source start => exact ⟨h.1, ih h.2 n⟩
      | read id reading => exact ⟨h.1, ih h.2 n⟩
      | close id => exact ⟨h.1, ih h.2 n⟩

/-- A script whose commands concern open sessions is carried out to its end. Sessions are numbered
in the order in which they begin. A reading of a session takes or skips the tokens that come next in
the list of all tokens of its source, of which the readings of the same session in front of it have
passed some; what happens to other sessions does not matter. The session then stands at the end of
the tokens passed. -/
theorem Workspace.answers_of_script (t : Tokenizer τ) {script : List Command}
    (h : Command.Applicable t.types.length [] script) :
    let answers := (Workspace.performAll ⟨t, []⟩ script).1
    answers.length = script.length ∧
    (∀ (i : Nat) source, script[i]? = some (.begin source) → ∃ after : Session τ,
      answers[i]? = some (.opened (Command.sources (script.take i)).length after) ∧
      after.StandsAt (t.stream source)) ∧
    ∀ (i : Nat) id reading, script[i]? = some (.read id reading) → ∃ source, ∃ after : Session τ,
      (Command.sources (script.take i))[id]? = some source ∧
      let stream := (t.stream source).after (Command.readings id (script.take i))
      answers[i]? = some (.read (stream.read reading).1 after) ∧
      after.StandsAt (stream.read reading).2 := by
  have hfollows : (⟨t, []⟩ : Workspace τ).Follows t [] := ⟨rfl, rfl, by simp⟩
  obtain ⟨hlength, hanswers⟩ := hfollows.performAll h
  refine ⟨hlength, fun i source hi => ?_, fun i id reading hi => ?_⟩
  · obtain ⟨answer, hanswer, hfits⟩ := hanswers i _ hi
    cases answer with
    | opened id after =>
      obtain ⟨rfl, hstands⟩ := hfits
      rw [TokenStream.length_foldl_perform, List.length_nil, Nat.zero_add] at hanswer
      exact ⟨after, hanswer, hstands⟩
    | _ => exact hfits.elim
  · obtain ⟨answer, hanswer, hfits⟩ := hanswers i _ hi
    cases answer with
    | read result after =>
      obtain ⟨st, hst, rfl, hstands⟩ := hfits
      obtain ⟨start, hstart, rfl⟩ := TokenStream.getElem?_foldl_perform (h.take i) hst
      rw [List.nil_append, List.getElem?_map, Option.map_eq_some_iff] at hstart
      obtain ⟨source, hsource, hstart⟩ := hstart
      cases hstart
      exact ⟨source, after, hsource, hanswer, hstands⟩
    | _ => exact hfits.elim

/-- Two sessions, of which the second is read to its end and asked again while the first is read. -/
def Command.interleaved : List Command :=
  [.begin "aab".toList, .read 0 .next, .begin "ba".toList, .read 1 (.nth 1), .read 0 .rest,
    .read 1 .own]

theorem Workspace.answers_of_interleaved :
    ∃ (t : Tokenizer Nat) (first second : Session Nat),
      Tokenizer.build {} [⟨0, .literal "a"⟩] = .ok t ∧
      Command.Applicable t.types.length [] Command.interleaved ∧
      let answers := (Workspace.performAll ⟨t, []⟩ Command.interleaved).1
      answers.length = 6 ∧
      answers[4]? = some (.read (.tokens ((t.scan "aab".toList).drop 1)) first) ∧
      first.offset = 3 ∧ first.isDone = true ∧
      answers[5]? = some (.read (.owned none) second) ∧ second.offset = 2 := by
  let t : Tokenizer Nat := (Tokenizer.build {} [⟨0, .literal "a"⟩]).toOption.getD default
  have happ : Command.Applicable t.types.length [] Command.interleaved := by
    simp [Command.Applicable, Command.interleaved]
  obtain ⟨hlength, -, hread⟩ := answers_of_script t happ
  obtain ⟨source, first, hsource, hfirst, hstands⟩ := hread 4 0 .rest rfl
  obtain ⟨source', second, hsource', hsecond, hstands'⟩ := hread 5 1 .own rfl
  cases hsource
  cases hsource'
  have hnone : (((t.stream "ba".toList).after [.nth 1]).read .own).1 = .owned none := by
    decide +kernel
  refine ⟨t, first, second, by decide +kernel, happ, hlength, hfirst, ?_, hstands.isDone.2 ?_,
    hsecond.trans (congrArg (fun result => some (Answer.read result second)) hnone), ?_⟩
  · rw [hstands.offset]
    decide +kernel
  · decide +kernel
  · rw [hstands'.offset]
    decide +kernel

end Munch
