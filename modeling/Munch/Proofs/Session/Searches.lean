import Mathlib.Data.List.Chain
import Munch.Proofs.Session.Coverage
import Munch.Proofs.Session.LongestMatch

/-!
# Searches are not repeated

A session searches a type only if it has not done so before, or if it has passed the start of the
match that the last search of the type found. So the searches of a type begin one behind the other,
each of them but the last found a match that begins in front of the next one, and a type of which
there is no further match is not searched again.

* `Search.PassedBy`: the search whose match a session has passed.
* `Session.Records`: what a session keeps of each type is what the last search of the type found.
* `Session.Records.step`, `Session.Records.run`: one step and several steps.
* `Tokenizer.searches_of_run`: the searches of a type in any number of steps.
-/

namespace Munch

variable {τ : Type}

/-- A search of a type: the byte from which on it was made, and what it found. -/
structure Search where
  offset : Nat
  result : Option Match
  deriving DecidableEq, Inhabited, Repr

/-- The search found a match, and the match begins in front of byte `offset`. -/
def Search.PassedBy (a : Search) (offset : Nat) : Prop :=
  ∃ m, a.result = some m ∧ a.offset ≤ m.start ∧ m.start < offset

namespace Search.PassedBy

variable {a : Search} {offset offset' : Nat}

theorem offset_lt (h : a.PassedBy offset) : a.offset < offset := by
  obtain ⟨m, -, hle, hlt⟩ := h
  exact Nat.lt_of_le_of_lt hle hlt

theorem result_ne_none (h : a.PassedBy offset) : a.result ≠ none := by
  obtain ⟨m, hm, -⟩ := h
  rw [hm]
  exact Option.some_ne_none m

theorem mono (h : a.PassedBy offset) (hle : offset ≤ offset') : a.PassedBy offset' := by
  obtain ⟨m, hm, hstart, hlt⟩ := h
  exact ⟨m, hm, hstart, Nat.lt_of_lt_of_le hlt hle⟩

end Search.PassedBy

/-- A search that finds nothing is followed by none. -/
theorem Search.eq_nil_of_isChain {before behind : List Search} {a : Search}
    (h : (before ++ a :: behind).IsChain fun a b => a.PassedBy b.offset) (ha : a.result = none) :
    behind = [] := by
  cases behind with
  | nil => rfl
  | cons b behind =>
    rw [List.isChain_append_cons_cons] at h
    exact absurd ha h.2.1.result_ne_none

namespace Event

/-- The search of type number `k` that an event is a record of, if it is one. -/
def search? (k : Nat) : Event → Option Search
  | searched type offset _ result => if type = k then some ⟨offset, result⟩ else none
  | _ => none

/-- The searches of type number `k`, in the order in which they were made. -/
def searches (k : Nat) (events : List Event) : List Search := events.filterMap (search? k)

theorem searches_append (k : Nat) (as bs : List Event) :
    searches k (as ++ bs) = searches k as ++ searches k bs := List.filterMap_append

@[simp] theorem searches_singleton_matched (k type offset : Nat) (text : List Char) :
    searches k [matched type offset text] = [] := rfl

@[simp] theorem searches_singleton_unmatched (k offset : Nat) (c : Char) :
    searches k [unmatched offset c] = [] := rfl

end Event

/-! ## What is kept of the last search -/

namespace Cached

/-- What a session at byte `offset` keeps of a type whose last search was `last`. -/
def Keeps (last : Option Search) (offset : Nat) : Cached → Prop
  | stale => ∀ a ∈ last, a.PassedBy offset
  | found m => ∃ start ≤ m.start, last = some ⟨start, some m⟩
  | exhausted => ∃ start, last = some ⟨start, none⟩

variable {c : Cached} {last : Option Search} {offset offset' : Nat}

theorem Keeps.mono (h : c.Keeps last offset) (hle : offset ≤ offset') : c.Keeps last offset' := by
  cases c with
  | stale => exact fun a ha => (h a ha).mono hle
  | found m => exact h
  | exhausted => exact h

/-- A type is due for a search if and only if the match of its last one has been passed. -/
theorem Keeps.isValidAt_eq_false_iff (h : c.Keeps last offset) :
    c.isValidAt offset = false ↔ ∀ a ∈ last, a.PassedBy offset := by
  cases c with
  | stale => exact ⟨fun _ => h, fun _ => rfl⟩
  | found m =>
    obtain ⟨start, hstart, rfl⟩ := h
    simp [isValidAt, Search.PassedBy, hstart]
  | exhausted =>
    obtain ⟨start, rfl⟩ := h
    simp [isValidAt, Search.PassedBy]

/-- What a search finds is kept. -/
theorem keeps_ofSearch_find (m : Matcher) (p : Cursor) (offset : Nat) :
    (ofSearch (m.find p)).Keeps (some ⟨p.offset, m.find p⟩) offset := by
  cases hfind : m.find p with
  | none => exact ⟨p.offset, rfl⟩
  | some x =>
    obtain ⟨q, hq, hx⟩ := Matcher.exists_of_find_eq_some hfind
    refine ⟨p.offset, ?_, rfl⟩
    rw [Matcher.start_of_matchAt hx]
    exact hq.offset_le

/-- A match is given up when it has been taken, and then its start has been passed. -/
theorem Keeps.stale_of_found {m : Match} (h : (found m).Keeps last offset)
    (hlt : m.start < offset') : stale.Keeps last offset' := by
  obtain ⟨start, hstart, rfl⟩ := h
  intro a ha
  obtain rfl := Option.mem_some_iff.1 ha
  exact ⟨m, rfl, hstart, hlt⟩

end Cached

namespace Session

/-! ## One step -/

section Refresh

variable {types : List (TokenType τ)} {cache : List Cached} {p : Cursor} {k : Nat}

/-- A type is searched if what is known of it is not valid any more. -/
theorem searches_refresh_cons (t : TokenType τ) (ts : List (TokenType τ)) (c : Cached)
    (cs : List Cached) :
    Event.searches k (refresh p (t :: ts) (c :: cs)).2 =
      (if t.index = k ∧ c.isValidAt p.offset = false then [⟨p.offset, t.matcher.find p⟩] else []) ++
        Event.searches k (refresh p ts cs).2 := by
  rw [refresh]
  dsimp only
  cases hvalid : c.isValidAt p.offset with
  | true => simp
  | false =>
    by_cases hindex : t.index = k <;> simp [Event.searches, Event.search?, hindex]

/-- A number that no type has is not searched. -/
theorem searches_refresh_of_ne (h : ∀ t ∈ types, t.index ≠ k) :
    Event.searches k (refresh p types cache).2 = [] := by
  induction types generalizing cache with
  | nil => rfl
  | cons t ts ih =>
    cases cache with
    | nil => rfl
    | cons c cs =>
      rw [List.forall_mem_cons] at h
      rw [searches_refresh_cons, if_neg fun hk => h.1 hk.1, List.nil_append, ih h.2]

/-- If the types have the numbers from `n` on, a refresh searches the type at position `k` as number
`n + k`, unless what is known of it is still valid. -/
theorem searches_refresh {n : Nat} (h : ∀ i t, types[i]? = some t → t.index = n + i)
    {t : TokenType τ} (ht : types[k]? = some t) {c : Cached} (hc : cache[k]? = some c) :
    Event.searches (n + k) (refresh p types cache).2 =
      if c.isValidAt p.offset then [] else [⟨p.offset, t.matcher.find p⟩] := by
  induction types generalizing cache n k with
  | nil => cases ht
  | cons t₀ ts ih =>
    cases cache with
    | nil => cases hc
    | cons c₀ cs =>
      have hfirst : t₀.index = n := h 0 t₀ rfl
      have htail : ∀ i t, ts[i]? = some t → t.index = (n + 1) + i := by
        intro i t hi
        have := h (i + 1) t hi
        omega
      rw [searches_refresh_cons]
      cases k with
      | zero =>
        cases ht
        cases hc
        have hne : ∀ t ∈ ts, t.index ≠ n + 0 := by
          intro t ht
          obtain ⟨i, hi⟩ := List.mem_iff_getElem?.1 ht
          have := htail i t hi
          omega
        rw [searches_refresh_of_ne hne, List.append_nil]
        cases hvalid : c.isValidAt p.offset <;> simp [hfirst]
      | succ k =>
        rw [if_neg (by omega), List.nil_append, show n + (k + 1) = (n + 1) + k by omega]
        exact ih htail ht hc

end Refresh

variable {s after : Session τ} {token : Token τ} {events past : List Event} {k : Nat}

/-- Something is kept of each type. -/
theorem Sound.exists_cached (hs : s.Sound) {t : TokenType τ} (ht : s.types[k]? = some t) :
    ∃ c, s.cache[k]? = some c ∧ c.Remembers t.matcher s.cursor := by
  obtain ⟨hlength, hget⟩ := List.forall₂_iff_get.1 hs.cache
  obtain ⟨hk, rfl⟩ := List.getElem?_eq_some_iff.1 ht
  exact ⟨s.cache[k], List.getElem?_eq_getElem (hlength ▸ hk), hget k hk (hlength ▸ hk)⟩

/-- All searches of a step are those that bring what is known up to the place. -/
theorem Sound.searches_step (hs : s.Sound) (h : s.step = some (token, events, after)) (k : Nat) :
    Event.searches k events = Event.searches k (refresh s.cursor s.types s.cache).2 := by
  obtain ⟨_, t, _, -, -, -, -, -, rfl⟩ | ⟨c, _, -, -, -, rfl⟩ := hs.step_cases h
  · rw [Event.searches_append, Event.searches_singleton_matched, List.append_nil]
  · rw [Event.searches_append, Event.searches_singleton_unmatched, List.append_nil]

theorem exists_of_getElem?_freshCache {c : Cached}
    (h : (freshCache s.types s.cursor)[k]? = some c) :
    ∃ t, s.types[k]? = some t ∧ c = .ofSearch (t.matcher.find s.cursor) := by
  rw [freshCache, List.getElem?_map, Option.map_eq_some_iff] at h
  obtain ⟨t, ht, rfl⟩ := h
  exact ⟨t, ht, rfl⟩

/-- A step keeps of each type what a search from its place finds, but for the match that it
takes. -/
theorem Sound.getElem?_cache_step (hs : s.Sound) (h : s.step = some (token, events, after))
    {c : Cached} (hc : after.cache[k]? = some c) :
    ∃ t, s.types[k]? = some t ∧ (c = .ofSearch (t.matcher.find s.cursor) ∨
      ∃ m, c = .stale ∧ t.matcher.find s.cursor = some m ∧ m.start = s.offset) := by
  obtain ⟨i, t, m, ht, hat, -, -, htake, -⟩ | ⟨_, _, -, -, htake, -⟩ := hs.step_cases h
  · obtain rfl : _ = after := congrArg Prod.snd htake
    replace hc : ((freshCache s.types s.cursor).set i .stale)[k]? = some c := hc
    rw [List.getElem?_set] at hc
    split at hc
    next hik =>
      subst hik
      rw [Option.ite_none_right_eq_some, Option.some.injEq] at hc
      rw [← Matcher.find_filter_start, Option.filter_eq_some_iff, decide_eq_true_eq] at hat
      exact ⟨t, ht, .inr ⟨m, hc.2.symm, hat⟩⟩
    next =>
      obtain ⟨t, ht, rfl⟩ := exists_of_getElem?_freshCache hc
      exact ⟨t, ht, .inl rfl⟩
  · obtain rfl : _ = after := congrArg Prod.snd htake
    obtain ⟨t, ht, rfl⟩ := exists_of_getElem?_freshCache hc
    exact ⟨t, ht, .inl rfl⟩

/-! ## Several steps -/

/-- The events up to the place of a session are a record of what it keeps: of each type, what its
last search found. -/
structure Records (s : Session τ) (past : List Event) : Prop where
  sound : s.Sound
  index : ∀ (i : Nat) t, s.types[i]? = some t → t.index = i
  /-- Each search was made when the match of the one before it had been passed. -/
  chain : ∀ k, (Event.searches k past).IsChain fun a b => a.PassedBy b.offset
  /-- A search found what the matcher of the type finds from its offset on. -/
  result : ∀ k, ∀ a ∈ Event.searches k past,
    ∃ t, s.types[k]? = some t ∧ a.result = t.matcher.findAt s.source a.offset
  keeps : ∀ (k : Nat) c, s.cache[k]? = some c → c.Keeps (Event.searches k past).getLast? s.offset

/-- A step searches a type only if the match of its last search has been passed. Otherwise what a
search would find is what is kept. -/
theorem Records.searches_step (h : s.Records past) (hstep : s.step = some (token, events, after))
    (k : Nat) :
    (∃ t, s.types[k]? = some t ∧ (∀ a ∈ (Event.searches k past).getLast?, a.PassedBy s.offset) ∧
      Event.searches k events = [⟨s.offset, t.matcher.find s.cursor⟩]) ∨
    (Event.searches k events = [] ∧ ∀ t, s.types[k]? = some t →
      s.cache[k]? = some (.ofSearch (t.matcher.find s.cursor))) := by
  rw [h.sound.searches_step hstep]
  cases ht : s.types[k]? with
  | none =>
    refine .inr ⟨searches_refresh_of_ne fun t hmem hk => ?_, fun t ht => nomatch ht⟩
    obtain ⟨i, hi⟩ := List.mem_iff_getElem?.1 hmem
    rw [← hk, h.index i t hi, hi] at ht
    cases ht
  | some t =>
    obtain ⟨c, hc, hremembers⟩ := h.sound.exists_cached ht
    have hrefresh := searches_refresh (n := 0) (p := s.cursor)
      (fun i t hi => by rw [h.index i t hi, Nat.zero_add]) ht hc
    rw [Nat.zero_add] at hrefresh
    rw [hrefresh, ← (h.keeps k c hc).isValidAt_eq_false_iff]
    cases hvalid : c.isValidAt s.cursor.offset with
    | false => exact .inl ⟨t, rfl, hvalid, rfl⟩
    | true =>
      refine .inr ⟨rfl, fun t' ht' => ?_⟩
      obtain rfl := Option.some.inj ht'
      rw [hc, hremembers.eq_ofSearch hvalid]

/-- What a search from the place of a session finds is what the last search up to the end of a step
has found. -/
theorem Records.keeps_ofSearch (h : s.Records past) (hstep : s.step = some (token, events, after))
    {t : TokenType τ} (ht : s.types[k]? = some t) :
    (Cached.ofSearch (t.matcher.find s.cursor)).Keeps
      (Event.searches k (past ++ events)).getLast? s.offset := by
  rw [Event.searches_append]
  obtain ⟨t', ht', -, hsearch⟩ | ⟨hsearch, hcached⟩ := h.searches_step hstep k
  · obtain rfl := Option.some.inj (ht.symm.trans ht')
    rw [hsearch, List.getLast?_concat]
    exact Cached.keeps_ofSearch_find t.matcher s.cursor s.offset
  · rw [hsearch, List.append_nil]
    exact h.keeps k _ (hcached t ht)

/-- A step leaves a session of which the events up to then are a record. -/
theorem Records.step (h : s.Records past) (hstep : s.step = some (token, events, after)) :
    after.Records (past ++ events) := by
  obtain ⟨hreads, hafter⟩ := h.sound.step_reads hstep
  have hlt : s.offset < after.offset := by
    have := hreads.length_pos
    rw [hreads.offset_after, hreads.index]
    omega
  refine ⟨hafter, by rw [hreads.types]; exact h.index, fun k => ?_, fun k => ?_, fun k c hc => ?_⟩
  · rw [Event.searches_append]
    obtain ⟨t, -, hpassed, hsearch⟩ | ⟨hsearch, -⟩ := h.searches_step hstep k
    · rw [hsearch, List.isChain_append]
      refine ⟨h.chain k, .singleton _, fun a ha b hb => ?_⟩
      obtain rfl := Option.mem_some_iff.1 hb
      exact hpassed a ha
    · rw [hsearch, List.append_nil]
      exact h.chain k
  · rw [Event.searches_append, hreads.types, hreads.source]
    obtain ⟨t, ht, -, hsearch⟩ | ⟨hsearch, -⟩ := h.searches_step hstep k
    · rw [hsearch, List.forall_mem_append, List.forall_mem_singleton]
      exact ⟨h.result k, t, ht, (t.matcher.findAt_eq h.sound.cursor).symm⟩
    · rw [hsearch, List.append_nil]
      exact h.result k
  · obtain ⟨t, ht, hkept⟩ := h.sound.getElem?_cache_step hstep hc
    have hfound := h.keeps_ofSearch hstep ht
    obtain rfl | ⟨m, rfl, hm, hstart⟩ := hkept
    · exact hfound.mono hlt.le
    · rw [hm] at hfound
      exact Cached.Keeps.stale_of_found hfound (hstart ▸ hlt)

/-- Several steps leave such a session, too. -/
theorem Records.run (h : s.Records past) (n : Nat) :
    (s.run n).2.2.Records (past ++ (s.run n).2.1) := by
  induction n generalizing s past with
  | zero =>
    rw [Session.run, List.append_nil]
    exact h
  | succ n ih =>
    cases hstep : s.step with
    | none =>
      rw [run_succ_of_none hstep, List.append_nil]
      exact h
    | some r =>
      obtain ⟨token, events, after⟩ := r
      rw [run_succ_of_some hstep, ← List.append_assoc]
      exact ih (h.step hstep)

theorem records_session {t : Tokenizer τ} {config : Config} {defs : List (Definition τ)}
    (ht : Tokenizer.build config defs = .ok t) (source : List Char) :
    (t.session source).Records [] where
  sound := sound_session t source
  index := fun _ _ hi => (Tokenizer.of_build ht hi).1
  chain := fun _ => .nil
  result := fun _ _ ha => absurd ha List.not_mem_nil
  keeps := by
    intro k c hc
    obtain rfl := List.eq_of_mem_replicate (List.mem_of_getElem? hc)
    exact fun _ ha => nomatch ha

end Session

namespace Tokenizer

/-- The searches of a type in any number of steps. They begin one behind the other, at offsets from
which they found what the matcher of the type finds, and each but the last one found a match that
begins in front of the next one. If a search found nothing, it is the last one, and further steps
make none. A further step makes at most one search, from its own place on, and only if the match of
the last search begins in front of that place. -/
theorem searches_of_run {config : Config} {defs : List (Definition τ)} {t : Tokenizer τ}
    (ht : build config defs = .ok t) (source : List Char) (n k : Nat) :
    let s := ((t.session source).run n).2.2
    let searches := Event.searches k ((t.session source).run n).2.1
    (searches.map (·.offset)).Pairwise (· < ·) ∧
    (searches.IsChain fun a b =>
      ∃ m, a.result = some m ∧ a.offset ≤ m.start ∧ m.start < b.offset) ∧
    (∀ a ∈ searches, ∃ type, t.types[k]? = some type ∧
      a.result = type.matcher.findAt source a.offset) ∧
    (∀ a ∈ searches, a.result = none →
      searches.getLast? = some a ∧ ∀ j, Event.searches k (s.run j).2.1 = []) ∧
    (∀ token events after, s.step = some (token, events, after) →
      Event.searches k events = [] ∨
      ((∃ type, t.types[k]? = some type ∧
          Event.searches k events = [⟨s.offset, type.matcher.findAt source s.offset⟩]) ∧
        ∀ a ∈ searches.getLast?,
          ∃ m, a.result = some m ∧ a.offset ≤ m.start ∧ m.start < s.offset)) := by
  intro s searches
  have hrecords := (Session.records_session ht source).run n
  rw [List.nil_append] at hrecords
  have hrun := (Session.sound_session t source).run_reads n
  have hchain := hrecords.chain k
  refine ⟨?_, hchain, fun a ha => ?_, fun a ha hnone => ?_, ?_⟩
  · rw [← List.isChain_iff_pairwise, List.isChain_map]
    exact hchain.imp fun _ _ h => h.offset_lt
  · obtain ⟨type, htype, hresult⟩ := hrecords.result k a ha
    rw [hrun.types] at htype
    rw [hrun.source] at hresult
    exact ⟨type, htype, hresult⟩
  · obtain ⟨before, behind, heq⟩ := List.append_of_mem ha
    have hlast : ∀ j, behind ++ Event.searches k (s.run j).2.1 = [] := by
      intro j
      have hchain := (hrecords.run j).chain k
      rw [Event.searches_append, show Event.searches k _ = _ from heq, List.append_assoc,
        List.cons_append] at hchain
      exact Search.eq_nil_of_isChain hchain hnone
    refine ⟨?_, fun j => (List.append_eq_nil_iff.1 (hlast j)).2⟩
    rw [heq, (List.append_eq_nil_iff.1 (hlast 0)).1, List.getLast?_concat]
  · intro token events after hstep
    obtain ⟨type, htype, hpassed, hsearch⟩ | ⟨hsearch, -⟩ := hrecords.searches_step hstep k
    · refine .inr ⟨⟨type, ?_, ?_⟩, hpassed⟩
      · rw [← htype, hrun.types]
        rfl
      · rw [hsearch, ← type.matcher.findAt_eq hrecords.sound.cursor, hrun.source]
        rfl
    · exact .inl hsearch

/-- Number 0 of the definitions `overlapping` loses at the start of `abxb`. Its match there has been
passed at offset 2, where it is searched again in vain, and not any more. Number 3 finds the empty
text until it is at the `b`. -/
theorem searches_of_overlapping :
    ∃ t : Tokenizer Nat, build {} overlapping = .ok t ∧
      Event.searches 0 ((t.session "abxb".toList).run 3).2.1 =
        [⟨0, some { span := ⟨0, 1⟩ }⟩, ⟨2, none⟩] ∧
      Event.searches 3 ((t.session "abxb".toList).run 3).2.1 =
        [⟨0, some { span := ⟨0, 0⟩ }⟩, ⟨2, some { span := ⟨2, 2⟩ }⟩,
          ⟨3, some { span := ⟨3, 4⟩ }⟩] ∧
      ∀ k, ((Event.searches k ((t.session "abxb".toList).run 3).2.1).map (·.offset)).Pairwise
        (· < ·) := by
  let t : Tokenizer Nat := (build {} overlapping).toOption.getD default
  have hbuild : build {} overlapping = .ok t := by decide +kernel
  exact ⟨t, hbuild, by decide +kernel, by decide +kernel,
    fun k => (searches_of_run hbuild "abxb".toList 3 k).1⟩

end Tokenizer

end Munch
