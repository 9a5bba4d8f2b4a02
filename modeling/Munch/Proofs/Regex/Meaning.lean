import Mathlib.Logic.Relation
import Munch.Proofs.Matcher
import Munch.Proofs.Regex.Layout

/-!
# Programs read what their expressions read

The code of a steady expression has no way from an instruction back to it that reads nothing: each
instruction is `Grounded`. There the stack of an attempt never matters, and code reads what its
expression reads.

* `LaidOut.grounded`, `LaidOut.onwardsFrom_eq`: code of an expression, whatever follows it.
* `Program.matchAt_ofExpr`, `Expr.exists_of_matchAt`: the matches of a compiled expression.
-/

namespace Munch.Regex

/-! ## Ways that read nothing -/

/-- Whether instruction `b` may follow `a` at the same place. -/
def MayFollow (code : Array Inst) (b a : Nat) : Prop :=
  match code[a]? with
  | some (.look _ next) => b = next
  | some (.opening _ next) => b = next
  | some (.closing _ next) => b = next
  | some (.split first second) => b = first ∨ b = second
  | _ => False

/-- Whether each way from an instruction ends or reads a character. -/
abbrev Grounded (code : Array Inst) (pc : Nat) : Prop := Acc (MayFollow code) pc

/-- What is read from an instruction on. -/
def onwardsFrom (code : Array Inst) (pc : Nat) : Onwards (Nat × Captures) :=
  fun p captures => attempt code [] p pc captures

section Instructions

variable {code : Array Inst} {pc next : Nat}

/-- An instruction that led here is not met again. -/
theorem Grounded.not_mem {stack : List Nat} (h : Grounded code pc)
    (hstack : ∀ i ∈ stack, Relation.TransGen (MayFollow code) pc i) : pc ∉ stack := by
  intro hpc
  have hloop := hstack pc hpc
  have hacc := h.transGen
  induction hacc with
  | intro pc _ ih => exact ih pc hloop h hstack hpc hloop

/-- What led to an instruction does not matter. -/
theorem Grounded.attempt_eq (h : Grounded code pc) {stack : List Nat}
    (hstack : ∀ i ∈ stack, Relation.TransGen (MayFollow code) pc i) (p : Cursor)
    (captures : Captures) :
    attempt code stack p pc captures = attempt code [] p pc captures := by
  induction h generalizing stack captures with
  | intro pc hacc ih =>
    have hs : pc ∉ stack := Grounded.not_mem (.intro pc hacc) hstack
    have hempty : pc ∉ ([] : List Nat) := List.not_mem_nil
    have hnext : ∀ b, MayFollow code b pc → ∀ captures,
        attempt code (pc :: stack) p b captures = attempt code [pc] p b captures := by
      intro b hb captures
      have hlink : Relation.TransGen (MayFollow code) b pc := .single hb
      have hone : attempt code [pc] p b captures = attempt code [] p b captures :=
        ih b hb (fun i hi => by rwa [List.mem_singleton.1 hi]) captures
      rw [hone]
      refine ih b hb (fun i hi => ?_) captures
      rcases List.mem_cons.1 hi with rfl | hi
      · exact hlink
      · exact hlink.trans (hstack i hi)
    cases hi : code[pc]? with
    | none => rw [attempt_of_none hi, attempt_of_none hi]
    | some i =>
      cases i with
      | accept => rw [attempt_of_accept hs hi, attempt_of_accept hempty hi]
      | chars set next =>
        cases hc : p.rest.head?.any set.contains with
        | false => rw [attempt_of_not_chars hi hc, attempt_of_not_chars hi hc]
        | true =>
          obtain ⟨c, hr, hc⟩ := (Option.any_eq_true _ _).1 hc
          obtain ⟨cs, hr⟩ := List.head?_eq_some_iff.1 hr
          rw [attempt_of_chars hs hi hr hc, attempt_of_chars hempty hi hr hc]
      | look l next =>
        rw [attempt_of_look hs hi, attempt_of_look hempty hi, hnext next (by simp [MayFollow, hi])]
      | opening group next =>
        rw [attempt_of_opening hs hi, attempt_of_opening hempty hi,
          hnext next (by simp [MayFollow, hi])]
      | closing group next =>
        rw [attempt_of_closing hs hi, attempt_of_closing hempty hi,
          hnext next (by simp [MayFollow, hi])]
      | split first second =>
        rw [attempt_of_split hs hi, attempt_of_split hempty hi,
          hnext first (by simp [MayFollow, hi]), hnext second (by simp [MayFollow, hi])]

/-- A follower is read as it is read without what led to it. -/
theorem Grounded.attempt_follower (h : Grounded code next) (hnext : MayFollow code next pc)
    (p : Cursor) (captures : Captures) :
    attempt code [pc] p next captures = onwardsFrom code next p captures :=
  h.attempt_eq (fun i hi => by rw [List.mem_singleton.1 hi]; exact .single hnext) p captures

theorem onwardsFrom_accept (hi : code[pc]? = some .accept) :
    onwardsFrom code pc = fun p captures => some (p.offset, captures) := by
  funext p captures
  exact attempt_of_accept List.not_mem_nil hi

theorem onwardsFrom_chars {set : CharSet} (hi : code[pc]? = some (.chars set next)) :
    onwardsFrom code pc = Expr.readChar set (onwardsFrom code next) := by
  funext p captures
  rw [onwardsFrom, Expr.readChar]
  split
  next hr => exact attempt_of_not_chars hi (by simp [hr])
  next c cs hr =>
    split
    next hc => exact attempt_of_chars List.not_mem_nil hi hr hc
    next hc => exact attempt_of_not_chars hi (by simpa [hr] using hc)

theorem onwardsFrom_look {l : Look} (hi : code[pc]? = some (.look l next))
    (h : Grounded code next) : onwardsFrom code pc =
      fun p captures => if l.holds p then onwardsFrom code next p captures else none := by
  funext p captures
  rw [onwardsFrom, attempt_of_look List.not_mem_nil hi,
    h.attempt_follower (by simp [MayFollow, hi])]

theorem onwardsFrom_opening {group : Nat} (hi : code[pc]? = some (.opening group next))
    (h : Grounded code next) : onwardsFrom code pc =
      fun p captures => onwardsFrom code next p (captures.opening group p.offset) := by
  funext p captures
  rw [onwardsFrom, attempt_of_opening List.not_mem_nil hi,
    h.attempt_follower (by simp [MayFollow, hi])]

theorem onwardsFrom_closing {group : Nat} (hi : code[pc]? = some (.closing group next))
    (h : Grounded code next) : onwardsFrom code pc =
      fun p captures => onwardsFrom code next p (captures.closing group p.offset) := by
  funext p captures
  rw [onwardsFrom, attempt_of_closing List.not_mem_nil hi,
    h.attempt_follower (by simp [MayFollow, hi])]

theorem onwardsFrom_split {first second : Nat} (hi : code[pc]? = some (.split first second))
    (h₁ : Grounded code first) (h₂ : Grounded code second) : onwardsFrom code pc = fun p captures =>
      (onwardsFrom code first p captures).or (onwardsFrom code second p captures) := by
  funext p captures
  rw [onwardsFrom, attempt_of_split List.not_mem_nil hi,
    h₁.attempt_follower (by simp [MayFollow, hi]), h₂.attempt_follower (by simp [MayFollow, hi])]

theorem onwardsFrom_branch {greedy : Bool} {first leave : Nat}
    (hi : code[pc]? = some (Fragment.branch greedy first leave)) (h₁ : Grounded code first)
    (h₂ : Grounded code leave) : onwardsFrom code pc = fun p captures =>
      Expr.prefer greedy (onwardsFrom code first p captures)
        (onwardsFrom code leave p captures) := by
  cases greedy
  · exact onwardsFrom_split hi h₂ h₁
  · exact onwardsFrom_split hi h₁ h₂

theorem grounded_branch {greedy : Bool} {first leave : Nat}
    (hi : code[pc]? = some (Fragment.branch greedy first leave)) (h₁ : Grounded code first)
    (h₂ : Grounded code leave) : Grounded code pc := by
  refine .intro pc fun b hb => ?_
  rw [MayFollow, hi] at hb
  cases greedy <;> rcases hb with rfl | rfl <;> assumption

end Instructions

/-! ## Code that reads by an expression -/

/-- Whether pieces of code in front of grounded code are grounded and read by `f`. -/
def Reads (code : Array Inst) (piece : Nat → Nat → Prop)
    (f : Onwards (Nat × Captures) → Onwards (Nat × Captures)) : Prop :=
  ∀ ⦃entry next⦄, piece entry next → Grounded code next →
    Grounded code entry ∧ onwardsFrom code entry = f (onwardsFrom code next)

section Reads

variable {code : Array Inst}

theorem Reads.chain {piece : Nat → Nat → Prop}
    {f : Onwards (Nat × Captures) → Onwards (Nat × Captures)} (h : Reads code piece f) (n : Nat) :
    Reads code (Chain piece n) f^[n] := by
  induction n with
  | zero =>
    rintro entry _ rfl hnext
    exact ⟨hnext, rfl⟩
  | succ n ih =>
    rintro entry next ⟨mid, hchain, hpiece⟩ hnext
    obtain ⟨hmid, heq⟩ := h hpiece hnext
    obtain ⟨hentry, heq'⟩ := ih hchain hmid
    exact ⟨hentry, by rw [heq', heq, Function.iterate_succ_apply]⟩

theorem Reads.optional {piece : Nat → Nat → Prop}
    {f : Onwards (Nat × Captures) → Onwards (Nat × Captures)} (h : Reads code piece f)
    (greedy : Bool) {leave : Nat} (hleave : Grounded code leave) :
    Reads code (Optional code greedy piece leave)
      (Expr.atMostOnce greedy f (onwardsFrom code leave)) := by
  rintro entry next ⟨first, hi, hpiece⟩ hnext
  obtain ⟨hfirst, heq⟩ := h hpiece hnext
  refine ⟨grounded_branch hi hfirst hleave, ?_⟩
  rw [onwardsFrom_branch hi hfirst hleave, heq]
  rfl

end Reads

/-- The code of an expression reads by it, and is grounded whatever follows if it reads something
before it gets there. -/
structure Faithful (code : Array Inst) (e : Expr) : Prop where
  reads : Reads code (LaidOut code e) e.run
  grounded : ∀ ⦃entry next⦄, LaidOut code e entry next → 0 < e.leastLength → Grounded code entry

namespace Faithful

variable {code : Array Inst} {a b body : Expr}

theorem empty : Faithful code .empty where
  reads := by
    rintro entry _ rfl hnext
    exact ⟨hnext, rfl⟩
  grounded _ _ _ hpos := absurd hpos (Nat.lt_irrefl 0)

theorem chars (set : CharSet) (asBytes : Bool) : Faithful code (.chars set asBytes) := by
  have hgrounded : ∀ ⦃entry next⦄, LaidOut code (.chars set asBytes) entry next →
      Grounded code entry := by
    intro entry next (hi : code[entry]? = _)
    exact .intro entry fun b hb => by simp [MayFollow, hi] at hb
  exact ⟨fun entry next hi _ => ⟨hgrounded hi, onwardsFrom_chars hi⟩, fun _ _ hi _ => hgrounded hi⟩

theorem look (l : Look) : Faithful code (.look l) where
  reads := by
    intro entry next (hi : code[entry]? = _) hnext
    refine ⟨.intro entry fun b hb => ?_, onwardsFrom_look hi hnext⟩
    rw [MayFollow, hi] at hb
    rwa [show b = next from hb]
  grounded _ _ _ hpos := absurd hpos (Nat.lt_irrefl 0)

theorem capture (h : Faithful code body) (index : Nat) (name : Option String) :
    Faithful code (.capture index name body) := by
  have hclose : ∀ ⦃last next⦄, code[last]? = some (.closing index next) → Grounded code next →
      Grounded code last := by
    intro last next hi hnext
    refine .intro last fun b hb => ?_
    rw [MayFollow, hi] at hb
    rwa [show b = next from hb]
  have hopen : ∀ ⦃entry first⦄, code[entry]? = some (.opening index first) → Grounded code first →
      Grounded code entry := by
    intro entry first hi hfirst
    refine .intro entry fun b hb => ?_
    rw [MayFollow, hi] at hb
    rwa [show b = first from hb]
  refine ⟨?_, ?_⟩
  · rintro entry next ⟨first, last, hi, hbody, hi'⟩ hnext
    obtain ⟨hfirst, heq⟩ := h.reads hbody (hclose hi' hnext)
    refine ⟨hopen hi hfirst, ?_⟩
    rw [onwardsFrom_opening hi hfirst, heq, onwardsFrom_closing hi' hnext]
    rfl
  · rintro entry next ⟨first, last, hi, hbody, hi'⟩ hpos
    exact hopen hi (h.grounded hbody hpos)

theorem seq (ha : Faithful code a) (hb : Faithful code b) : Faithful code (.seq a b) where
  reads := by
    rintro entry next ⟨mid, hla, hlb⟩ hnext
    obtain ⟨hmid, heqb⟩ := hb.reads hlb hnext
    obtain ⟨hentry, heqa⟩ := ha.reads hla hmid
    exact ⟨hentry, by rw [heqa, heqb, Expr.run]⟩
  grounded := by
    rintro entry next ⟨mid, hla, hlb⟩ hpos
    have hle := Expr.leastLength_seq_le a b
    by_cases hposa : 0 < a.leastLength
    · exact ha.grounded hla hposa
    · exact (ha.reads hla (hb.grounded hlb (by omega))).1

theorem alt (ha : Faithful code a) (hb : Faithful code b) : Faithful code (.alt a b) := by
  have hsplit : ∀ ⦃entry first second⦄, code[entry]? = some (.split first second) →
      Grounded code first → Grounded code second → Grounded code entry := by
    intro entry first second hi h₁ h₂
    have hbranch : code[entry]? = some (Fragment.branch true first second) := hi
    exact grounded_branch hbranch h₁ h₂
  refine ⟨?_, ?_⟩
  · rintro entry next ⟨first, second, hi, hla, hlb⟩ hnext
    obtain ⟨hfirst, heqa⟩ := ha.reads hla hnext
    obtain ⟨hsecond, heqb⟩ := hb.reads hlb hnext
    refine ⟨hsplit hi hfirst hsecond, ?_⟩
    rw [onwardsFrom_split hi hfirst hsecond, heqa, heqb]
    rfl
  · rintro entry next ⟨first, second, hi, hla, hlb⟩ hpos
    obtain ⟨hlea, hleb⟩ := Expr.leastLength_alt_le a b
    exact hsplit hi (ha.grounded hla (by omega)) (hb.grounded hlb (by omega))

/-- Some copies of a body and what reads by `f` behind them. -/
theorem copies (h : Faithful code body) (min : Nat) {tail : Nat → Nat → Prop}
    {f : Onwards (Nat × Captures) → Onwards (Nat × Captures)} (htail : Reads code tail f)
    {entry mid next : Nat} (hchain : Chain (LaidOut code body) min entry mid)
    (hmid : tail mid next) (hnext : Grounded code next) :
    Grounded code entry ∧ onwardsFrom code entry = body.run^[min] (f (onwardsFrom code next)) := by
  obtain ⟨hgrounded, heq⟩ := htail hmid hnext
  obtain ⟨hentry, heq'⟩ := h.reads.chain min hchain hgrounded
  exact ⟨hentry, by rw [heq', heq]⟩

theorem grounded_chain (h : Faithful code body) {min : Nat} {entry next : Nat}
    (hchain : Chain (LaidOut code body) min entry next) (hpos : 0 < min * body.leastLength) :
    Grounded code entry := by
  cases min with
  | zero => simp at hpos
  | succ n =>
    obtain ⟨mid, hchain, hpiece⟩ := hchain
    have hbody : 0 < body.leastLength := Nat.pos_of_mul_pos_left hpos
    exact (h.reads.chain n hchain (h.grounded hpiece hbody)).1

/-- The choice between one more round and what follows reads any number of rounds. -/
theorem reads_loop (h : Faithful code body) (hpos : 0 < body.leastLength) (greedy : Bool) :
    Reads code (fun choice next => Optional code greedy (LaidOut code body) next choice choice)
      (Expr.rounds greedy body.run) := by
  rintro choice next ⟨first, hi, hbody⟩ hnext
  have hfirst := h.grounded hbody hpos
  have hchoice := grounded_branch hi hfirst hnext
  refine ⟨hchoice, ?_⟩
  obtain ⟨-, heq⟩ := h.reads hbody hchoice
  funext p captures
  induction hlen : p.rest.length using Nat.strongRecOn generalizing p captures with
  | _ len ih =>
    rw [Expr.rounds_of_pos hpos, onwardsFrom_branch hi hfirst hnext, heq]
    dsimp only
    congr 1
    refine Expr.readsAtLeast_run body (fun q captures hq => ?_) captures
    exact ih q.rest.length (by omega) q captures rfl

theorem iterate (h : Faithful code body) (min : Nat) (max : Option Nat) (greedy : Bool)
    (hpos : max = none → 0 < body.leastLength) : Faithful code (.iterate min max greedy body) := by
  refine ⟨?_, ?_⟩
  · cases max with
    | none =>
      rintro entry next ⟨choice, hchain, hloop⟩ hnext
      exact h.copies min (h.reads_loop (hpos rfl) greedy) hchain hloop hnext
    | some max =>
      rintro entry next ⟨mid, hchain, hrest⟩ hnext
      exact h.copies min ((h.reads.optional greedy hnext).chain (max - min)) hchain hrest hnext
  · intro entry next hlaid hmin
    rw [Expr.leastLength_iterate] at hmin
    cases max with
    | none =>
      obtain ⟨choice, hchain, -⟩ := hlaid
      exact h.grounded_chain hchain hmin
    | some max =>
      obtain ⟨mid, hchain, -⟩ := hlaid
      exact h.grounded_chain hchain hmin

end Faithful

/-- The code of a steady expression reads by it. -/
theorem faithful (code : Array Inst) (e : Expr) (he : e.isSteady) : Faithful code e := by
  induction e with
  | empty => exact .empty
  | chars set asBytes => exact .chars set asBytes
  | look l => exact .look l
  | iterate min max greedy body ih =>
    cases max with
    | none =>
      rw [Expr.isSteady, Bool.and_eq_true] at he
      exact (ih he.2).iterate min none greedy fun _ => Expr.leastLength_pos he.1
    | some max =>
      exact (ih he).iterate min (some max) greedy fun h => absurd h (Option.some_ne_none max)
  | capture index name body ih => exact (ih he).capture index name
  | seq a b iha ihb =>
    rw [Expr.isSteady, Bool.and_eq_true] at he
    exact (iha he.1).seq (ihb he.2)
  | alt a b iha ihb =>
    rw [Expr.isSteady, Bool.and_eq_true] at he
    exact (iha he.1).alt (ihb he.2)

/-! ## Matches -/

/-- The match of a compiled expression that begins right at a place is what the expression reads
there. -/
theorem Program.matchAt_ofExpr {e : Expr} (he : e.isSteady) (p : Cursor) :
    (Program.ofExpr e).matchAt p =
      (e.run (fun q captures => some (q.offset, captures)) p {}).map fun (stop, captures) =>
        (⟨p.offset, stop⟩, captures) := by
  have hlays := lays_layOut e he
  have haccept : (Program.ofExpr e).code[0]? = some .accept :=
    (hlays.grows 0 #[.accept]).2 0 (by simp)
  have hlaid : LaidOut (Program.ofExpr e).code e (Program.ofExpr e).entry 0 :=
    hlays.laid 0 #[.accept] _ fun _ _ _ => rfl
  have hend : Grounded (Program.ofExpr e).code 0 :=
    .intro 0 fun b hb => by simp [MayFollow, haccept] at hb
  obtain ⟨-, heq⟩ := (faithful _ e he).reads hlaid hend
  rw [onwardsFrom_accept haccept] at heq
  rw [Program.matchAt, ← heq]
  rfl

/-- The match of an expression that begins right at a place. -/
def Expr.matchAt (e : Expr) (p : Cursor) : Option Match :=
  (e.run (fun q captures => some (q.offset, captures)) p {}).map fun (stop, captures) =>
    ⟨⟨p.offset, stop⟩, (List.range (e.groupNames.length - 1)).map fun i => captures.span? (i + 1)⟩

theorem matchAt_ofExpr (source : String) {e : Expr} (he : e.isSteady) (p : Cursor) :
    Regex.matchAt ⟨source, .ofExpr e, e.groupNames⟩ p = e.matchAt p := by
  rw [Regex.matchAt, Program.matchAt_ofExpr he, Option.map_map]
  rfl

theorem Expr.matchAt_of_run {e : Expr} {p : Cursor} {stop : Nat} {captures : Captures}
    (h : e.run (fun q captures => some (q.offset, captures)) p {} = some (stop, captures)) :
    e.matchAt p = some ⟨⟨p.offset, stop⟩,
      (List.range (e.groupNames.length - 1)).map fun i => captures.span? (i + 1)⟩ := by
  rw [matchAt, h]
  rfl

theorem Expr.exists_run_of_matchAt {e : Expr} {p : Cursor} {m : Match} (h : e.matchAt p = some m) :
    ∃ x, e.run (fun q captures => some (q.offset, captures)) p {} = some x := by
  obtain ⟨x, hx, -⟩ := Option.map_eq_some_iff.1 h
  exact ⟨x, hx⟩

/-- A match is a text of members of the sets of the expression. -/
theorem Expr.exists_of_matchAt {e : Expr} {p : Cursor} {m : Match} (h : e.matchAt p = some m) :
    ∃ text rest, p.rest = text ++ rest ∧ (∀ c ∈ text, e.mayRead c) ∧
      m.span = ⟨p.offset, p.offset + Text.byteLength text⟩ := by
  obtain ⟨⟨stop, captures⟩, hrun, rfl⟩ := Option.map_eq_some_iff.1 h
  obtain ⟨text, rest, captures', hr, htext, hstop⟩ := e.readsOnly_run hrun
  rw [Option.some.injEq, Prod.mk.injEq] at hstop
  exact ⟨text, rest, hr, htext, by rw [← hstop.1]; rfl⟩

end Munch.Regex
