import Munch.Proofs.Regex.Attempt
import Munch.Proofs.Regex.Layout
import Munch.Proofs.Regex.Walker

/-!
# Programs as walkers

The program of an expression goes through a text as the walker of the expression does, whatever the
expression is. The state of a walker is read off the instructions that stand for its choices: each
has the number of characters that were left when it was come to last.

* `Trail`: what these numbers have to do with the stack of `attempt`.
* `Implements`: a range of the code does what a walker does.
* `Realizes`: a fragment lays out such code; `realizes_layOut` has it for expressions.
* `Program.map_matchAt_ofExpr`: so the walker says where a match ends.
-/

namespace Munch.Regex

/-! ## Instructions that were come to -/

/-- Whether an instruction begins or ends a group, and which one follows it. -/
def Marks (code : Array Inst) (pc next : Nat) : Prop :=
  ∃ group, code[pc]? = some (.opening group next) ∨ code[pc]? = some (.closing group next)

/-- The way to instruction `pc`: `seen` says where each instruction was come to last, and those that
were come to at the place where one is are on the stack. -/
structure Trail (code : Array Inst) (seen : Nat → Option Nat) (stack : List Nat) (p : Cursor)
    (pc : Nat) : Prop where
  here : ∀ i, i ∈ stack ↔ seen i = some p.rest.length
  past : ∀ i n, seen i = some n → p.rest.length ≤ n
  still : ∀ i ∈ stack, ∀ set next, code[i]? ≠ some (.chars set next)
  /-- A group is not begun or ended without going on. -/
  marks : ∀ i ∈ stack, ∀ next, Marks code i next → next = pc ∨ next ∈ stack

/-- The end of the preferred way from an instruction on. -/
def stopFrom (code : Array Inst) (stack : List Nat) (p : Cursor) (pc : Nat) (captures : Captures) :
    Option Nat :=
  (attempt code stack p pc captures).map (·.1)

section Trail

variable {code : Array Inst} {seen : Nat → Option Nat} {stack : List Nat} {p q : Cursor}
  {pc next : Nat} {captures : Captures}

theorem stopFrom_of_mem (h : pc ∈ stack) : stopFrom code stack p pc captures = none := by
  rw [stopFrom, attempt, dif_pos h]
  rfl

/-- An instruction that reads nothing, and the next one. -/
theorem Trail.enter (h : Trail code seen stack p pc)
    (hpc : ∀ set i, code[pc]? ≠ some (.chars set i)) (hnext : ∀ i, Marks code pc i → i = next) :
    Trail code (Function.update seen pc (some p.rest.length)) (pc :: stack) p next := by
  refine ⟨fun i => ?_, fun i n hi => ?_, ?_, ?_⟩
  · by_cases hi : i = pc
    · simp [hi]
    · simp [hi, h.here]
  · by_cases hpc : i = pc
    · rw [hpc, Function.update_self] at hi
      exact Nat.le_of_eq (Option.some.inj hi)
    · rw [Function.update_of_ne hpc] at hi
      exact h.past i n hi
  · rw [List.forall_mem_cons]
    exact ⟨hpc, h.still⟩
  · rw [List.forall_mem_cons]
    refine ⟨fun i hi => .inl (hnext i hi), fun i hi j hj => .inr ?_⟩
    rw [List.mem_cons]
    exact h.marks i hi j hj

/-- A character is read: nothing has been come to behind it. -/
theorem Trail.read (h : Trail code seen stack p pc) (hq : q.rest.length < p.rest.length) :
    Trail code seen [] q next := by
  refine ⟨fun i => ⟨fun hi => absurd hi (by simp), fun hi => ?_⟩, fun i n hi => ?_, by simp,
    by simp⟩
  · have := h.past i _ hi
    omega
  · have := h.past i n hi
    omega

/-- The beginning or the end of a group makes no difference: where it was come to before, so was
what follows it. -/
theorem Trail.pass (h : Trail code seen stack p pc) (hm : Marks code pc next) :
    ∃ seen' stack', (∀ i, i ≠ pc → seen' i = seen i) ∧ Trail code seen' stack' p next ∧
      ∀ captures, ∃ captures',
        stopFrom code stack p pc captures = stopFrom code stack' p next captures' := by
  by_cases hs : pc ∈ stack
  · have hnext : next ∈ stack := (h.marks pc hs next hm).elim (fun h => h ▸ hs) id
    refine ⟨seen, stack, fun _ _ => rfl, ⟨h.here, h.past, h.still, fun i hi j hj => .inr ?_⟩, ?_⟩
    · exact (h.marks i hi j hj).elim (fun h => h ▸ hs) id
    · intro captures
      exact ⟨captures, by rw [stopFrom_of_mem hs, stopFrom_of_mem hnext]⟩
  · obtain ⟨group, hm⟩ := hm
    refine ⟨_, _, fun i hi => Function.update_of_ne hi _ _, h.enter ?_ ?_, fun captures => ?_⟩
    · rintro set i hi
      rcases hm with hm | hm <;> rw [hm] at hi <;> cases hi
    · rintro i ⟨group', hi⟩
      rcases hm with hm | hm <;> rw [hm] at hi <;> rcases hi with hi | hi <;> cases hi <;> rfl
    · rcases hm with hm | hm
      · exact ⟨_, congrArg _ (attempt_of_opening hs hm)⟩
      · exact ⟨_, congrArg _ (attempt_of_closing hs hm)⟩

/-- An instruction that is come to once at a place. -/
theorem Trail.stopFrom_eq {x : Option Nat} (h : Trail code seen stack p pc)
    (hx : pc ∉ stack → stopFrom code stack p pc captures = x) :
    stopFrom code stack p pc captures = if seen pc = some p.rest.length then none else x := by
  split
  next hs => exact stopFrom_of_mem ((h.here pc).2 hs)
  next hs => exact hx (mt (h.here pc).1 hs)

end Trail

/-! ## Code of walkers -/

/-- The instructions from `lo` on and before `hi`, from `entry` up to `next`, do what a walker does,
whose state is read off them. -/
structure Implements (code : Array Inst) (A : Walker) (state : (Nat → Option Nat) → A.State)
    (lo hi entry next : Nat) : Prop where
  fresh : (state fun _ => none) = A.fresh
  frame : ∀ {seen seen' : Nat → Option Nat}, (∀ i, lo ≤ i → i < hi → seen' i = seen i) →
    state seen' = state seen
  walks : ∀ {seen stack p captures k}, Trail code seen stack p entry →
    (∀ q hq seen' stack' captures', (∀ i, i < lo ∨ hi ≤ i → seen' i = seen i) →
      Trail code seen' stack' q next →
        stopFrom code stack' q next captures' = k q hq (state seen')) →
    stopFrom code stack p entry captures = A.walk p (state seen) k

/-- Whether a range of the code does what a walker does. -/
def WalkedBy (code : Array Inst) (A : Walker) (lo hi entry next : Nat) : Prop :=
  ∃ state, Implements code A state lo hi entry next

section WalkedBy

variable {code : Array Inst} {A B : Walker} {lo mid hi entry pc next : Nat}

theorem walkedBy_empty : WalkedBy code .empty lo hi next next :=
  ⟨fun _ => (), rfl, fun _ => rfl, fun {seen stack p captures _} h hk =>
    hk p (Nat.le_refl _) seen stack captures (fun _ _ => rfl) h⟩

theorem WalkedBy.seq (hA : WalkedBy code A mid hi entry pc) (hB : WalkedBy code B lo mid pc next)
    (hlo : lo ≤ mid) (hhi : mid ≤ hi) : WalkedBy code (.seq A B) lo hi entry next := by
  obtain ⟨stateA, hA⟩ := hA
  obtain ⟨stateB, hB⟩ := hB
  refine ⟨fun seen => (stateA seen, stateB seen), ?_, fun h => ?_,
    fun {seen stack p captures k} h hk => ?_⟩
  · rw [hA.fresh, hB.fresh]
    rfl
  · rw [hA.frame fun i hi hi' => h i (by omega) hi', hB.frame fun i hi hi' => h i hi (by omega)]
  · refine hA.walks h fun q hq seen' stack' captures' hseen h => ?_
    rw [← hB.frame fun i hi hi' => hseen i (.inl hi')]
    refine hB.walks h fun r hr seen'' stack'' captures'' hseen' h => ?_
    rw [← hA.frame fun i hi hi' => hseen' i (.inr hi)]
    exact hk r _ seen'' stack'' captures''
      (fun i hi => (hseen' i (by omega)).trans (hseen i (by omega))) h

/-- A choice between two ways. -/
theorem WalkedBy.split {first second : Nat} (hA : WalkedBy code A mid pc first next)
    (hB : WalkedBy code B lo mid second next) (hpc : code[pc]? = some (.split first second))
    (hlo : lo ≤ mid) (hhi : mid ≤ pc) :
    WalkedBy code (.guard (.orElse A B)) lo (pc + 1) pc next := by
  obtain ⟨stateA, hA⟩ := hA
  obtain ⟨stateB, hB⟩ := hB
  refine ⟨fun seen => (seen pc, stateA seen, stateB seen), ?_, fun h => ?_,
    fun {seen stack p captures k} h hk => h.stopFrom_eq fun hs => ?_⟩
  · rw [hA.fresh, hB.fresh]
    rfl
  · rw [h pc (by omega) (by omega), hA.frame fun i hi hi' => h i (by omega) (by omega),
      hB.frame fun i hi hi' => h i hi (by omega)]
  · have enter : ∀ i, Trail code (Function.update seen pc (some p.rest.length)) (pc :: stack) p i :=
      fun i => h.enter (by simp [hpc]) (by simp [Marks, hpc])
    have hout : ∀ i, i ≠ pc → Function.update seen pc (some p.rest.length) i = seen i :=
      fun i hi => Function.update_of_ne hi _ _
    rw [stopFrom, attempt_of_split hs hpc, Option.map_or]
    refine congrArg₂ Option.or ?_ ?_
    · dsimp only
      rw [← hA.frame fun i _ _ => hout i (by omega)]
      refine hA.walks (enter first) fun q hq seen' stack' captures' hseen h => ?_
      rw [hk q hq seen' stack' captures'
        (fun i _ => (hseen i (by omega)).trans (hout i (by omega))) h, hseen pc (by omega),
        Function.update_self, hB.frame fun i _ _ => (hseen i (by omega)).trans (hout i (by omega))]
    · dsimp only
      rw [← hB.frame fun i _ _ => hout i (by omega)]
      refine hB.walks (enter second) fun q hq seen' stack' captures' hseen h => ?_
      rw [hk q hq seen' stack' captures'
        (fun i _ => (hseen i (by omega)).trans (hout i (by omega))) h, hseen pc (by omega),
        Function.update_self, hA.frame fun i _ _ => (hseen i (by omega)).trans (hout i (by omega))]

/-- A choice between one way and none. -/
theorem WalkedBy.branch {greedy : Bool} {body : Nat} (hA : WalkedBy code A lo pc body next)
    (hpc : code[pc]? = some (Fragment.branch greedy body next)) (hlo : lo ≤ pc) :
    WalkedBy code (.opt greedy A) lo (pc + 1) pc next := by
  cases greedy
  · have hnone : WalkedBy code .empty pc pc next next := walkedBy_empty
    exact hnone.split hA hpc hlo (Nat.le_refl _)
  · have hnone : WalkedBy code .empty lo lo next next := walkedBy_empty
    exact hA.split hnone hpc (Nat.le_refl _) hlo

theorem WalkedBy.capture {first : Nat} (hA : WalkedBy code A lo hi first pc)
    (hopen : Marks code entry first) (hclose : Marks code pc next) (hpc : pc < lo)
    (hlo : lo ≤ hi) (hentry : hi ≤ entry) : WalkedBy code A pc (entry + 1) entry next := by
  obtain ⟨state, hA⟩ := hA
  refine ⟨state, hA.fresh, fun h => hA.frame fun i hi hi' => h i (by omega) (by omega),
    fun {seen stack p captures k} h hk => ?_⟩
  obtain ⟨seen₁, stack₁, hseen₁, h, hstop⟩ := h.pass hopen
  obtain ⟨captures₁, hstop⟩ := hstop captures
  rw [hstop, ← hA.frame fun i _ _ => hseen₁ i (by omega)]
  refine hA.walks h fun q hq seen₂ stack₂ captures₂ hseen₂ h => ?_
  obtain ⟨seen₃, stack₃, hseen₃, h, hstop⟩ := h.pass hclose
  obtain ⟨captures₃, hstop⟩ := hstop captures₂
  rw [hstop, ← hA.frame fun i _ _ => hseen₃ i (by omega)]
  refine hk q hq seen₃ stack₃ captures₃ (fun i _ => ?_) h
  rw [hseen₃ i (by omega), hseen₂ i (by omega), hseen₁ i (by omega)]

/-- The rounds behind the choice of a loop, once it has been come to. -/
theorem Implements.rounds {greedy : Bool} {state : (Nat → Option Nat) → A.State}
    (hA : Implements code A state (pc + 1) hi entry pc)
    (hpc : code[pc]? = some (Fragment.branch greedy entry next)) (hhi : pc < hi)
    {seen : Nat → Option Nat} {stack : List Nat} {p : Cursor} {captures : Captures}
    {k : Walker.Next (Option Nat × A.State) p} (h : Trail code seen stack p pc) (hs : pc ∉ stack)
    (hk : ∀ q hq seen' stack' captures', (∀ i, i < pc ∨ hi ≤ i → seen' i = seen i) →
      Trail code seen' stack' q next →
        stopFrom code stack' q next captures' = k q hq (seen' pc, state seen')) :
    stopFrom code stack p pc captures = Walker.rounds greedy A p (state seen) k := by
  induction hlen : p.rest.length using Nat.strongRecOn generalizing seen stack p captures with
  | _ len ih =>
    have enter : ∀ i, Trail code (Function.update seen pc (some p.rest.length)) (pc :: stack) p i :=
      fun i => h.enter (by cases greedy <;> simp [hpc, Fragment.branch])
        (by cases greedy <;> simp [Marks, hpc, Fragment.branch])
    have hout : ∀ i, i ≠ pc → Function.update seen pc (some p.rest.length) i = seen i :=
      fun i hi => Function.update_of_ne hi _ _
    have hstate : state (Function.update seen pc (some p.rest.length)) = state seen :=
      hA.frame fun i _ _ => hout i (by omega)
    have hround : stopFrom code (pc :: stack) p entry captures =
        A.walk p (state seen) fun q hq s =>
          if h : q.rest.length < p.rest.length then
            Walker.rounds greedy A q s fun r hr => k r (Nat.le_trans hr hq)
          else none := by
      rw [← hstate]
      refine hA.walks (enter entry) fun q hq seen' stack' captures' hseen h => ?_
      have hpc' : seen' pc = some p.rest.length := by
        rw [hseen pc (by omega), Function.update_self]
      split
      next hlt =>
        have hs' : pc ∉ stack' := by
          rw [h.here, hpc', Option.some.injEq]
          omega
        refine ih _ (by omega) h hs' (fun r hr seen'' stack'' captures'' hseen' h => ?_) rfl
        refine hk r _ seen'' stack'' captures'' (fun i hi => ?_) h
        rw [hseen' i hi, hseen i (by omega), hout i (by omega)]
      next hlt =>
        exact stopFrom_of_mem ((h.here pc).2 (hpc'.trans (congrArg some (by omega))))
    have hleave : stopFrom code (pc :: stack) p next captures =
        k p (Nat.le_refl _) (some p.rest.length, state seen) := by
      rw [hk p (Nat.le_refl _) _ _ _ (fun i hi => hout i (by omega)) (enter next),
        Function.update_self, hstate]
    rw [Walker.rounds, ← hround, ← hleave, stopFrom]
    cases greedy <;> rw [attempt_of_split hs hpc, Option.map_or] <;> rfl

variable {greedy : Bool}

theorem Implements.loop {state : (Nat → Option Nat) → A.State}
    (hA : Implements code A state (pc + 1) hi entry pc)
    (hpc : code[pc]? = some (Fragment.branch greedy entry next)) (hhi : pc < hi) :
    Implements code (.loop greedy A) (fun seen => (seen pc, state seen)) pc hi pc next where
  fresh := by
    rw [hA.fresh]
    rfl
  frame h := by
    rw [h pc (by omega) hhi, hA.frame fun i hi hi' => h i (by omega) hi']
  walks h hk := h.stopFrom_eq fun hs => hA.rounds hpc hhi h hs hk

theorem WalkedBy.loop (hA : WalkedBy code A (pc + 1) hi entry pc)
    (hpc : code[pc]? = some (Fragment.branch greedy entry next)) (hhi : pc < hi) :
    WalkedBy code (.loop greedy A) pc hi pc next := by
  obtain ⟨state, hA⟩ := hA
  exact ⟨_, hA.loop hpc hhi⟩

theorem WalkedBy.plus (hA : WalkedBy code A (pc + 1) hi entry pc)
    (hpc : code[pc]? = some (Fragment.branch greedy entry next)) (hhi : pc < hi) :
    WalkedBy code (.plus greedy A) pc hi entry next := by
  obtain ⟨state, hA⟩ := hA
  have hloop := hA.loop hpc hhi
  refine ⟨fun seen => (seen pc, state seen), hloop.fresh, hloop.frame,
    fun {seen stack p captures k} h hk => ?_⟩
  refine hA.walks h fun q hq seen' stack' captures' hseen h => ?_
  rw [← hseen pc (by omega)]
  refine hloop.walks h fun r hr seen'' stack'' captures'' hseen' h => ?_
  exact hk r _ seen'' stack'' captures''
    (fun i _ => (hseen' i (by omega)).trans (hseen i (by omega))) h

end WalkedBy

/-! ## Fragments of walkers -/

namespace Fragment

/-- A fragment keeps the code that is there and lays out what does as a walker does. -/
structure Realizes (f : Fragment) (A : Walker) : Prop where
  grows : ∀ next code, Grows code (f next code).2
  walked : ∀ next code final, Keeps code (f next code).2 final →
    WalkedBy final A code.size (f next code).2.size (f next code).1 next

variable {body f : Fragment} {A B : Walker}

/-- How a fragment grows does not depend on what it is for. -/
theorem Realizes.lays (h : body.Realizes A) : body.Lays fun _ _ _ => True :=
  ⟨h.grows, fun _ _ _ _ => trivial⟩

theorem Realizes.seq (hA : body.Realizes A) (hB : f.Realizes B) :
    Realizes (fun next code => body (f next code).1 (f next code).2) (.seq A B) where
  grows next code := (hB.grows next code).trans (hA.grows _ _)
  walked next code final hkeeps :=
    (hA.walked _ _ final (hkeeps.second (hB.grows next code))).seq
      (hB.walked next code final (hkeeps.first (hA.grows _ _))) (hB.grows next code).1
      (hA.grows _ _).1

theorem realizes_empty : Realizes (fun next code => (next, code)) .empty :=
  ⟨fun _ code => .refl code, fun _ _ _ _ => walkedBy_empty⟩

theorem Realizes.copies (h : body.Realizes A) (n : Nat) :
    Realizes (copies body n) (.copies A n) := by
  induction n with
  | zero => exact realizes_empty
  | succ n ih => exact ih.seq h

/-- What can be left for the end is laid out in front of what can be left for it. -/
theorem Realizes.walkedBy_upTo (h : body.Realizes A) {greedy : Bool} {leave lo : Nat} (n : Nat)
    {m next : Nat} {code final : Array Inst}
    (hkeeps : Keeps code (Fragment.upTo greedy body leave n next code).2 final)
    (hlo : lo ≤ code.size) (hrest : WalkedBy final (.upTo greedy A m) lo code.size next leave) :
    WalkedBy final (.upTo greedy A (n + m)) lo (Fragment.upTo greedy body leave n next code).2.size
      (Fragment.upTo greedy body leave n next code).1 leave := by
  induction n generalizing m next code with
  | zero => rwa [Nat.zero_add]
  | succ n ih =>
    have hbody := h.grows next code
    have hpush := Grows.push (body next code).2
      (branch greedy (body next code).1 leave)
    have hgrows := fun next code => (h.lays.upTo greedy leave n).grows next code
    have hpc := ((hkeeps.second hbody).first (hgrows _ _)).push
    have hone := h.walked next code final (hkeeps.first (hpush.trans (hgrows _ _)))
    have hrest' : WalkedBy final (.upTo greedy A (m + 1)) lo
        ((body next code).2.push (branch greedy (body next code).1 leave)).size
        (body next code).2.size leave := by
      rw [Array.size_push]
      exact (hone.seq hrest hlo hbody.1).branch hpc (Nat.le_trans hlo hbody.1)
    rw [show n + 1 + m = n + (m + 1) by omega]
    exact ih (hkeeps.second (hbody.trans hpush))
      (Nat.le_trans hlo (hbody.trans hpush).1) hrest'

theorem Realizes.upTo (h : body.Realizes A) (greedy : Bool) (n : Nat) :
    Realizes (fun next => upTo greedy body next n next) (.upTo greedy A n) where
  grows next code := (h.lays.upTo greedy next n).grows next code
  walked _ _ _ hkeeps := h.walkedBy_upTo n (m := 0) hkeeps (Nat.le_refl _) walkedBy_empty

/-- The body of a loop and the choice in front of its code. -/
theorem Realizes.walked_loop (h : body.Realizes A) {greedy : Bool} {next : Nat}
    {code final : Array Inst}
    (hkeeps : Keeps code (Fragment.loop greedy body next code).2.2 final) :
    final[code.size]? = some (branch greedy (Fragment.loop greedy body next code).1 next) ∧
      WalkedBy final A (code.size + 1) (Fragment.loop greedy body next code).2.2.size
        (Fragment.loop greedy body next code).1 code.size ∧
          code.size < (Fragment.loop greedy body next code).2.2.size := by
  have hgrows := h.grows code.size (code.push .accept)
  obtain ⟨hpc, hbody⟩ := (@keeps_loop body greedy next code hgrows).2 final hkeeps
  have hwalked := h.walked code.size (code.push .accept) final hbody
  have hsize := hgrows.1
  rw [Array.size_push] at hwalked hsize
  refine ⟨hpc, ?_, ?_⟩
  · rwa [Fragment.loop, Array.size_setIfInBounds]
  · rwa [Fragment.loop, Array.size_setIfInBounds]

theorem Realizes.plus (h : body.Realizes A) (greedy : Bool) :
    Realizes (plus greedy body) (.plus greedy A) where
  grows next code := (keeps_loop (h.grows code.size _)).1
  walked next code final hkeeps := by
    obtain ⟨hpc, hbody, hsize⟩ := h.walked_loop hkeeps
    exact hbody.plus hpc hsize

theorem Realizes.loop (h : body.Realizes A) (greedy : Bool) :
    Realizes (star greedy true body) (.loop greedy A) where
  grows next code := (keeps_loop (h.grows code.size _)).1
  walked next code final hkeeps := by
    obtain ⟨hpc, hbody, hsize⟩ := h.walked_loop hkeeps
    exact hbody.loop hpc hsize

theorem Realizes.star (h : body.Realizes A) (greedy : Bool) :
    Realizes (star greedy false body) (.star greedy A) where
  grows next code := ((h.plus greedy).grows next code).trans (.push _ _)
  walked next code final hkeeps := by
    have hplus := (h.plus greedy).grows next code
    have hone := (h.plus greedy).walked next code final (hkeeps.first (.push _ _))
    have hpc := (hkeeps.second hplus).push
    have := hone.branch hpc hplus.1
    rwa [← Array.size_push] at this

end Fragment

end Munch.Regex
