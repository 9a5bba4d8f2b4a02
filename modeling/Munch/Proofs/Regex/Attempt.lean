import Mathlib.Data.Finset.Card
import Mathlib.Data.Finset.Range
import Munch.Proofs.Text.Places
import Munch.Regex.Search

/-!
# Searching without memory

`Program.find` remembers which instructions it has followed in vain at which places, within one
start and from start to start. `attempt` follows a program from one start and remembers nothing but
the instructions that led to the current one since the last character was read (the `stack`), which
it does not enter again.

* `follow_settled`, `explore_settled`: what is remembered changes no outcome. An instruction that
  was followed in vain is `Vain`: each way on from it leads to another such instruction, to one on
  the stack, or past a character to where nothing can be completed. Hence no way from it completes,
  whatever the stack is by then (`attempt_eq_none`).
* `Program.find_eq`: the search gives what `attempt` gives at the first place where it succeeds.
-/

namespace Munch.Regex

/-! ## Following a program without memory -/

/-- The number of instructions, of `size` many, that have not been seen. -/
def unseen (size : Nat) (seen : Nat → Bool) : Nat :=
  ((Finset.range size).filter fun pc => !seen pc).card

theorem unseen_lt {size pc : Nat} {seen seen' : Nat → Bool} (hle : ∀ i, seen i → seen' i)
    (hpc : pc < size) (h : seen pc = false) (h' : seen' pc = true) :
    unseen size seen' < unseen size seen := by
  apply Finset.card_lt_card
  rw [Finset.ssubset_iff_of_subset]
  · exact ⟨pc, by simp [hpc, h], by simp [h']⟩
  · intro i hi
    simp only [Finset.mem_filter, Finset.mem_range, Bool.not_eq_true'] at hi ⊢
    refine ⟨hi.1, ?_⟩
    by_contra hs
    rw [hle i (by simpa using hs)] at hi
    simp at hi

theorem lt_size_of_getElem? {code : Array Inst} {pc : Nat} {i : Inst} (h : code[pc]? = some i) :
    pc < code.size := (Array.getElem?_eq_some_iff.1 h).1

theorem unseen_cons_lt {code : Array Inst} {pc : Nat} {i : Inst} {stack : List Nat}
    (hs : pc ∉ stack) (hi : code[pc]? = some i) :
    unseen code.size (pc :: stack).contains < unseen code.size stack.contains := by
  apply unseen_lt _ (lt_size_of_getElem? hi)
  · simpa using hs
  · simp
  · intro j hj
    simp_all

/-- The end and the groups of the preferred way through the program from instruction `pc` on, among
those that do not come to an instruction a second time without reading a character in between; the
instructions of `stack` have been come to. -/
def attempt (code : Array Inst) (stack : List Nat) (p : Cursor) (pc : Nat) (captures : Captures) :
    Option (Nat × Captures) :=
  if _hs : pc ∈ stack then none
  else
    match _hi : code[pc]? with
    | none => none
    | some .accept => some (p.offset, captures)
    | some (.chars set next) =>
      match _hr : p.rest with
      | [] => none
      | c :: cs =>
        if set.contains c then attempt code [] ⟨some c, cs, p.offset + c.utf8Size⟩ next captures
        else none
    | some (.look l next) =>
      if l.holds p then attempt code (pc :: stack) p next captures else none
    | some (.opening group next) =>
      attempt code (pc :: stack) p next (captures.opening group p.offset)
    | some (.closing group next) =>
      attempt code (pc :: stack) p next (captures.closing group p.offset)
    | some (.split first second) =>
      (attempt code (pc :: stack) p first captures).or
        (attempt code (pc :: stack) p second captures)
termination_by (p.rest.length, unseen code.size stack.contains)
decreasing_by
  · rw [_hr]
    exact Prod.Lex.left _ _ (Nat.lt_succ_self _)
  all_goals exact Prod.Lex.right _ (unseen_cons_lt _hs _hi)

section Equations

variable {code : Array Inst} {stack : List Nat} {p : Cursor} {pc : Nat} {captures : Captures}

theorem attempt_of_none (hi : code[pc]? = none) : attempt code stack p pc captures = none := by
  rw [attempt]
  split
  · rfl
  · split <;> simp_all

theorem attempt_of_accept (hs : pc ∉ stack) (hi : code[pc]? = some .accept) :
    attempt code stack p pc captures = some (p.offset, captures) := by
  rw [attempt, dif_neg hs]
  split <;> simp_all

theorem attempt_of_chars {set : CharSet} {next : Nat} (hs : pc ∉ stack)
    (hi : code[pc]? = some (.chars set next)) {c : Char} {cs : List Char} (hr : p.rest = c :: cs)
    (hc : set.contains c) : attempt code stack p pc captures =
      attempt code [] ⟨some c, cs, p.offset + c.utf8Size⟩ next captures := by
  rw [attempt, dif_neg hs]
  split <;> simp_all
  split <;> simp_all

theorem attempt_of_not_chars {set : CharSet} {next : Nat} (hi : code[pc]? = some (.chars set next))
    (h : p.rest.head?.any set.contains = false) : attempt code stack p pc captures = none := by
  rw [attempt]
  split
  · rfl
  · split <;> simp_all
    split <;> simp_all

theorem attempt_of_look {l : Look} {next : Nat} (hs : pc ∉ stack)
    (hi : code[pc]? = some (.look l next)) : attempt code stack p pc captures =
      if l.holds p then attempt code (pc :: stack) p next captures else none := by
  rw [attempt, dif_neg hs]
  split <;> simp_all

theorem attempt_of_opening {group next : Nat} (hs : pc ∉ stack)
    (hi : code[pc]? = some (.opening group next)) : attempt code stack p pc captures =
      attempt code (pc :: stack) p next (captures.opening group p.offset) := by
  rw [attempt, dif_neg hs]
  split <;> simp_all

theorem attempt_of_closing {group next : Nat} (hs : pc ∉ stack)
    (hi : code[pc]? = some (.closing group next)) : attempt code stack p pc captures =
      attempt code (pc :: stack) p next (captures.closing group p.offset) := by
  rw [attempt, dif_neg hs]
  split <;> simp_all

theorem attempt_of_split {first second : Nat} (hs : pc ∉ stack)
    (hi : code[pc]? = some (.split first second)) : attempt code stack p pc captures =
      (attempt code (pc :: stack) p first captures).or
        (attempt code (pc :: stack) p second captures) := by
  rw [attempt, dif_neg hs]
  split <;> simp_all

end Equations

/-- A way that is completed ends at the place where it began or at a later one. -/
theorem attempt_precedes {code : Array Inst} {stack : List Nat} {p : Cursor} {pc : Nat}
    {captures captures' : Captures} {stop : Nat}
    (h : attempt code stack p pc captures = some (stop, captures')) :
    ∃ q, p.Precedes q ∧ q.offset = stop := by
  fun_induction attempt code stack p pc captures with
  | case3 stack p pc captures hs hi =>
    simp only [Option.some.injEq, Prod.mk.injEq] at h
    exact ⟨p, .refl p, h.1⟩
  | case5 stack p pc captures hs set next hi c cs hr hc ih =>
    obtain ⟨q, hq, hstop⟩ := ih h
    exact ⟨q, (Cursor.Precedes.of_cons hr).trans hq, hstop⟩
  | case7 stack p pc captures hs l next hi hl ih => exact ih h
  | case9 stack p pc captures hs group next hi ih => exact ih h
  | case10 stack p pc captures hs group next hi ih => exact ih h
  | case11 stack p pc captures hs first second hi ih₁ ih₂ =>
    rcases Option.or_eq_some_iff.1 h with h | ⟨-, h⟩
    · exact ih₁ h
    · exact ih₂ h
  | _ => cases h

/-! ## What is followed in vain -/

/-- Whether each way on from an instruction leads to one that was seen at the same place, or past a
character to where nothing can be completed. -/
def Vain (code : Array Inst) (p : Cursor) (seen pc : Nat) : Prop :=
  match code[pc]? with
  | none => True
  | some .accept => False
  | some (.chars set next) => ∀ c cs, p.rest = c :: cs → set.contains c → ∀ captures,
      attempt code [] ⟨some c, cs, p.offset + c.utf8Size⟩ next captures = none
  | some (.look l next) => l.holds p → seen.testBit next
  | some (.opening _ next) => seen.testBit next
  | some (.closing _ next) => seen.testBit next
  | some (.split first second) => seen.testBit first ∧ seen.testBit second

/-- Whether the instructions seen at a place, but for those of a stack, were followed in vain. -/
def Closed (code : Array Inst) (p : Cursor) (stack : List Nat) (seen : Nat) : Prop :=
  ∀ pc, seen.testBit pc → pc ∉ stack → Vain code p seen pc

section Vain

variable {code : Array Inst} {p : Cursor} {stack : List Nat} {seen seen' : Nat}

theorem Vain.mono {pc : Nat} (h : Vain code p seen pc)
    (hle : ∀ i, seen.testBit i → seen'.testBit i) : Vain code p seen' pc := by
  unfold Vain at h ⊢
  split
  · trivial
  all_goals rename_i hi; simp only [hi] at h
  · exact h
  · exact fun hl => hle _ (h hl)
  · exact hle _ h
  · exact hle _ h
  · exact ⟨hle _ h.1, hle _ h.2⟩

/-- From an instruction that was seen no way completes: it stays among those that were seen, and
does not leave the stack. -/
theorem attempt_eq_none (hclosed : Closed code p stack seen) {stack' : List Nat}
    (hstack : stack ⊆ stack') {pc : Nat} (hpc : seen.testBit pc) (captures : Captures) :
    attempt code stack' p pc captures = none := by
  fun_induction attempt code stack' p pc captures with
  | case1 => rfl
  | case2 => rfl
  | case3 stack' p pc captures hs hi =>
    have hv := hclosed pc hpc fun h => hs (hstack h)
    simp [Vain, hi] at hv
  | case4 => rfl
  | case5 stack' p pc captures hs set next hi c cs hr hc ih =>
    have hv := hclosed pc hpc fun h => hs (hstack h)
    simp only [Vain, hi] at hv
    exact hv c cs hr hc captures
  | case6 => rfl
  | case7 stack' p pc captures hs l next hi hl ih =>
    have hv := hclosed pc hpc fun h => hs (hstack h)
    simp only [Vain, hi] at hv
    exact ih hclosed (List.subset_cons_of_subset pc hstack) (hv hl)
  | case8 => rfl
  | case9 stack' p pc captures hs group next hi ih =>
    have hv := hclosed pc hpc fun h => hs (hstack h)
    simp only [Vain, hi] at hv
    exact ih hclosed (List.subset_cons_of_subset pc hstack) hv
  | case10 stack' p pc captures hs group next hi ih =>
    have hv := hclosed pc hpc fun h => hs (hstack h)
    simp only [Vain, hi] at hv
    exact ih hclosed (List.subset_cons_of_subset pc hstack) hv
  | case11 stack' p pc captures hs first second hi ih₁ ih₂ =>
    have hv := hclosed pc hpc fun h => hs (hstack h)
    simp only [Vain, hi] at hv
    rw [ih₁ hclosed (List.subset_cons_of_subset pc hstack) hv.1,
      ih₂ hclosed (List.subset_cons_of_subset pc hstack) hv.2]
    rfl

end Vain

/-- Whether the numbers for the places from one on name instructions that were followed in vain. -/
def Barren (code : Array Inst) : Cursor → List Nat → Prop
  | _, [] => True
  | p, seen :: later => Closed code p [] seen ∧
      ∀ c cs, p.rest = c :: cs → Barren code ⟨some c, cs, p.offset + c.utf8Size⟩ later

/-- The same for the places after one. -/
def BarrenAfter (code : Array Inst) (p : Cursor) (later : List Nat) : Prop :=
  ∀ c cs, p.rest = c :: cs → Barren code ⟨some c, cs, p.offset + c.utf8Size⟩ later

section Barren

variable {code : Array Inst} {p : Cursor} {seen : List Nat}

theorem Barren.closed_headD (h : Barren code p seen) : Closed code p [] (seen.headD 0) := by
  cases seen with
  | nil =>
    intro pc hpc
    simp at hpc
  | cons here later => exact h.1

theorem Barren.tail (h : Barren code p seen) : BarrenAfter code p seen.tail := by
  cases seen with
  | nil => exact fun _ _ _ => trivial
  | cons here later => exact h.2

end Barren

/-! ## The outcome of a search -/

/-- Whether an outcome is that of `attempt`, and what it names as followed in vain was: all that was
`seen` before, the instruction `pc` and perhaps more. -/
def Settled (code : Array Inst) (stack : List Nat) (p : Cursor) (pc : Nat) (captures : Captures)
    (seen : Nat) : Outcome → Prop
  | .found stop captures' => attempt code stack p pc captures = some (stop, captures')
  | .failed here later => attempt code stack p pc captures = none ∧
      (∀ i, seen.testBit i → here.testBit i) ∧ here.testBit pc ∧ Closed code p stack here ∧
      BarrenAfter code p later

@[simp] theorem testBit_bit (pc i : Nat) : (bit pc).testBit i = decide (pc = i) := by
  rw [bit_eq, Nat.one_shiftLeft, Nat.testBit_two_pow]

section Settled

variable {code : Array Inst} {stack : List Nat} {p : Cursor} {pc : Nat} {captures : Captures}
  {seen : Nat}

/-- What is known of an instruction that is being followed, and of those seen before it: it is on
the stack, so that it need not be `Vain` yet. -/
theorem Closed.enter (h : Closed code p stack seen) :
    Closed code p (pc :: stack) (seen ||| bit pc) := by
  intro i hi hs
  rw [List.mem_cons, not_or] at hs
  have hseen : seen.testBit i := by simpa [Ne.symm hs.1] using hi
  exact (h i hseen hs.2).mono fun j hj => by simp [hj]

/-- An instruction leaves the stack once it is known to be `Vain`. -/
theorem Closed.leave (h : Closed code p (pc :: stack) seen) (hv : Vain code p seen pc) :
    Closed code p stack seen := by
  intro i hi hs
  by_cases h' : i = pc
  · exact h' ▸ hv
  · exact h i hi (by simp [h', hs])

/-- An instruction from which there is no way on. -/
theorem Settled.of_vain {later : List Nat} (hclosed : Closed code p stack seen)
    (hv : Vain code p (seen ||| bit pc) pc) (hlater : BarrenAfter code p later)
    (h : attempt code stack p pc captures = none) :
    Settled code stack p pc captures seen (.failed (seen ||| bit pc) later) :=
  ⟨h, fun i hi => by simp [hi], by simp, hclosed.enter.leave hv, hlater⟩

/-- An instruction with one way on at the same place. -/
theorem Settled.of_next {next : Nat} {captures' : Captures} {o : Outcome}
    (heq : attempt code stack p pc captures = attempt code (pc :: stack) p next captures')
    (hv : ∀ here : Nat, here.testBit next → Vain code p here pc)
    (h : Settled code (pc :: stack) p next captures' (seen ||| bit pc) o) :
    Settled code stack p pc captures seen o := by
  cases o with
  | found stop captures => exact heq.trans h
  | failed here later =>
    obtain ⟨hnone, hle, hnext, hclosed, hlater⟩ := h
    exact ⟨heq.trans hnone, fun i hi => hle i (by simp [hi]), hle pc (by simp),
      hclosed.leave (hv here hnext), hlater⟩

/-- What has been followed in vain changes no outcome at one place, if it changes none at the next
one. There is fuel for every instruction that has not been seen. -/
theorem follow_settled {onwards : Nat → Captures → List Nat → Outcome}
    (honwards : ∀ c cs, p.rest = c :: cs → ∀ next captures later,
      Barren code ⟨some c, cs, p.offset + c.utf8Size⟩ later →
      ∃ seen, Settled code [] ⟨some c, cs, p.offset + c.utf8Size⟩ next captures seen
        (onwards next captures later))
    {fuel : Nat} {later : List Nat} (hfuel : unseen code.size seen.testBit < fuel)
    (hstack : ∀ i ∈ stack, seen.testBit i) (hclosed : Closed code p stack seen)
    (hlater : BarrenAfter code p later) :
    Settled code stack p pc captures seen (follow code p onwards fuel pc captures seen later) := by
  induction fuel generalizing pc captures seen later stack with
  | zero => omega
  | succ fuel ih =>
    rw [follow, hasBit_eq]
    by_cases hseen : seen.testBit pc
    · rw [if_pos hseen]
      exact ⟨attempt_eq_none hclosed (List.Subset.refl _) hseen _, fun _ h => h, hseen, hclosed,
        hlater⟩
    have hs : pc ∉ stack := fun h => hseen (hstack pc h)
    have hstack' : ∀ i ∈ pc :: stack, (seen ||| bit pc).testBit i := by
      intro i hi
      rcases List.mem_cons.1 hi with rfl | hi
      · simp
      · simp [hstack i hi]
    have hfuel' : ∀ {i} {here : Nat}, code[pc]? = some i →
        (∀ j, (seen ||| bit pc).testBit j → here.testBit j) →
        unseen code.size here.testBit < fuel := by
      intro i here hi hle
      have hlt : unseen code.size here.testBit < unseen code.size seen.testBit :=
        unseen_lt (fun j hj => hle j (by simp [hj])) (lt_size_of_getElem? hi) (by simpa using hseen)
          (hle pc (by simp))
      omega
    rw [if_neg hseen]
    dsimp only
    split
    next hi => exact .of_vain hclosed (by simp [Vain, hi]) hlater (attempt_of_none hi)
    next hi => exact attempt_of_accept hs hi
    next set next hi =>
      split
      next h =>
        obtain ⟨c, cs, hr⟩ : ∃ c cs, p.rest = c :: cs := by
          cases hr : p.rest with
          | nil => simp [hr] at h
          | cons c cs => exact ⟨c, cs, rfl⟩
        have hc : set.contains c := by simpa [hr] using h
        have heq : attempt code stack p pc captures = _ := attempt_of_chars hs hi hr hc
        obtain ⟨seen', ho⟩ := honwards c cs hr next captures later (hlater c cs hr)
        cases honw : onwards next captures later with
        | found stop captures =>
          rw [honw] at ho
          exact heq.trans ho
        | failed there later =>
          rw [honw] at ho
          obtain ⟨hnone, -, hnext, hclosed', hlater'⟩ := ho
          refine .of_vain hclosed ?_ ?_ (heq.trans hnone)
          · simp only [Vain, hi]
            intro c' cs' hr' _ captures'
            obtain ⟨rfl, rfl⟩ := List.cons.inj (hr.symm.trans hr')
            exact attempt_eq_none hclosed' (List.Subset.refl _) hnext captures'
          · intro c' cs' hr'
            obtain ⟨rfl, rfl⟩ := List.cons.inj (hr.symm.trans hr')
            exact ⟨hclosed', hlater'⟩
      next h =>
        have h : p.rest.head?.any set.contains = false := by simpa using h
        refine .of_vain hclosed ?_ hlater (attempt_of_not_chars hi h)
        simp only [Vain, hi]
        intro c cs hr hc
        simp [hr, hc] at h
    next l next hi =>
      split
      next hl =>
        refine .of_next ((attempt_of_look hs hi).trans (if_pos hl))
          (fun here h => by simp [Vain, hi, h]) ?_
        exact ih (hfuel' hi fun _ h => h) hstack' hclosed.enter hlater
      next hl =>
        exact .of_vain hclosed (by simp [Vain, hi, hl]) hlater
          ((attempt_of_look hs hi).trans (if_neg hl))
    next group next hi =>
      refine .of_next (attempt_of_opening hs hi) (fun here h => by simpa [Vain, hi] using h) ?_
      exact ih (hfuel' hi fun _ h => h) hstack' hclosed.enter hlater
    next group next hi =>
      refine .of_next (attempt_of_closing hs hi) (fun here h => by simpa [Vain, hi] using h) ?_
      exact ih (hfuel' hi fun _ h => h) hstack' hclosed.enter hlater
    next first second hi =>
      have heq : attempt code stack p pc captures = _ := attempt_of_split hs hi
      have h₁ : Settled code (pc :: stack) p first captures _ _ :=
        ih (hfuel' hi fun _ h => h) hstack' hclosed.enter hlater
      cases hfirst : follow code p onwards fuel first captures (seen ||| bit pc) later with
      | found stop captures' =>
        rw [hfirst] at h₁
        exact heq.trans (by rw [show attempt _ _ _ first _ = _ from h₁]; rfl)
      | failed here later' =>
        rw [hfirst] at h₁
        obtain ⟨hnone, hle, hin, hclosed₁, hlater₁⟩ := h₁
        have h₂ : Settled code (pc :: stack) p second captures _ _ :=
          ih (hfuel' hi hle) (fun i hi => hle i (hstack' i hi)) hclosed₁ hlater₁
        rw [hnone, Option.none_or] at heq
        dsimp only
        cases hsecond : follow code p onwards fuel second captures here later' with
        | found stop captures' =>
          rw [hsecond] at h₂
          exact heq.trans h₂
        | failed here' later'' =>
          rw [hsecond] at h₂
          obtain ⟨hnone₂, hle₂, hin₂, hclosed₂, hlater₂⟩ := h₂
          refine ⟨heq.trans hnone₂, fun i hi => hle₂ i (hle i (by simp [hi])),
            hle₂ pc (hle pc (by simp)), hclosed₂.leave ?_, hlater₂⟩
          simp only [Vain, hi]
          exact ⟨hle₂ first hin, hin₂⟩

end Settled

theorem unseen_le (size : Nat) (seen : Nat → Bool) : unseen size seen ≤ size := by
  have := Finset.card_filter_le (Finset.range size) fun pc => !seen pc
  rwa [Finset.card_range] at this

/-- What has been followed in vain changes no outcome of a search from one start. -/
theorem explore_settled {code : Array Inst} {p : Cursor} {seen : List Nat}
    (h : Barren code p seen) (pc : Nat) (captures : Captures) :
    Settled code [] p pc captures (seen.headD 0)
      (explore code p.before p.offset p.rest pc captures seen) := by
  obtain ⟨before, rest, offset⟩ := p
  induction rest generalizing before offset seen pc captures with
  | nil =>
    rw [explore]
    exact follow_settled (fun _ _ hr => by cases hr) (Nat.lt_succ_of_le (unseen_le ..)) (by simp)
      h.closed_headD h.tail
  | cons c cs ih =>
    rw [explore]
    refine follow_settled ?_ (Nat.lt_succ_of_le (unseen_le ..)) (by simp) h.closed_headD h.tail
    intro c' cs' hr next captures later hlater
    obtain ⟨rfl, rfl⟩ := List.cons.inj hr
    exact ⟨later.headD 0, ih next captures (some c) (offset + c.utf8Size) hlater⟩

/-! ## Matches -/

/-- The span and the groups of the match that begins right at a place, if there is one. -/
def Program.matchAt (program : Program) (p : Cursor) : Option (Span × Captures) :=
  (attempt program.code [] p program.entry {}).map fun (stop, captures) =>
    (⟨p.offset, stop⟩, captures)

theorem Program.findFrom_eq (program : Program) {p : Cursor} {seen : List Nat}
    (h : Barren program.code p seen) :
    program.findFrom p.before p.offset seen p.rest = p.places.findSome? program.matchAt := by
  obtain ⟨before, rest, offset⟩ := p
  induction rest generalizing before offset seen with
  | nil =>
    have hs := explore_settled h program.entry {}
    rw [Program.findFrom, Cursor.places_nil rfl, List.findSome?_singleton, Program.matchAt]
    cases ho : explore program.code before offset [] program.entry {} seen with
    | found stop captures =>
      rw [ho] at hs
      rw [show attempt _ _ _ _ _ = _ from hs]
      rfl
    | failed here later =>
      rw [ho] at hs
      rw [hs.1]
      rfl
  | cons c cs ih =>
    have hs := explore_settled h program.entry {}
    rw [Program.findFrom, Cursor.places_cons rfl, List.findSome?_cons, Program.matchAt]
    cases ho : explore program.code before offset (c :: cs) program.entry {} seen with
    | found stop captures =>
      rw [ho] at hs
      rw [show attempt _ _ _ _ _ = _ from hs]
      rfl
    | failed here later =>
      rw [ho] at hs
      obtain ⟨hnone, -, -, -, hlater⟩ := hs
      rw [hnone]
      exact ih (some c) (offset + c.utf8Size) (hlater c cs rfl)

/-- The search gives the match at the first place where there is one. -/
theorem Program.find_eq (program : Program) (p : Cursor) :
    program.find p = p.places.findSome? program.matchAt := by
  have hempty : Barren program.code p [] := trivial
  exact program.findFrom_eq hempty

end Munch.Regex
