import Munch.Proofs.Regex.Run
import Munch.Regex.Program

/-!
# Where expressions are laid out

`LaidOut code e entry next` says that the code from `entry` on, up to the instruction `next` behind
it, is that of the expression `e`. It says nothing of where the instructions stand, so what holds of
such code does not depend on the order in which it was made.

* `Fragment.Lays`: what a fragment adds to code, and that it keeps what was there.
* `lays_layOut`: the fragment of a steady expression lays out the expression.
-/

namespace Munch.Regex

/-! ## Code of expressions -/

/-- `n` pieces of code, one after the other, lead from `entry` to `next`. -/
def Chain (piece : Nat → Nat → Prop) : Nat → Nat → Nat → Prop
  | 0, entry, next => entry = next
  | n + 1, entry, next => ∃ mid, Chain piece n entry mid ∧ piece mid next

/-- A piece of code that can be left for the place `leave` before it is entered. -/
def Optional (code : Array Inst) (greedy : Bool) (piece : Nat → Nat → Prop)
    (leave entry next : Nat) : Prop :=
  ∃ first, code[entry]? = some (Fragment.branch greedy first leave) ∧ piece first next

/-- The code from `entry` up to `next` is that of an expression. -/
def LaidOut (code : Array Inst) : Expr → Nat → Nat → Prop
  | .empty, entry, next => entry = next
  | .chars set _, entry, next => code[entry]? = some (.chars set next)
  | .look l, entry, next => code[entry]? = some (.look l next)
  | .iterate min none greedy body, entry, next => ∃ choice,
      Chain (LaidOut code body) min entry choice ∧
        Optional code greedy (LaidOut code body) next choice choice
  | .iterate min (some max) greedy body, entry, next => ∃ mid,
      Chain (LaidOut code body) min entry mid ∧
        Chain (Optional code greedy (LaidOut code body) next) (max - min) mid next
  | .capture index _ body, entry, next => ∃ first last,
      code[entry]? = some (.opening index first) ∧ LaidOut code body first last ∧
        code[last]? = some (.closing index next)
  | .seq a b, entry, next => ∃ mid, LaidOut code a entry mid ∧ LaidOut code b mid next
  | .alt a b, entry, next => ∃ first second,
      code[entry]? = some (.split first second) ∧ LaidOut code a first next ∧
        LaidOut code b second next

/-! ## Code that grows -/

/-- `code'` has more instructions behind those of `code`. -/
def Grows (code code' : Array Inst) : Prop :=
  code.size ≤ code'.size ∧ ∀ i < code.size, code'[i]? = code[i]?

/-- `final` has the instructions that `code'` has more than `code`. -/
def Keeps (code code' final : Array Inst) : Prop :=
  ∀ i, code.size ≤ i → i < code'.size → final[i]? = code'[i]?

section Grows

variable {code code₁ code₂ final : Array Inst}

theorem Grows.refl (code : Array Inst) : Grows code code := ⟨Nat.le_refl _, fun _ _ => rfl⟩

theorem Grows.trans (h₁ : Grows code code₁) (h₂ : Grows code₁ code₂) : Grows code code₂ :=
  ⟨Nat.le_trans h₁.1 h₂.1, fun i hi => by
    rw [h₂.2 i (Nat.lt_of_lt_of_le hi h₁.1), h₁.2 i hi]⟩

theorem Grows.push (code : Array Inst) (i : Inst) : Grows code (code.push i) :=
  ⟨by simp, fun j hj => by rw [Array.getElem?_push, if_neg (by omega)]⟩

theorem Keeps.first (h : Keeps code code₂ final) (h₂ : Grows code₁ code₂) :
    Keeps code code₁ final := by
  intro i hle hlt
  rw [h i hle (Nat.lt_of_lt_of_le hlt h₂.1), h₂.2 i hlt]

theorem Keeps.second (h : Keeps code code₂ final) (h₁ : Grows code code₁) :
    Keeps code₁ code₂ final :=
  fun i hle hlt => h i (Nat.le_trans h₁.1 hle) hlt

theorem Keeps.push {i : Inst} (h : Keeps code (code.push i) final) :
    final[code.size]? = some i := by
  rw [h code.size (Nat.le_refl _) (by simp), Array.getElem?_push_size]

end Grows

/-! ## Fragments -/

namespace Fragment

/-- A fragment keeps the code that is there and lays out a piece in front of any instruction. -/
structure Lays (f : Fragment) (piece : Array Inst → Nat → Nat → Prop) : Prop where
  grows : ∀ next code, Grows code (f next code).2
  laid : ∀ next code final, Keeps code (f next code).2 final → piece final (f next code).1 next

variable {body : Fragment} {piece : Array Inst → Nat → Nat → Prop}

theorem lays_inst (f : Nat → Inst) :
    (inst f).Lays fun final entry next => final[entry]? = some (f next) where
  grows _ code := .push code _
  laid _ _ _ h := h.push

theorem Lays.copies (h : body.Lays piece) (n : Nat) :
    Lays (copies body n) fun final => Chain (piece final) n := by
  induction n with
  | zero => exact ⟨fun _ code => .refl code, fun _ _ _ _ => rfl⟩
  | succ n ih =>
    refine ⟨fun next code => (h.grows next code).trans (ih.grows _ _), ?_⟩
    intro next code final hkeeps
    exact ⟨_, ih.laid _ _ final (hkeeps.second (h.grows next code)),
      h.laid next code final (hkeeps.first (ih.grows _ _))⟩

theorem Lays.upTo (h : body.Lays piece) (greedy : Bool) (leave n : Nat) :
    Lays (upTo greedy body leave n) fun final =>
      Chain (Optional final greedy (piece final) leave) n := by
  induction n with
  | zero => exact ⟨fun _ code => .refl code, fun _ _ _ _ => rfl⟩
  | succ n ih =>
    have hgrows : ∀ next code, Grows (body next code).2 (Fragment.upTo greedy body leave (n + 1)
        next code).2 := fun next code => (Grows.push _ _).trans (ih.grows _ _)
    refine ⟨fun next code => (h.grows next code).trans (hgrows next code), ?_⟩
    intro next code final hkeeps
    have hsecond := hkeeps.second (h.grows next code)
    refine ⟨_, ih.laid _ _ final (hsecond.second (Grows.push _ _)), (body next code).1, ?_, ?_⟩
    · exact (hsecond.first (ih.grows _ _)).push
    · exact h.laid next code final (hkeeps.first (hgrows next code))

/-- The choice of a loop stands in front of the code of its body. -/
theorem keeps_loop {greedy : Bool} {next : Nat} {code : Array Inst}
    (hgrows : Grows (code.push .accept) (body code.size (code.push .accept)).2) :
    Grows code (loop greedy body next code).2.2 ∧
      ∀ final, Keeps code (loop greedy body next code).2.2 final →
        final[code.size]? = some (branch greedy (loop greedy body next code).1 next) ∧
          Keeps (code.push .accept) (body code.size (code.push .accept)).2 final := by
  have hsize : code.size < (body code.size (code.push .accept)).2.size := by
    have := hgrows.1
    rw [Array.size_push] at this
    omega
  refine ⟨⟨?_, ?_⟩, ?_⟩
  · rw [Fragment.loop, Array.size_setIfInBounds]
    exact Nat.le_of_lt hsize
  · intro i hi
    rw [Fragment.loop, Array.getElem?_setIfInBounds_ne (by omega), hgrows.2 i (by simp; omega),
      Array.getElem?_push, if_neg (by omega)]
  · intro final hkeeps
    have hset : ∀ i, i < (body code.size (code.push .accept)).2.size → code.size ≤ i →
        final[i]? = ((body code.size (code.push .accept)).2.setIfInBounds code.size
          (branch greedy (body code.size (code.push .accept)).1 next))[i]? := by
      intro i hi hle
      exact hkeeps i hle (by rw [Fragment.loop, Array.size_setIfInBounds]; exact hi)
    refine ⟨?_, fun i hle hlt => ?_⟩
    · rw [hset _ hsize (Nat.le_refl _), Array.getElem?_setIfInBounds_self_of_lt hsize]
      rfl
    · rw [Array.size_push] at hle
      rw [hset i hlt (by omega), Array.getElem?_setIfInBounds_ne (by omega)]

/-- The choice of a loop is what follows the code of its body. -/
theorem Lays.loop (h : body.Lays piece) (greedy : Bool) (next : Nat) (code : Array Inst) :
    Grows code (loop greedy body next code).2.2 ∧
      ∀ final, Keeps code (loop greedy body next code).2.2 final →
        final[code.size]? = some (branch greedy (loop greedy body next code).1 next) ∧
          piece final (loop greedy body next code).1 code.size := by
  obtain ⟨hgrows, hkeeps⟩ := @keeps_loop body greedy next _ (h.grows code.size _)
  refine ⟨hgrows, fun final hfinal => ?_⟩
  obtain ⟨hchoice, hbody⟩ := hkeeps final hfinal
  exact ⟨hchoice, h.laid code.size _ final hbody⟩

theorem Lays.star (h : body.Lays piece) (greedy : Bool) :
    Lays (star greedy true body) fun final entry next =>
      Optional final greedy (piece final) next entry entry where
  grows next code := (h.loop greedy next code).1
  laid next code final hkeeps := ⟨_, (h.loop greedy next code).2 final hkeeps⟩

theorem Lays.plus (h : body.Lays piece) (greedy : Bool) :
    Lays (plus greedy body) fun final entry next => ∃ choice,
      piece final entry choice ∧ Optional final greedy (piece final) next choice choice where
  grows next code := (h.loop greedy next code).1
  laid next code final hkeeps := by
    obtain ⟨hchoice, hbody⟩ := (h.loop greedy next code).2 final hkeeps
    exact ⟨_, hbody, _, hchoice, hbody⟩

end Fragment

open Fragment in
/-- The fragment of a steady expression lays out the expression. -/
theorem lays_layOut (e : Expr) (he : e.isSteady) :
    Lays e.layOut fun final => LaidOut final e := by
  induction e with
  | empty => exact ⟨fun _ code => .refl code, fun _ _ _ _ => rfl⟩
  | chars set _ => exact lays_inst (.chars set)
  | look l => exact lays_inst (.look l)
  | iterate min max greedy body ih =>
    cases max with
    | none =>
      rw [Expr.isSteady, Bool.and_eq_true] at he
      have h := ih he.2
      cases min with
      | zero =>
        have hlayOut : ∀ next code, (Expr.iterate 0 none greedy body).layOut next code =
            Fragment.star greedy true body.layOut next code := by
          intro next code
          rw [Expr.layOut, he.1]
        refine ⟨fun next code => ?_, fun next code final hkeeps => ?_⟩
        · rw [hlayOut]
          exact (h.star greedy).grows next code
        · rw [hlayOut] at hkeeps ⊢
          exact ⟨_, rfl, (h.star greedy).laid next code final hkeeps⟩
      | succ n =>
        have hplus := h.plus greedy
        have hcopies := h.copies n
        refine ⟨fun next code => (hplus.grows next code).trans (hcopies.grows _ _), ?_⟩
        intro next code final hkeeps
        obtain ⟨choice, hfirst, hloop⟩ :=
          hplus.laid next code final (hkeeps.first (hcopies.grows _ _))
        exact ⟨choice, ⟨_, hcopies.laid _ _ final (hkeeps.second (hplus.grows next code)), hfirst⟩,
          hloop⟩
    | some max =>
      have h := ih he
      have hcopies := h.copies min
      have hgrows : ∀ next code,
          Grows code (upTo greedy body.layOut next (max - min) next code).2 :=
        fun next code => (h.upTo greedy next (max - min)).grows next code
      have hlayOut : ∀ next code, (Expr.iterate min (some max) greedy body).layOut next code =
          copies body.layOut min (upTo greedy body.layOut next (max - min) next code).1
            (upTo greedy body.layOut next (max - min) next code).2 := by
        intro next code
        rw [Expr.layOut]
      refine ⟨fun next code => ?_, fun next code final hkeeps => ?_⟩
      · rw [hlayOut]
        exact (hgrows next code).trans (hcopies.grows _ _)
      · rw [hlayOut] at hkeeps ⊢
        exact ⟨_, hcopies.laid _ _ final (hkeeps.second (hgrows next code)),
          (h.upTo greedy next (max - min)).laid next code final (hkeeps.first (hcopies.grows _ _))⟩
  | capture index name body ih =>
    have hbody := ih he
    have hclose := lays_inst (.closing index)
    have hopen := lays_inst (.opening index)
    refine ⟨fun next code => ((hclose.grows next code).trans (hbody.grows _ _)).trans
      (hopen.grows _ _), ?_⟩
    intro next code final hkeeps
    have hrest := hkeeps.second (hclose.grows next code)
    exact ⟨_, _, hopen.laid _ _ final (hrest.second (hbody.grows _ _)),
      hbody.laid _ _ final (hrest.first (hopen.grows _ _)),
      hclose.laid next code final (hkeeps.first ((hbody.grows _ _).trans (hopen.grows _ _)))⟩
  | seq a b iha ihb =>
    rw [Expr.isSteady, Bool.and_eq_true] at he
    have ha := iha he.1
    have hb := ihb he.2
    refine ⟨fun next code => (hb.grows next code).trans (ha.grows _ _), ?_⟩
    intro next code final hkeeps
    exact ⟨_, ha.laid _ _ final (hkeeps.second (hb.grows next code)),
      hb.laid next code final (hkeeps.first (ha.grows _ _))⟩
  | alt a b iha ihb =>
    rw [Expr.isSteady, Bool.and_eq_true] at he
    have ha := iha he.1
    have hb := ihb he.2
    refine ⟨fun next code => ((hb.grows next code).trans (ha.grows _ _)).trans (Grows.push _ _), ?_⟩
    intro next code final hkeeps
    have hrest := hkeeps.second (hb.grows next code)
    exact ⟨_, _, (hrest.second (ha.grows _ _)).push,
      ha.laid _ _ final (hrest.first (Grows.push _ _)),
      hb.laid next code final (hkeeps.first ((ha.grows _ _).trans (Grows.push _ _)))⟩

end Munch.Regex
