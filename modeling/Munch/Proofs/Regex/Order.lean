import Munch.Proofs.Regex.Ends

/-!
# The order of what is chosen

What branches begin with in common can be read once in front of the choice instead. The order in
which the ways through it are tried is then another: behind each place that the beginning can be
read to all the branches are tried, before the next such place is.

* `Expr.KeepsOrder`: whether no later branch comes before an earlier one in this way. A branch can
  do so if the beginning can be read to two places, the preferred of which leads on into the later
  branch and the other into the earlier one.
* `Expr.distribute`: then it makes no difference, unless one comes to the choice again. If one does,
  each branch must read something.

A branch that reads nothing is left where it was come to, with different numbers remembered on
different ways through its beginning, and which of these one comes again with matters. What was
noted further back never does (`Walker.Forgets`), nor does what is noted in a walker that reads
something each time (`Walker.Renews`).
-/

namespace Munch.Regex

namespace Walker

variable {A B C X : Walker} {f g g₁ g₂ : Ends} {again : Bool}

/-! ## States that were left further back -/

section Noted

variable {S S' : Type}

/-- What is known of states in which nothing was noted ahead (`P`): those in which nothing was noted
here either are related. -/
structure Noted (P : Nat → S → Prop) (F : Nat → S → S → Prop) : Prop where
  fewer : ∀ {m n s}, m ≤ n → P n s → P m s
  noted : ∀ {n s t}, F n s t → P n s ∧ P n t
  behind : ∀ {n s t}, P (n + 1) s → P (n + 1) t → F n s t

theorem Noted.both {P : Nat → S → Prop} {F : Nat → S → S → Prop} {Q : Nat → S' → Prop}
    {G : Nat → S' → S' → Prop} (h : Noted P F) (h' : Noted Q G) :
    Noted (fun n (s : S × S') => P n s.1 ∧ Q n s.2) fun n s t => F n s.1 t.1 ∧ G n s.2 t.2 where
  fewer hle hs := ⟨h.fewer hle hs.1, h'.fewer hle hs.2⟩
  noted hst := ⟨⟨(h.noted hst.1).1, (h'.noted hst.2).1⟩, (h.noted hst.1).2, (h'.noted hst.2).2⟩
  behind hs ht := ⟨h.behind hs.1 ht.1, h'.behind hs.2 ht.2⟩

theorem Noted.marked {P : Nat → S → Prop} {F : Nat → S → S → Prop} (h : Noted P F) :
    Noted (fun n (s : Option Nat × S) => (∀ i ∈ s.1, n ≤ i) ∧ P n s.2)
      fun n s t => SameMark n s.1 t.1 ∧ F n s.2 t.2 where
  fewer hle hs := ⟨fun i hi => Nat.le_trans hle (hs.1 i hi), h.fewer hle hs.2⟩
  noted hst :=
    ⟨⟨hst.1.least, (h.noted hst.2).1⟩, hst.1.least', (h.noted hst.2).2⟩
  behind hs ht := ⟨.of_behind hs.1 ht.1, h.behind hs.2 ht.2⟩

end Noted

/-- Whether a walker can be related to itself by what was noted not further back. -/
def Forgets (A : Walker) : Prop :=
  ∃ (P : Nat → A.State → Prop) (F : Nat → A.State → A.State → Prop),
    Noted P F ∧ Related true A A F F

namespace Forgets

theorem of_unit (h : ∀ s t : A.State, s = t) : Forgets A := by
  refine ⟨fun _ _ => True, fun _ _ _ => True, ⟨fun _ => id, fun _ => ⟨trivial, trivial⟩,
    fun _ _ => trivial⟩, fun _ => id, fun _ => id, fun _ => trivial, id, fun _ _ _ _ => id, ?_⟩
  intro p s t k k' _ hk
  rw [h s t]
  congr
  funext q hq s
  exact hk q hq s s trivial

theorem empty : Forgets empty := of_unit fun _ _ => rfl

theorem seq (hA : Forgets A) (hB : Forgets B) : Forgets (seq A B) :=
  let ⟨_, _, hP, hF⟩ := hA
  let ⟨_, _, hQ, hG⟩ := hB
  ⟨_, _, hP.both hQ, hF.seq hG⟩

theorem orElse (hA : Forgets A) (hB : Forgets B) : Forgets (orElse A B) :=
  let ⟨_, _, hP, hF⟩ := hA
  let ⟨_, _, hQ, hG⟩ := hB
  ⟨_, _, hP.both hQ, hF.orElse hG⟩

theorem guard (hA : Forgets A) : Forgets (guard A) :=
  let ⟨_, _, hP, hF⟩ := hA
  ⟨_, _, hP.marked, hF.guard⟩

theorem loop (hA : Forgets A) (greedy : Bool) : Forgets (loop greedy A) :=
  let ⟨_, _, hP, hF⟩ := hA
  ⟨_, _, hP.marked, hF.loop⟩

theorem plus (hA : Forgets A) (greedy : Bool) : Forgets (plus greedy A) :=
  let ⟨_, _, hP, hF⟩ := hA
  ⟨_, _, hP.marked, hF.plus⟩

theorem opt (hA : Forgets A) (greedy : Bool) : Forgets (opt greedy A) := by
  cases greedy
  · exact (empty.orElse hA).guard
  · exact (hA.orElse empty).guard

theorem copies (hA : Forgets A) (n : Nat) : Forgets (copies A n) := by
  induction n with
  | zero => exact empty
  | succ n ih => exact ih.seq hA

theorem upTo (hA : Forgets A) (greedy : Bool) (n : Nat) : Forgets (upTo greedy A n) := by
  induction n with
  | zero => exact empty
  | succ n ih => exact (hA.seq ih).opt greedy

end Forgets

/-! ## Walkers that read something -/

/-- What is known of a walker that reads something: it comes to the same from any two states in
which nothing was noted ahead. -/
structure Renewing (A : Walker) (P : Nat → A.State → Prop) : Prop where
  fewer : ∀ {m n s}, m ≤ n → P n s → P m s
  fresh : ∀ n, P n A.fresh
  walk : ∀ {p s t} {k k' : Next A.State p}, P p.rest.length s → P p.rest.length t →
    (∀ q hq s' t', q.rest.length < p.rest.length → P q.rest.length s' → P q.rest.length t' →
      k q hq s' = k' q hq t') → A.walk p s k = A.walk p t k'

/-- Where one was, when nothing was noted ahead. -/
def MarkedBy (P : Nat → A.State → Prop) : Nat → Option Nat × A.State → Prop :=
  fun n s => (∀ i ∈ s.1, n ≤ i) ∧ P n s.2

theorem MarkedBy.here {P : Nat → A.State → Prop} {n : Nat} {s : A.State} (h : P n s) :
    MarkedBy P n (some n, s) :=
  ⟨fun _ hi => Nat.le_of_eq (Option.some.inj hi), h⟩

theorem MarkedBy.fewer {P : Nat → A.State → Prop} (hA : Renewing A P) {m n : Nat}
    {s : Option Nat × A.State} (hle : m ≤ n) (h : MarkedBy P n s) : MarkedBy P m s :=
  ⟨fun i hi => Nat.le_trans hle (h.1 i hi), hA.fewer hle h.2⟩

/-- The choice behind a round was last come to further back. -/
theorem MarkedBy.ne {P : Nat → A.State → Prop} {m n : Nat} {s : Option Nat × A.State}
    (h : MarkedBy P n s) (hlt : m < n) : s.1 ≠ some m :=
  fun hm => absurd (h.1 m hm) (Nat.not_le_of_lt hlt)

theorem Renewing.rounds_eq {P : Nat → A.State → Prop} (hA : Renewing A P) {greedy : Bool}
    {p : Cursor} {s t : A.State} {k k' : Next (Option Nat × A.State) p}
    (hs : P p.rest.length s) (ht : P p.rest.length t)
    (hk : ∀ q hq s' t', MarkedBy P q.rest.length s' → MarkedBy P q.rest.length t' →
      k q hq s' = k' q hq t') : rounds greedy A p s k = rounds greedy A p t k' := by
  induction hlen : p.rest.length using Nat.strongRecOn generalizing p s t with
  | _ len ih =>
    rw [rounds, rounds]
    congr 1
    · refine hA.walk hs ht fun q hq s' t' hlt hs' ht' => ?_
      rw [dif_pos hlt, dif_pos hlt]
      exact ih _ (hlen ▸ hlt) hs' ht' (fun r hr => hk r _) rfl
    · exact hk p _ _ _ (.here hs) (.here ht)

/-- Whether a walker reads something each time. -/
def Renews (A : Walker) : Prop := ∃ P, Renewing A P

namespace Renews

theorem chars (set : CharSet) : Renews (chars set) := by
  refine ⟨fun _ _ => True, fun _ => id, fun _ => trivial, ?_⟩
  intro p s t k k' _ _ hk
  unfold Walker.chars
  dsimp only
  split
  · rfl
  next c cs h =>
    split
    · exact hk _ _ _ _ (by simp [h]) trivial trivial
    · rfl

theorem seq (hA : Renews A) (hB : Forgets B) : Renews (seq A B) := by
  obtain ⟨P, hP⟩ := hA
  obtain ⟨Q, G, hQ, hG⟩ := hB
  refine ⟨fun n s => P n s.1 ∧ Q n s.2, fun hle h => ⟨hP.fewer hle h.1, hQ.fewer hle h.2⟩,
    fun n => ⟨hP.fresh n, (hQ.noted (hG.fresh n)).1⟩, fun {p s t k k'} hs ht hk => ?_⟩
  refine hP.walk hs.1 ht.1 fun q hq s₁ t₁ hlt hs₁ ht₁ => ?_
  refine hG.walk (hQ.behind (hQ.fewer hlt hs.2) (hQ.fewer hlt ht.2)) fun r hr s₂ t₂ h₂ => ?_
  exact hk r _ _ _ (Nat.lt_of_le_of_lt hr hlt) ⟨hP.fewer hr hs₁, (hQ.noted h₂).1⟩
    ⟨hP.fewer hr ht₁, (hQ.noted h₂).2⟩

theorem seq' (hA : Forgets A) (hB : Renews B) : Renews (Walker.seq A B) := by
  obtain ⟨P, F, hP, hF⟩ := hA
  obtain ⟨Q, hQ⟩ := hB
  refine ⟨fun n s => P (n + 1) s.1 ∧ Q n s.2,
    fun hle h => ⟨hP.fewer (Nat.succ_le_succ hle) h.1, hQ.fewer hle h.2⟩,
    fun n => ⟨(hP.noted (hF.fresh (n + 1))).1, hQ.fresh n⟩, fun {p s t k k'} hs ht hk => ?_⟩
  refine hF.walk (hP.behind hs.1 ht.1) fun q hq s₁ t₁ h₁ => ?_
  refine hQ.walk (hQ.fewer hq hs.2) (hQ.fewer hq ht.2) fun r hr s₂ t₂ hlt hs₂ ht₂ => ?_
  exact hk r _ _ _ (Nat.lt_of_lt_of_le hlt hq) ⟨hP.fewer hlt (hP.noted h₁).1, hs₂⟩
    ⟨hP.fewer hlt (hP.noted h₁).2, ht₂⟩

theorem orElse (hA : Renews A) (hB : Renews B) : Renews (orElse A B) := by
  obtain ⟨P, hP⟩ := hA
  obtain ⟨Q, hQ⟩ := hB
  refine ⟨fun n s => P n s.1 ∧ Q n s.2, fun hle h => ⟨hP.fewer hle h.1, hQ.fewer hle h.2⟩,
    fun n => ⟨hP.fresh n, hQ.fresh n⟩, fun {p s t k k'} hs ht hk => congrArg₂ Option.or ?_ ?_⟩
  · refine hP.walk hs.1 ht.1 fun q hq s₁ t₁ hlt hs₁ ht₁ => ?_
    exact hk q hq _ _ hlt ⟨hs₁, hQ.fewer hq hs.2⟩ ⟨ht₁, hQ.fewer hq ht.2⟩
  · refine hQ.walk hs.2 ht.2 fun q hq s₂ t₂ hlt hs₂ ht₂ => ?_
    exact hk q hq _ _ hlt ⟨hP.fewer hq hs.1, hs₂⟩ ⟨hP.fewer hq ht.1, ht₂⟩

theorem guard (hA : Renews A) : Renews (guard A) := by
  obtain ⟨P, hP⟩ := hA
  refine ⟨fun n s => (∀ i ∈ s.1, n < i) ∧ P n s.2,
    fun hle h => ⟨fun i hi => Nat.lt_of_le_of_lt hle (h.1 i hi), hP.fewer hle h.2⟩,
    fun n => ⟨nofun, hP.fresh n⟩, fun {p s t k k'} hs ht hk => ?_⟩
  have hopen : ∀ {f : Option Nat}, (∀ i ∈ f, p.rest.length < i) → f ≠ some p.rest.length :=
    fun hf h => Nat.lt_irrefl _ (hf _ h)
  refine (if_neg (hopen hs.1)).trans (Eq.trans ?_ (if_neg (hopen ht.1)).symm)
  refine hP.walk hs.2 ht.2 fun q hq s₂ t₂ hlt hs₂ ht₂ => ?_
  have hmark : ∀ i ∈ some p.rest.length, q.rest.length < i := fun i hi =>
    Option.some.inj hi ▸ hlt
  exact hk q hq _ _ hlt ⟨hmark, hs₂⟩ ⟨hmark, ht₂⟩

theorem plus (hA : Renews A) (greedy : Bool) : Renews (plus greedy A) := by
  obtain ⟨P, hP⟩ := hA
  refine ⟨MarkedBy P, fun hle h => h.fewer hP hle, fun n => ⟨nofun, hP.fresh n⟩,
    fun {p s t k k'} hs ht hk => ?_⟩
  refine hP.walk hs.2 ht.2 fun q hq s₂ t₂ hlt hs₂ ht₂ => ?_
  refine (if_neg (hs.ne hlt)).trans (Eq.trans ?_ (if_neg (ht.ne hlt)).symm)
  refine hP.rounds_eq hs₂ ht₂ fun r hr s' t' hs' ht' => ?_
  exact hk r _ _ _ (Nat.lt_of_le_of_lt hr hlt) hs' ht'

theorem copies (hA : Renews A) (hA' : Forgets A) (n : Nat) : Renews (copies A (n + 1)) :=
  .seq' (hA'.copies n) hA

end Renews

theorem Renewing.plus_eq {P : Nat → A.State → Prop} (hA : Renewing A P) {greedy : Bool}
    {p : Cursor} {s : A.State} {t : Option Nat × A.State}
    {k k' : Next (Option Nat × A.State) p} (hs : P p.rest.length s)
    (ht : MarkedBy P p.rest.length t)
    (hk : ∀ q hq s' t', k q hq s' = k' q hq t') :
    (A.walk p s fun q hq s => if _h : q.rest.length < p.rest.length then
      rounds greedy A q s fun r hr => k r (Nat.le_trans hr hq) else none) =
        (plus greedy A).walk p t k' := by
  refine hA.walk hs ht.2 fun q hq s' t' hlt hs' ht' => (dif_pos hlt).trans ?_
  refine Eq.trans ?_ (if_neg (ht.ne hlt)).symm
  exact hA.rounds_eq hs' ht' fun r hr _ _ _ _ => hk r _ _ _

/-- A choice of its own in front of the rounds makes no difference, unless one comes to it again. -/
theorem Renews.loop_star (hA : Renews A) (greedy : Bool) :
    Alike false (loop greedy A) (star greedy A) := by
  obtain ⟨P, hP⟩ := hA
  have hopen : ∀ {f : Option Nat} {n}, (∀ i ∈ f, n < i) → f ≠ some n :=
    fun hf h => Nat.lt_irrefl _ (hf _ h)
  have hfewer : ∀ {f : Option Nat} {m n}, m ≤ n → (∀ i ∈ f, n < i) → ∀ i ∈ f, m < i :=
    fun hle hf i hi => Nat.lt_of_le_of_lt hle (hf i hi)
  have hnone : ∀ n, ∀ i ∈ (none : Option Nat), n < i := by simp
  have hfresh : ∀ n, MarkedBy P n (none, A.fresh) := fun n => ⟨by simp, hP.fresh n⟩
  have honce : ∀ {Q : Prop}, false = true → Q := fun h => (Bool.false_ne_true h).elim
  cases greedy
  · refine Sim.alike ⟨fun n s t => ((∀ i ∈ s.1, n < i) ∧ P n s.2) ∧ (∀ i ∈ t.1, n < i) ∧
      MarkedBy P n t.2.2, fun _ _ _ => True, ?_, fun _ => id, ?_, fun _ => trivial, honce, ?_⟩
    · exact fun hle h =>
        ⟨⟨hfewer hle h.1.1, hP.fewer hle h.1.2⟩, hfewer hle h.2.1, h.2.2.fewer hP hle⟩
    · exact fun n => ⟨⟨hnone n, hP.fresh n⟩, hnone n, hfresh n⟩
    · rintro p s t k k' ⟨hs, ht, hmark⟩ hk
      refine (if_neg (hopen hs.1)).trans (Eq.trans ?_ (if_neg (hopen ht)).symm)
      refine (rounds.eq_1 ..).trans ?_
      exact congrArg₂ Option.or (hk p _ _ _ trivial)
        (hP.plus_eq hs.2 hmark fun q hq s' t' => hk q _ _ _ trivial)
  · refine Sim.alike ⟨fun n s t => ((∀ i ∈ s.1, n < i) ∧ P n s.2) ∧ (∀ i ∈ t.1, n < i) ∧
      MarkedBy P n t.2.1, fun _ _ _ => True, ?_, fun _ => id, ?_, fun _ => trivial, honce, ?_⟩
    · exact fun hle h =>
        ⟨⟨hfewer hle h.1.1, hP.fewer hle h.1.2⟩, hfewer hle h.2.1, h.2.2.fewer hP hle⟩
    · exact fun n => ⟨⟨hnone n, hP.fresh n⟩, hnone n, hfresh n⟩
    · rintro p s t k k' ⟨hs, ht, hmark⟩ hk
      refine (if_neg (hopen hs.1)).trans (Eq.trans ?_ (if_neg (hopen ht)).symm)
      refine (rounds.eq_1 ..).trans ?_
      exact congrArg₂ Option.or (hP.plus_eq hs.2 hmark fun q hq s' t' => hk q _ _ _ trivial)
        (hk p _ _ _ trivial)

/-! ## What is tried behind a beginning -/

/-- Whether a walker comes to the same from any two states of `I`, if what follows does from any two
states of `O`. -/
structure Enters (A : Walker) (I O : Nat → A.State → Prop) : Prop where
  fewer : ∀ {m n s}, m ≤ n → I n s → I m s
  fresh : ∀ n, I n A.fresh
  walk : ∀ {p s t} {k k' : Next A.State p}, I p.rest.length s → I p.rest.length t →
    (∀ q hq s' t', O q.rest.length s' → O q.rest.length t' → k q hq s' = k' q hq t') →
      A.walk p s k = A.walk p t k'

/-- A walker is left in states of `O`. -/
theorem Enters.of_mem {I O : Nat → A.State → Prop} (hA : Enters A I O) (hf : Lists A f) {p : Cursor}
    {s : A.State} (hs : I p.rest.length s) {l : List (End A.State p)}
    (hl : ∀ k, A.walk p s k = l.findSome? fun e => k e.cursor e.le e.state) {e : End A.State p}
    (he : e ∈ l) : O e.cursor.rest.length e.state := by
  classical
  -- What comes to something in other states only comes to nothing.
  let k : Next A.State p := fun q _ s => if O q.rest.length s then none else some 0
  have hnone : A.walk p s k = none := by
    have hsame : A.walk p s k = A.walk p s fun _ _ _ => none :=
      hA.walk hs hs fun q _ s' _ h _ => if_pos h
    exact hsame.trans (hf p s).none_eq
  rw [hl, List.findSome?_eq_none_iff] at hnone
  by_contra hne
  exact absurd ((if_neg hne).symm.trans (hnone e he)) nofun

/-- A guard behind what is read may as well stand in front of it. -/
theorem seq_guard (hA : Lists A f) (hB : Lists B g) (hreads : again → f.Advances ∨ g.Advances) :
    Alike again (seq A (guard B)) (guard (seq A B)) := by
  let E (n : Nat) (s : A.State × Option Nat × B.State)
      (t : Option Nat × A.State × B.State) : Prop :=
    (∀ i ∈ s.2.1, n ≤ i ∧ (i = n → f.Advances)) ∧ (∀ i ∈ t.1, n < i) ∧ t.2 = (s.1, s.2.2)
  have hfewer : ∀ {m n s t}, m ≤ n → E n s t → E m s t := fun hle h => by
    refine ⟨fun i hi => ⟨Nat.le_trans hle (h.1 i hi).1, fun him => ?_⟩,
      fun i hi => Nat.lt_of_le_of_lt hle (h.2.1 i hi), h.2.2⟩
    have := (h.1 i hi).1
    exact (h.1 i hi).2 (by omega)
  refine Sim.alike ⟨E, fun n s t => again → E n s t, hfewer, fun hle h ha => hfewer hle (h ha),
    fun n => ⟨nofun, nofun, rfl⟩, fun h _ => h, fun ha _ _ _ h => h ha, ?_⟩
  rintro p ⟨a, i, b⟩ ⟨j, _, _⟩ k k' ⟨hi, hj, heq⟩ hk
  cases heq
  refine Eq.trans ?_ (if_neg fun h => Nat.lt_irrefl _ (hj _ h)).symm
  refine (hA p a).congr fun q hq a' hmem => ?_
  have hopen : i ≠ some q.rest.length := fun h => by
    obtain ⟨hle, hadvances⟩ := hi _ h
    have hlt := hadvances (Nat.le_antisymm hq hle) p q hmem
    exact Nat.lt_irrefl _ (Nat.lt_of_lt_of_le hlt hle)
  refine (if_neg hopen).trans ((hB q b).congr fun r hr b' hmem' => hk r _ _ _ fun ha => ?_)
  rcases hreads ha with hf | hg
  · have hlt := hf p q hmem
    refine ⟨fun m hm => ?_, fun m hm => ?_, rfl⟩
    · cases hm
      exact ⟨hr, fun _ => hf⟩
    · cases hm
      exact Nat.lt_of_le_of_lt hr hlt
  · have hlt := hg q r hmem'
    refine ⟨fun m hm => ?_, fun m hm => ?_, rfl⟩
    · cases hm
      exact ⟨hr, fun h => absurd h (Nat.ne_of_gt hlt)⟩
    · cases hm
      exact Nat.lt_of_lt_of_le hlt hq

theorem findSome?_or {α β : Type} {l : List α} {f g : α → Option β}
    (h : l.Pairwise fun a b => g a ≠ none → f b ≠ none → f a ≠ none) :
    (l.findSome? fun a => (f a).or (g a)) = (l.findSome? f).or (l.findSome? g) := by
  induction l with
  | nil => rfl
  | cons a l ih =>
    rw [List.pairwise_cons] at h
    rw [List.findSome?_cons, List.findSome?_cons, List.findSome?_cons, ih h.2]
    cases hf : f a with
    | some => rfl
    | none =>
      cases hg : g a with
      | none => rfl
      | some x =>
        have hnone : l.findSome? f = none := by
          rw [List.findSome?_eq_none_iff]
          intro b hb
          by_contra hne
          exact h.1 b hb (by simp [hg]) hne hf
        simp [hnone]

/-- Behind a beginning, what is tried first may be tried at all its ends before what is tried second,
if no end in front allows the second and one behind it the first. At one end they are tried in turn,
for what is tried first cannot tell in which state it was come to. -/
theorem Enters.walk_or {I O : Nat → X.State → Prop} (henters : Enters X I O) (hX : Lists X f)
    {p : Cursor} {x : X.State} (hx : I p.rest.length x) {k₁ k₂ : Next X.State p}
    (hstate : ∀ q hq y y', O q.rest.length y → O q.rest.length y' → k₁ q hq y = k₁ q hq y')
    (horder : (f p).Pairwise fun q q' => q ≠ q' →
      ∀ hq hq' y y', k₂ q hq y ≠ none → k₁ q' hq' y' = none) :
    (X.walk p x fun q hq y => (k₁ q hq y).or (k₂ q hq y)) =
      (X.walk p x k₁).or (X.walk p x k₂) := by
  obtain ⟨l, hl, hwalk⟩ := hX p x
  rw [hwalk, hwalk, hwalk]
  refine findSome?_or ((List.pairwise_map.1 (horder.sublist hl)).imp_of_mem ?_)
  rintro ⟨q, hq, y⟩ ⟨q', hq', y'⟩ hmem hmem' hne hsecond hfirst
  by_cases hqq : q = q'
  · subst hqq
    have hy := henters.of_mem hX hx hwalk hmem
    have hy' := henters.of_mem hX hx hwalk hmem'
    rwa [hstate q hq y y' hy hy']
  · exact absurd (hne hqq hq hq' y y' hsecond) hfirst

/-- A choice behind a beginning. -/
theorem seq_orElse {I O : Nat → X.State → Prop} (hX : Lists X f) (henters : Enters X I O)
    (hB : Lists B g₁) (hC : Lists C g₂)
    (horder : ∀ p, (f p).Pairwise fun q q' => q ≠ q' → ¬ (g₂ q ≠ [] ∧ g₁ q' ≠ []))
    (hon : again → ∀ {q r s}, r ∈ g₁ q ∨ r ∈ g₂ q → r.rest.length ≤ q.rest.length →
      O q.rest.length s → I r.rest.length s) :
    Alike again (seq X (orElse B C)) (orElse (seq X B) (seq X C)) := by
  let E (n : Nat) (s : X.State × B.State × C.State)
      (t : (X.State × B.State) × X.State × C.State) : Prop :=
    I n s.1 ∧ I n t.1.1 ∧ I n t.2.1 ∧ s.2 = (t.1.2, t.2.2)
  have hfewer : ∀ {m n s t}, m ≤ n → E n s t → E m s t := fun hle h =>
    ⟨henters.fewer hle h.1, henters.fewer hle h.2.1, henters.fewer hle h.2.2.1, h.2.2.2⟩
  refine Sim.alike ⟨E, fun n s t => again → E n s t, hfewer, fun hle h ha => hfewer hle (h ha),
    fun n => ⟨henters.fresh n, henters.fresh n, henters.fresh n, rfl⟩, fun h _ => h,
    fun ha _ _ _ h => h ha, ?_⟩
  rintro p ⟨x, _, _⟩ ⟨⟨x₁, b⟩, x₂, c⟩ k k' ⟨hx, hx₁, hx₂, heq⟩ hk
  cases heq
  -- Each of the two ways through the beginning is the one way that there was.
  have hfirst : ∀ q hq y y', O q.rest.length y → O q.rest.length y' →
      (B.walk q b fun r hr b => k r (Nat.le_trans hr hq) (y, b, c)) =
        B.walk q b fun r hr b => k' r (Nat.le_trans hr hq) ((y', b), x₂, c) := by
    refine fun q hq y y' hy hy' => (hB q b).congr fun r hr b hmem => hk r _ _ _ fun ha => ?_
    exact ⟨hon ha (.inl hmem) hr hy, hon ha (.inl hmem) hr hy',
      henters.fewer (Nat.le_trans hr hq) hx₂, rfl⟩
  have hsecond : ∀ q hq y y', O q.rest.length y → O q.rest.length y' →
      (C.walk q c fun r hr c => k r (Nat.le_trans hr hq) (y, b, c)) =
        C.walk q c fun r hr c => k' r (Nat.le_trans hr hq) ((x₁, b), y', c) := by
    refine fun q hq y y' hy hy' => (hC q c).congr fun r hr c hmem => hk r _ _ _ fun ha => ?_
    exact ⟨hon ha (.inr hmem) hr hy, henters.fewer (Nat.le_trans hr hq) hx₁,
      hon ha (.inr hmem) hr hy', rfl⟩
  refine (henters.walk_or hX hx (fun q hq y y' hy hy' => ?_) ((horder p).imp ?_)).trans
    (congrArg₂ Option.or (henters.walk hx hx₁ hfirst) (henters.walk hx hx₂ hsecond))
  · exact (hfirst q hq y y' hy hy').trans (hfirst q hq y' y' hy' hy').symm
  · intro q q' hne hqq hq hq' y y' hlater
    by_contra hearlier
    exact hne hqq ⟨(hC q c).ends_ne_nil hlater, (hB q' b).ends_ne_nil hearlier⟩

theorem seq_fail (hX : Lists X f) : Alike again (seq X fail) fail :=
  Sim.alike (.of_map (fun _ => ()) rfl fun p s _ => (hX p s.1).none_eq)

end Walker

namespace Expr

open Walker

variable {again : Bool}

theorem forgets_walker (e : Expr) : Forgets e.walker := by
  induction e with
  | empty => exact .empty
  | chars => exact .of_unit fun _ _ => rfl
  | look => exact (Forgets.of_unit fun _ _ => rfl).guard
  | capture index name body ih => exact ih
  | seq a b iha ihb => exact iha.seq ihb
  | alt a b iha ihb => exact (iha.orElse ihb).guard
  | iterate min max greedy body ih =>
    cases max with
    | some max => cases min <;> exact (ih.copies _).seq (ih.upTo greedy _)
    | none =>
      cases min with
      | succ n => exact (ih.copies n).seq (ih.plus greedy)
      | zero =>
        rw [walker]
        split
        · exact ih.loop greedy
        · exact (ih.plus greedy).opt greedy

theorem renews_walker {e : Expr} (h : e.canBeEmpty = false) : Renews e.walker := by
  induction e with
  | empty | look => cases h
  | chars set => exact .chars set
  | capture index name body ih => exact ih h
  | seq a b iha ihb =>
    rcases Bool.and_eq_false_iff.1 h with h | h
    · exact (iha h).seq (forgets_walker b)
    · exact .seq' (forgets_walker a) (ihb h)
  | alt a b iha ihb =>
    obtain ⟨ha, hb⟩ := Bool.or_eq_false_iff.1 h
    exact ((iha ha).orElse (ihb hb)).guard
  | iterate min max greedy body ih =>
    obtain ⟨hmin, hbody⟩ := Bool.or_eq_false_iff.1 h
    cases min with
    | zero => cases hmin
    | succ n =>
      cases max with
      | some max =>
        exact ((ih hbody).copies (forgets_walker body) n).seq ((forgets_walker body).upTo greedy _)
      | none => exact .seq' ((forgets_walker body).copies n) ((ih hbody).plus greedy)

theorem forgets_seqs (es : List Expr) : Forgets (seqs (es.map walker)) := by
  induction es with
  | nil => exact .empty
  | cons e es ih => exact (forgets_walker e).seq ih

theorem renews_seqs {es : List Expr} (h : es.all canBeEmpty = false) :
    Renews (seqs (es.map walker)) := by
  induction es with
  | nil => cases h
  | cons e es ih =>
    rcases Bool.and_eq_false_iff.1 h with h | h
    · exact (renews_walker h).seq (forgets_seqs es)
    · exact .seq' (forgets_walker e) (ih h)

/-- Where nothing was noted ahead one may come again further on, and at the same place too if
something is read each time. -/
theorem exists_enters (es : List Expr) : ∃ I O : Nat → (seqs (es.map walker)).State → Prop,
    Enters (seqs (es.map walker)) I O ∧ (∀ {m n s}, m < n → O n s → I m s) ∧
      (es.all canBeEmpty = false → ∀ {n s}, O n s → I n s) := by
  by_cases hempty : es.all canBeEmpty = false
  · obtain ⟨P, hP⟩ := renews_seqs hempty
    refine ⟨P, P, ⟨hP.fewer, hP.fresh, fun hs ht hk => ?_⟩,
      fun hlt => hP.fewer (Nat.le_of_lt hlt), fun _ => id⟩
    exact hP.walk hs ht fun q hq s' t' _ => hk q hq s' t'
  · obtain ⟨P, F, hP, hF⟩ := forgets_seqs es
    refine ⟨fun n => P (n + 1), P, ⟨fun hle => hP.fewer (Nat.succ_le_succ hle),
      fun n => (hP.noted (hF.fresh (n + 1))).1, fun hs ht hk => ?_⟩,
      fun hlt => hP.fewer hlt, fun h => absurd h hempty⟩
    exact hF.walk (hP.behind hs ht) fun q hq s' t' h =>
      hk q hq s' t' (hP.noted h).1 (hP.noted h).2

/-! ## Beginnings that may be taken out -/

/-- Whether the branches are still tried in their order if their beginning is read only once: from
no place can it be read to two places, the preferred one followed by a later branch and the other by
an earlier one. -/
def KeepsOrder (front : List Expr) (backs : List (List Expr)) : Prop :=
  ∀ p, (endsOf front p).Pairwise fun q q' => q ≠ q' →
    backs.Pairwise fun b c => ¬ (endsOf c q ≠ [] ∧ endsOf b q' ≠ [])

variable {front : List Expr} {back : List Expr} {backs : List (List Expr)}

theorem KeepsOrder.tail (h : KeepsOrder front (back :: backs)) : KeepsOrder front backs :=
  fun p => (h p).imp fun hq hne => (List.pairwise_cons.1 (hq hne)).2

theorem KeepsOrder.head (h : KeepsOrder front (back :: backs)) (p : Cursor) :
    (endsOf front p).Pairwise fun q q' => q ≠ q' →
      ¬ ((backs.flatMap fun b => endsOf b q) ≠ [] ∧ endsOf back q' ≠ []) := by
  refine (h p).imp fun {q q'} hq hne => ?_
  rintro ⟨hlater, hfirst⟩
  rw [Ne, List.flatMap_eq_nil_iff] at hlater
  push Not at hlater
  obtain ⟨b, hb, hlater⟩ := hlater
  exact (List.pairwise_cons.1 (hq hne)).1 b hb ⟨hlater, hfirst⟩

theorem seq_oneOf {I O : Nat → (seqs (front.map walker)).State → Prop}
    (henters : Enters (seqs (front.map walker)) I O) (horder : KeepsOrder front backs)
    (hon : again → ∀ b ∈ backs, ∀ {q r s}, r ∈ endsOf b q → r.rest.length ≤ q.rest.length →
      O q.rest.length s → I r.rest.length s) :
    Alike again (.seq (seqs (front.map walker)) (oneOf (backs.map fun b => seqs (b.map walker))))
      (oneOf (backs.map fun b => .seq (seqs (front.map walker)) (seqs (b.map walker)))) := by
  induction backs with
  | nil => exact seq_fail (lists_seqs front)
  | cons back backs ih =>
    simp only [List.forall_mem_cons] at hon
    refine (seq_orElse (lists_seqs front) henters (lists_seqs back) (lists_oneOf backs)
      horder.head fun ha q r s hr hle hs => ?_).trans
        ((Alike.refl _).orElse (ih horder.tail fun ha => (hon ha).2))
    rcases hr with hr | hr
    · exact (hon ha).1 hr hle hs
    · obtain ⟨b, hb, hr⟩ := List.mem_flatMap.1 hr
      exact (hon ha).2 b hb hr hle hs

/-- What keeps the order of the branches may stand in front of the choice. -/
theorem distribute (horder : KeepsOrder front backs)
    (hreads : again → ∀ b ∈ backs, (front ++ b).all canBeEmpty = false) :
    Alike again
      (.seq (seqs (front.map walker)) (guard (oneOf (backs.map fun b => seqs (b.map walker)))))
      (guard (oneOf (backs.map fun b => seqs ((front ++ b).map walker)))) := by
  have hone : again → ∀ b ∈ backs, front.all canBeEmpty = false ∨ b.all canBeEmpty = false := by
    intro ha b hb
    have := hreads ha b hb
    rwa [List.all_append, Bool.and_eq_false_iff] at this
  -- A guard that is come to again is closed at the place where it was left. So it is only moved if
  -- one comes to another place in between.
  have hguard : again → (endsOf front).Advances ∨
      Ends.Advances fun q => backs.flatMap fun b => endsOf b q := by
    intro ha
    by_cases hfront : front.all canBeEmpty = false
    · exact .inl (advances_endsOf hfront)
    · refine .inr fun q r hr => ?_
      obtain ⟨b, hb, hr⟩ := List.mem_flatMap.1 hr
      exact advances_endsOf ((hone ha b hb).resolve_left hfront) q r hr
  obtain ⟨I, O, henters, hpast, hhere⟩ := exists_enters front
  have hon : again → ∀ b ∈ backs, ∀ {q r s}, r ∈ endsOf b q → r.rest.length ≤ q.rest.length →
      O q.rest.length s → I r.rest.length s := by
    intro ha b hb q r s hr hle hs
    rcases hone ha b hb with hfront | hback
    · exact henters.fewer hle (hhere hfront hs)
    · exact hpast (advances_endsOf hback q r hr) hs
  calc
    Alike again _ (guard (.seq (seqs (front.map walker))
        (oneOf (backs.map fun b => seqs (b.map walker))))) :=
      seq_guard (lists_seqs front) (lists_oneOf backs) hguard
    Alike again _ (guard (oneOf (backs.map fun b =>
        .seq (seqs (front.map walker)) (seqs (b.map walker))))) :=
      (seq_oneOf henters horder hon).guard
    Alike again _ _ := by
      refine (Alike.oneOf ?_).guard
      rw [List.forall₂_map_left_iff, List.forall₂_map_right_iff]
      exact List.forall₂_same.2 fun b _ => (walker_append front b).symm

end Expr

end Munch.Regex
