import Mathlib.Data.List.Flatten
import Mathlib.Data.Set.Lattice
import Munch.Proofs.Regex.Choices

/-!
# The places that expressions can be read to

A walker tries the places that it can go to one after the other, until what follows comes to
something from one of them. Which these are and in which order does not depend on what follows.

* `Expr.ends`: the places that an expression can be read to from a given one, the preferred first.
  Places stand there as often as there are ways to them.
* `Expr.canBeEmpty`, `Expr.first`: whether an expression can read nothing, and what it can begin
  with if it reads something (`Expr.beginsWith_ends`).
* `Walker.Lists`: a walker that tries such places, or some of them: a walker that is come to again
  leaves some out. Walkers of expressions do (`Expr.lists_walker`), and of sequences of them
  (`Expr.lists_seqs`).
-/

namespace Munch

/-- Whether the character behind a place is in a set. -/
def Cursor.NextIn (p : Cursor) (S : Set Char) : Prop := ∃ c ∈ p.rest.head?, c ∈ S

theorem Cursor.NextIn.mono {p : Cursor} {S T : Set Char} (h : p.NextIn S) (hST : S ⊆ T) :
    p.NextIn T :=
  h.imp fun _ hc => ⟨hc.1, hST hc.2⟩

namespace Regex

/-! ## Lists of places -/

/-- The places that something can be read to from a given one, the preferred first. -/
abbrev Ends := Cursor → List Cursor

namespace Ends

def stay : Ends := fun p => [p]

def char (set : CharSet) : Ends := fun p =>
  match p.rest with
  | [] => []
  | c :: cs => if set.contains c then [⟨some c, cs, p.offset + c.utf8Size⟩] else []

def test (l : Look) : Ends := fun p => if l.holds p then [p] else []

def seq (f g : Ends) : Ends := fun p => (f p).flatMap g

def orElse (f g : Ends) : Ends := fun p => f p ++ g p

/-- The places that lead on, and the one where one is. -/
def prefer (greedy : Bool) (more : List Cursor) (p : Cursor) : List Cursor :=
  if greedy then more ++ [p] else p :: more

def opt (greedy : Bool) (f : Ends) : Ends := fun p => prefer greedy (f p) p

def copies (f : Ends) : Nat → Ends
  | 0 => stay
  | n + 1 => seq (copies f n) f

def upTo (greedy : Bool) (f : Ends) : Nat → Ends
  | 0 => stay
  | n + 1 => opt greedy (seq f (upTo greedy f n))

/-- Any number of rounds, each of which reads something. -/
def rounds (greedy : Bool) (f : Ends) (p : Cursor) : List Cursor :=
  prefer greedy ((f p).flatMap fun q =>
    if _h : q.rest.length < p.rest.length then rounds greedy f q else []) p
termination_by p.rest.length

/-- One round, then any number of them. The first may read nothing. -/
def plus (greedy : Bool) (f : Ends) : Ends := seq f (rounds greedy f)

/-- Rounds that read something are rounds, the first of which may read nothing. -/
theorem rounds_sublist (greedy : Bool) (f : Ends) (p : Cursor) :
    (rounds greedy f p).Sublist (opt greedy (plus greedy f) p) := by
  have hround : ((f p).flatMap fun q =>
      if _h : q.rest.length < p.rest.length then rounds greedy f q else []).Sublist
        (plus greedy f p) := by
    refine List.Sublist.flatMap_right _ fun q _ => ?_
    split
    · exact List.Sublist.refl _
    · exact List.nil_sublist _
  rw [rounds]
  cases greedy
  · exact (List.Sublist.refl [p]).append hround
  · exact hround.append (List.Sublist.refl [p])

/-- Whether each of the places is further on. -/
def Advances (f : Ends) : Prop := ∀ p, ∀ q ∈ f p, q.rest.length < p.rest.length

end Ends

/-- The places that an expression can be read to, the preferred first. -/
def Expr.ends : Expr → Ends
  | empty => .stay
  | chars set _ => .char set
  | look l => .test l
  | capture _ _ body => body.ends
  | seq a b => .seq a.ends b.ends
  | alt a b => .orElse a.ends b.ends
  | iterate 0 none greedy body => .opt greedy (.plus greedy body.ends)
  | iterate (n + 1) none greedy body => .seq (.copies body.ends n) (.plus greedy body.ends)
  | iterate min (some max) greedy body =>
    .seq (.copies body.ends min) (.upTo greedy body.ends (max - min))

theorem Expr.ends_iterate_some (min max : Nat) (greedy : Bool) (body : Expr) :
    (iterate min (some max) greedy body).ends =
      .seq (.copies body.ends min) (.upTo greedy body.ends (max - min)) := by
  cases min <;> rfl

/-- The places that expressions can be read to one after the other. -/
def Expr.endsOf : List Expr → Ends
  | [] => .stay
  | e :: es => .seq e.ends (endsOf es)

theorem Ends.seq_stay (f : Ends) : seq f stay = f := funext fun p => List.flatMap_singleton' (f p)

theorem Expr.ends_ofFactors (es : List Expr) : (ofFactors es).ends = endsOf es := by
  induction es with
  | nil => rfl
  | cons e es ih =>
    cases es with
    | nil => exact (Ends.seq_stay e.ends).symm
    | cons d ds => exact congrArg (Ends.seq e.ends) ih

namespace Ends

variable {f g : Ends} {S T N : Set Char} {i j : Prop} {greedy : Bool}

theorem mem_prefer {more : List Cursor} {p q : Cursor} :
    q ∈ prefer greedy more p ↔ q ∈ more ∨ q = p := by
  cases greedy
  · exact List.mem_cons.trans or_comm
  · exact List.mem_append.trans (or_congr_right List.mem_singleton)

theorem mem_rounds {p q : Cursor} : q ∈ rounds greedy f p ↔
    (∃ r ∈ f p, r.rest.length < p.rest.length ∧ q ∈ rounds greedy f r) ∨ q = p := by
  rw [rounds, mem_prefer, List.mem_flatMap]
  refine or_congr_left (exists_congr fun r => and_congr_right fun _ => ?_)
  split
  next hlt => exact (and_iff_right hlt).symm
  next hlt => exact iff_of_false List.not_mem_nil fun h => hlt h.1

/-! ## The first character -/

/-- Whether what is read begins with a character of a set, or is empty if it may be. -/
def BeginsWith (S : Set Char) (i : Prop) (f : Ends) : Prop :=
  ∀ p, ∀ q ∈ f p, (i ∧ q = p) ∨ (q.rest.length < p.rest.length ∧ p.NextIn S)

namespace BeginsWith

theorem mono (hf : BeginsWith S i f) (hST : S ⊆ T) (hij : i → j) : BeginsWith T j f :=
  fun p q hq => (hf p q hq).imp (fun h => ⟨hij h.1, h.2⟩) fun h => ⟨h.1, h.2.mono hST⟩

theorem stay : BeginsWith S True stay := fun _ _ hq => .inl ⟨trivial, List.mem_singleton.1 hq⟩

theorem char (set : CharSet) : BeginsWith {c | set.contains c} False (char set) := by
  rintro ⟨before, rest, offset⟩ q hq
  cases rest with
  | nil => cases hq
  | cons c cs =>
    simp only [Ends.char, List.mem_ite_nil_right, List.mem_singleton] at hq
    obtain ⟨hc, rfl⟩ := hq
    exact .inr ⟨by simp, c, rfl, hc⟩

theorem test (l : Look) : BeginsWith S True (test l) := by
  intro p q hq
  simp only [Ends.test, List.mem_ite_nil_right, List.mem_singleton] at hq
  exact .inl ⟨trivial, hq.2⟩

theorem seq (hf : BeginsWith S i f) (hg : BeginsWith T j g) (hTS : i → T ⊆ S) :
    BeginsWith S (i ∧ j) (seq f g) := by
  intro p q hpq
  obtain ⟨r, hr, hq⟩ := List.mem_flatMap.1 hpq
  rcases hf p r hr with ⟨hi, rfl⟩ | ⟨hlt, hnext⟩
  · rcases hg r q hq with ⟨hj, rfl⟩ | ⟨hlt, hnext⟩
    · exact .inl ⟨⟨hi, hj⟩, rfl⟩
    · exact .inr ⟨hlt, hnext.mono (hTS hi)⟩
  · rcases hg r q hq with ⟨-, rfl⟩ | ⟨hlt', -⟩
    · exact .inr ⟨hlt, hnext⟩
    · exact .inr ⟨by omega, hnext⟩

theorem orElse (hf : BeginsWith S i f) (hg : BeginsWith T j g) :
    BeginsWith (S ∪ T) (i ∨ j) (orElse f g) := by
  intro p q hq
  rcases List.mem_append.1 hq with hq | hq
  · exact hf.mono Set.subset_union_left .inl p q hq
  · exact hg.mono Set.subset_union_right .inr p q hq

theorem opt (hf : BeginsWith S i f) : BeginsWith S True (opt greedy f) := by
  intro p q hq
  rcases mem_prefer.1 hq with hq | rfl
  · exact hf.mono subset_rfl (fun _ => trivial) p q hq
  · exact .inl ⟨trivial, rfl⟩

theorem copies (hf : BeginsWith S i f) (n : Nat) : BeginsWith S (n = 0 ∨ i) (copies f n) := by
  induction n with
  | zero => exact stay.mono subset_rfl fun _ => .inl rfl
  | succ n ih => exact (ih.seq hf fun _ => subset_rfl).mono subset_rfl fun h => .inr h.2

theorem upTo (hf : BeginsWith S i f) (n : Nat) : BeginsWith S True (upTo greedy f n) := by
  induction n with
  | zero => exact stay
  | succ n ih => exact (hf.seq ih fun _ => subset_rfl).opt

theorem rounds (hf : BeginsWith S i f) : BeginsWith S True (rounds greedy f) := by
  intro p q hq
  induction hlen : p.rest.length using Nat.strongRecOn generalizing p with
  | _ len ih =>
    rcases mem_rounds.1 hq with ⟨r, hr, hlt, hq⟩ | rfl
    · rcases hf p r hr with ⟨-, rfl⟩ | ⟨-, hnext⟩
      · omega
      · rcases ih _ (hlen ▸ hlt) r hq rfl with ⟨-, rfl⟩ | ⟨hlt', -⟩
        · exact .inr ⟨by omega, hnext⟩
        · exact .inr ⟨by omega, hnext⟩
    · exact .inl ⟨trivial, rfl⟩

theorem plus (hf : BeginsWith S i f) : BeginsWith S i (plus greedy f) :=
  (hf.seq hf.rounds fun _ => subset_rfl).mono subset_rfl And.left

/-- What is in front of what is followed by a character. -/
theorem nextIn (hf : BeginsWith S i f) {p q : Cursor} (hq : q ∈ f p) (hnext : q.NextIn N) :
    p.NextIn (S ∪ {c | i ∧ c ∈ N}) := by
  rcases hf p q hq with ⟨hi, rfl⟩ | ⟨-, hfirst⟩
  · exact hnext.mono fun c hc => .inr ⟨hi, hc⟩
  · exact hfirst.mono Set.subset_union_left

end BeginsWith

end Ends

/-- The members of a set. -/
def members (set : CharSet) : Set Char := {c | set.contains c}

theorem members_union (a b : CharSet) : members (a ∪ b) = members a ∪ members b := by
  ext c
  change (a ∪ b).contains c ↔ _
  rw [CharSet.contains_union, Bool.or_eq_true]
  rfl

namespace Expr

/-- Whether an expression may read nothing. -/
def canBeEmpty : Expr → Bool
  | empty => true
  | chars _ _ => false
  | look _ => true
  | iterate min _ _ body => min = 0 || body.canBeEmpty
  | capture _ _ body => body.canBeEmpty
  | seq a b => a.canBeEmpty && b.canBeEmpty
  | alt a b => a.canBeEmpty || b.canBeEmpty

/-- The characters that what is read may begin with. -/
def first : Expr → CharSet
  | empty => ∅
  | chars set _ => set
  | look _ => ∅
  | iterate _ _ _ body => body.first
  | capture _ _ body => body.first
  | seq a b => if a.canBeEmpty then a.first ∪ b.first else a.first
  | alt a b => a.first ∪ b.first

theorem beginsWith_ends (e : Expr) : e.ends.BeginsWith (members e.first) e.canBeEmpty := by
  induction e with
  | empty => exact Ends.BeginsWith.stay.mono subset_rfl fun _ => rfl
  | chars set _ => exact (Ends.BeginsWith.char set).mono subset_rfl nofun
  | look l => exact (Ends.BeginsWith.test l).mono subset_rfl fun _ => rfl
  | capture index name body ih => exact ih
  | seq a b iha ihb =>
    have hempty : a.canBeEmpty ∧ b.canBeEmpty → (seq a b).canBeEmpty := by simp [canBeEmpty]
    rw [first]
    split
    next ha =>
      rw [members_union]
      exact ((iha.mono Set.subset_union_left id).seq ihb fun _ => Set.subset_union_right).mono
        subset_rfl hempty
    next ha => exact (iha.seq ihb fun h => absurd h ha).mono subset_rfl hempty
  | alt a b iha ihb =>
    rw [first, members_union]
    exact (iha.orElse ihb).mono subset_rfl fun h => by simpa [canBeEmpty] using h
  | iterate min max greedy body ih =>
    have hempty : min = 0 ∨ body.canBeEmpty → (iterate min max greedy body).canBeEmpty := by
      simp [canBeEmpty]
    cases max with
    | some max =>
      rw [ends_iterate_some]
      exact ((ih.copies min).seq (ih.upTo _) fun _ => subset_rfl).mono subset_rfl
        fun h => hempty h.1
    | none =>
      cases min with
      | zero => exact ih.plus.opt.mono subset_rfl fun _ => hempty (.inl rfl)
      | succ n =>
        exact ((ih.copies n).seq ih.plus fun _ => subset_rfl).mono subset_rfl
          fun h => hempty (.inr h.2)

theorem canBeEmpty_ofFactors (es : List Expr) :
    (ofFactors es).canBeEmpty = es.all canBeEmpty := by
  induction es with
  | nil => rfl
  | cons e es ih =>
    cases es with
    | nil => exact (Bool.and_true _).symm
    | cons d ds => exact congrArg (e.canBeEmpty && ·) ih

theorem beginsWith_endsOf (es : List Expr) :
    (endsOf es).BeginsWith (members (ofFactors es).first) (es.all canBeEmpty) := by
  rw [← ends_ofFactors, ← canBeEmpty_ofFactors]
  exact beginsWith_ends (ofFactors es)

/-- What cannot be empty is read further. -/
theorem advances_endsOf {es : List Expr} (h : es.all canBeEmpty = false) :
    (endsOf es).Advances := fun p q hq =>
  (beginsWith_endsOf es p q hq).elim (fun hempty => absurd hempty.1 (by simp [h])) (·.1)

end Expr

/-! ## Walkers that try them -/

namespace Walker

/-- A place that is gone to, and the state there. -/
structure End (State : Type) (p : Cursor) where
  cursor : Cursor
  le : cursor.rest.length ≤ p.rest.length
  state : State

/-- Whether some of the given places are tried in their order, whatever follows. -/
def Tries {State : Type} (p : Cursor) (walk : Next State p → Option Nat) (ends : List Cursor) :
    Prop :=
  ∃ l : List (End State p), (l.map (·.cursor)).Sublist ends ∧
    ∀ k, walk k = l.findSome? fun e => k e.cursor e.le e.state

theorem findSome?_flatMap {α β γ : Type} (l : List α) (f : α → List β) (g : β → Option γ) :
    (l.flatMap f).findSome? g = l.findSome? fun a => (f a).findSome? g := by
  induction l with
  | nil => rfl
  | cons a l ih =>
    rw [List.flatMap_cons, List.findSome?_append, ih, List.findSome?_cons]
    cases (f a).findSome? g <;> rfl

theorem findSome?_congr {α β : Type} {l : List α} {f g : α → Option β} (h : ∀ a ∈ l, f a = g a) :
    l.findSome? f = l.findSome? g := by
  induction l with
  | nil => rfl
  | cons a l ih =>
    rw [List.forall_mem_cons] at h
    rw [List.findSome?_cons, List.findSome?_cons, h.1, ih h.2]

namespace Tries

variable {S S' : Type} {p : Cursor} {walk walk' : Next S p → Option Nat} {ends ends' : List Cursor}

theorem stay (s : S) : Tries p (fun k => k p (Nat.le_refl _) s) [p] :=
  ⟨[⟨p, Nat.le_refl _, s⟩], List.Sublist.refl _, fun _ => List.findSome?_singleton.symm⟩

theorem none (ends : List Cursor) : Tries p (fun _ : Next S p => .none) ends :=
  ⟨[], List.nil_sublist _, fun _ => rfl⟩

theorem sublist (h : Tries p walk ends) (hends : ends.Sublist ends') : Tries p walk ends' := by
  obtain ⟨l, hl, hwalk⟩ := h
  exact ⟨l, hl.trans hends, hwalk⟩

theorem or (h : Tries p walk ends) (h' : Tries p walk' ends') :
    Tries p (fun k => (walk k).or (walk' k)) (ends ++ ends') := by
  obtain ⟨l, hl, hwalk⟩ := h
  obtain ⟨l', hl', hwalk'⟩ := h'
  refine ⟨l ++ l', ?_, fun k => ?_⟩
  · rw [List.map_append]
    exact hl.append hl'
  · dsimp only
    rw [hwalk, hwalk', List.findSome?_append]

theorem prefer (greedy : Bool) (h : Tries p walk ends) (s : S) :
    Tries p (fun k => Expr.prefer greedy (walk k) (k p (Nat.le_refl _) s))
      (Ends.prefer greedy ends p) := by
  cases greedy
  · exact (stay s).or h
  · exact h.or (stay s)

/-- What is tried behind each place is tried in the order of these places. -/
theorem bind {next : Ends} {onwards : (q : Cursor) → S → Next S' q → Option Nat}
    (h : Tries p walk ends)
    (hnext : ∀ q s, q.rest.length ≤ p.rest.length → Tries q (onwards q s) (next q)) :
    Tries p (fun k : Next S' p => walk fun q hq s =>
      onwards q s fun r hr s' => k r (Nat.le_trans hr hq) s') (ends.flatMap next) := by
  obtain ⟨l, hl, hwalk⟩ := h
  choose behind hbehind honwards using fun e : End S p => hnext e.cursor e.state e.le
  refine ⟨l.flatMap fun e =>
    (behind e).map fun d => ⟨d.cursor, Nat.le_trans d.le e.le, d.state⟩, ?_, fun k => ?_⟩
  · have hbehind : (l.flatMap fun e => (behind e).map (·.cursor)).Sublist
        ((l.map (·.cursor)).flatMap next) := by
      rw [List.flatMap_map]
      exact List.Sublist.flatMap_right l fun e _ => hbehind e
    simp only [List.map_flatMap, List.map_map]
    exact hbehind.trans (hl.flatMap next)
  · dsimp only
    rw [hwalk, findSome?_flatMap]
    refine congrArg (List.findSome? · l) (funext fun e => ?_)
    rw [honwards, List.findSome?_map]
    rfl

theorem map (f : S → S') (h : Tries p walk ends) :
    Tries p (fun k : Next S' p => walk fun q hq s => k q hq (f s)) ends := by
  obtain ⟨l, hl, hwalk⟩ := h
  refine ⟨l.map fun e => ⟨e.cursor, e.le, f e.state⟩, ?_, fun k => ?_⟩
  · rwa [List.map_map]
  · dsimp only
    rw [hwalk, List.findSome?_map]
    rfl

/-- What follows matters at the places that are tried. -/
theorem congr (h : Tries p walk ends) {k k' : Next S p}
    (hk : ∀ q hq s, q ∈ ends → k q hq s = k' q hq s) : walk k = walk k' := by
  obtain ⟨l, hl, hwalk⟩ := h
  rw [hwalk, hwalk]
  refine findSome?_congr fun e he => ?_
  exact hk _ _ _ (hl.subset (List.mem_map_of_mem he))

/-- Nothing follows, so nothing is come to. -/
theorem none_eq (h : Tries p walk ends) : (walk fun _ _ _ => .none) = .none := by
  obtain ⟨l, -, hwalk⟩ := h
  rw [hwalk, List.findSome?_eq_none_iff]
  exact fun _ _ => rfl

theorem ends_ne_nil (h : Tries p walk ends) {k : Next S p} (hk : walk k ≠ .none) : ends ≠ [] := by
  rintro rfl
  obtain ⟨l, hl, hwalk⟩ := h
  rw [List.sublist_nil, List.map_eq_nil_iff] at hl
  rw [hwalk, hl] at hk
  exact hk rfl

end Tries

/-- Whether a walker tries some of the given places. -/
def Lists (A : Walker) (ends : Ends) : Prop := ∀ p s, Tries p (A.walk p s) (ends p)

variable {A B : Walker} {f g : Ends} {greedy : Bool}

namespace Lists

theorem empty : Lists empty .stay := fun _ s => .stay s

theorem fail : Lists fail fun _ => [] := fun _ _ => .none _

theorem chars (set : CharSet) : Lists (chars set) (.char set) := by
  intro p s
  obtain ⟨before, rest, offset⟩ := p
  cases rest with
  | nil => exact .none _
  | cons c cs =>
    by_cases hc : set.contains c
    · refine ⟨[⟨⟨some c, cs, offset + c.utf8Size⟩, by simp, s⟩], ?_, fun k => ?_⟩
      · simp [Ends.char, hc]
      · simp [Walker.chars, hc]
    · refine ⟨[], List.nil_sublist _, fun k => ?_⟩
      simp [Walker.chars, hc]

theorem test (l : Look) : Lists (test l) (.test l) := by
  intro p s
  by_cases hl : l.holds p
  · simpa only [Walker.test, Ends.test, if_pos hl] using Tries.stay s
  · simpa only [Walker.test, Ends.test, if_neg hl] using Tries.none _

theorem seq (hA : Lists A f) (hB : Lists B g) : Lists (seq A B) (.seq f g) := fun p s =>
  (hA p s.1).bind fun q s₁ _ => (hB q s.2).map fun s₂ => (s₁, s₂)

theorem orElse (hA : Lists A f) (hB : Lists B g) : Lists (orElse A B) (.orElse f g) := fun p s =>
  ((hA p s.1).map fun s₁ => (s₁, s.2)).or ((hB p s.2).map fun s₂ => (s.1, s₂))

theorem guard (hA : Lists A f) : Lists (guard A) f := by
  intro p s
  unfold Walker.guard
  dsimp only
  split
  · exact .none _
  · exact (hA p s.2).map fun s₂ => (some p.rest.length, s₂)

theorem opt (hA : Lists A f) : Lists (opt greedy A) (.opt greedy f) := by
  cases greedy
  · exact (empty.orElse hA).guard
  · exact (hA.orElse empty).guard

theorem copies (hA : Lists A f) (n : Nat) : Lists (copies A n) (.copies f n) := by
  induction n with
  | zero => exact empty
  | succ n ih => exact ih.seq hA

theorem upTo (hA : Lists A f) (n : Nat) : Lists (upTo greedy A n) (.upTo greedy f n) := by
  induction n with
  | zero => exact empty
  | succ n ih => exact (hA.seq ih).opt

theorem tries_rounds (hA : Lists A f) (p : Cursor) (s : A.State) :
    Tries p (rounds greedy A p s) (Ends.rounds greedy f p) := by
  induction hlen : p.rest.length using Nat.strongRecOn generalizing p s with
  | _ len ih =>
    have hround : ∀ q s, q.rest.length ≤ p.rest.length → Tries q
        (fun k => if _h : q.rest.length < p.rest.length then rounds greedy A q s k else none)
        (if _h : q.rest.length < p.rest.length then Ends.rounds greedy f q else []) := by
      intro q s _
      by_cases hlt : q.rest.length < p.rest.length
      · simpa only [dif_pos hlt] using ih _ (hlen ▸ hlt) q s rfl
      · simpa only [dif_neg hlt] using Tries.none []
    have hwalk : rounds greedy A p s = fun k => _ := funext fun k => rounds.eq_1 greedy A p s k
    rw [hwalk, Ends.rounds]
    exact ((hA p s).bind hround).prefer greedy (some p.rest.length, s)

theorem loop (hA : Lists A f) : Lists (loop greedy A) (.rounds greedy f) := by
  intro p s
  unfold Walker.loop
  dsimp only
  split
  · exact .none _
  · exact hA.tries_rounds p s.2

theorem plus (hA : Lists A f) : Lists (plus greedy A) (.plus greedy f) := fun p s =>
  (hA p s.2).bind fun q s₂ _ => hA.loop q (s.1, s₂)

theorem star (hA : Lists A f) : Lists (star greedy A) (.opt greedy (.plus greedy f)) := hA.plus.opt

end Lists

end Walker

namespace Expr

open Walker

theorem lists_walker (e : Expr) : Lists e.walker e.ends := by
  induction e with
  | empty => exact .empty
  | chars set _ => exact .chars set
  | look l => exact (Lists.test l).guard
  | capture index name body ih => exact ih
  | seq a b iha ihb => exact iha.seq ihb
  | alt a b iha ihb => exact (iha.orElse ihb).guard
  | iterate min max greedy body ih =>
    cases max with
    | some max => cases min <;> exact (ih.copies _).seq (ih.upTo _)
    | none =>
      cases min with
      | succ n => exact (ih.copies n).seq ih.plus
      | zero =>
        rw [walker]
        split
        · exact fun p s => (ih.loop p s).sublist (Ends.rounds_sublist greedy body.ends p)
        · exact ih.star

theorem lists_seqs (es : List Expr) : Lists (seqs (es.map walker)) (endsOf es) := by
  induction es with
  | nil => exact .empty
  | cons e es ih => exact (lists_walker e).seq ih

theorem lists_oneOf (bs : List (List Expr)) :
    Lists (oneOf (bs.map fun b => seqs (b.map walker)))
      fun p => bs.flatMap fun b => endsOf b p := by
  induction bs with
  | nil => exact .fail
  | cons b bs ih => exact (lists_seqs b).orElse ih

end Expr

end Regex

end Munch
