import Mathlib.Tactic.Common
import Munch.Proofs.Except
import Munch.Regex.Basic

/-!
# How patterns are read

`Parses` says step by step how a sequence is read, with one case for each thing that can stand at
the front of what is left. It knows of no bound on the number of steps, so that what is said of a
reading is said by induction on its steps.

* `parses_of_sequence`, `Parses.sequence_eq_ok`: readings are what `sequence` does, given enough
  steps.
* `Parses.unique`: a pattern can be read in one way.
* `exists_of_compile`: what is known of a pattern that compiles.
-/

namespace Munch.Regex

/-- The characters that begin something else than an atom. -/
def operators : List Char := [')', '|', '(', '[', '?', '*', '+', '\x7b']

/-- With `p` read so far, the reader `r` goes on to the end of the sequence, which is `tree`. -/
inductive Parses : Option Extent → Partial → Reader → Tree → Reader → Prop
  | done {p r} (hskip : skip r.verbose r.rest = []) :
      Parses none p r (p.finish []) { r with rest := [] }
  | close {opened p r cs} (hskip : skip r.verbose r.rest = ')' :: cs) :
      Parses (some opened) p r (p.finish (')' :: cs)) { r with rest := ')' :: cs }
  | branch {opened p r cs tree after} (hskip : skip r.verbose r.rest = '|' :: cs)
      (hrest : Parses opened (p.nextBranch ('|' :: cs)) { r with rest := cs } tree after) :
      Parses opened p r tree after
  | directive {opened p r cs switches rest tree after} (hskip : skip r.verbose r.rest = '(' :: cs)
      (hopening : groupOpening r.verbose r.names ('(' :: cs) = .ok (.directive switches, rest))
      (hrest : Parses opened (p.push (.flags (between ('(' :: cs) rest) switches))
        { r with rest, verbose := stateAfter switches .verbose r.verbose } tree after) :
      Parses opened p r tree after
  | capture {opened p r cs name rest body inner tree after}
      (hskip : skip r.verbose r.rest = '(' :: cs)
      (hopening : groupOpening r.verbose r.names ('(' :: cs) = .ok (.capture name, rest))
      (hbody : Parses (some (here ('(' :: cs))) (.begin rest)
        { r with rest, groups := r.groups + 1, names := name.toList ++ r.names } body inner)
      (hrest : Parses opened
        (p.push (.group (between ('(' :: cs) inner.rest.tail)
          (.capture (r.groups + 1) (name.map (·.1))) body))
        { inner with rest := inner.rest.tail, verbose := r.verbose } tree after) :
      Parses opened p r tree after
  | plain {opened p r cs switches rest body inner tree after}
      (hskip : skip r.verbose r.rest = '(' :: cs)
      (hopening : groupOpening r.verbose r.names ('(' :: cs) = .ok (.plain switches, rest))
      (hbody : Parses (some (here ('(' :: cs))) (.begin rest)
        { r with rest, verbose := stateAfter switches .verbose r.verbose } body inner)
      (hrest : Parses opened
        (p.push (.group (between ('(' :: cs) inner.rest.tail) (.plain switches) body))
        { inner with rest := inner.rest.tail, verbose := r.verbose } tree after) :
      Parses opened p r tree after
  | bracket {opened p r cs item rest tree after} (hskip : skip r.verbose r.rest = '[' :: cs)
      (hitem : bracketClass r.verbose ('[' :: cs) = .ok (item, rest))
      (hrest : Parses opened (p.push item) { r with rest } tree after) :
      Parses opened p r tree after
  | repetition {opened p r c cs body p' count rest tree after}
      (hskip : skip r.verbose r.rest = c :: cs) (hc : c = '?' ∨ c = '*' ∨ c = '+' ∨ c = '\x7b')
      (hpop : p.popOperand (c :: cs) = .ok (body, p'))
      (hcount : repetition r.verbose (c :: cs) = .ok (count, rest))
      (hrest : Parses opened
        (p'.push (.repetition ⟨body.extent.start, rest.length⟩ count.min count.max count.greedy
          body)) { r with rest } tree after) : Parses opened p r tree after
  | atom {opened p r c cs a rest tree after} (hskip : skip r.verbose r.rest = c :: cs)
      (hc : c ∉ operators) (hatom : plainAtom r.verbose (c :: cs) = .ok (a, rest))
      (hrest : Parses opened (p.push (.atom a)) { r with rest } tree after) :
      Parses opened p r tree after

variable {opened : Option Extent} {p : Partial} {r after : Reader} {tree : Tree} {fuel : Nat}

theorem parses_of_sequence (h : sequence opened fuel p r = .ok (tree, after)) :
    Parses opened p r tree after := by
  induction fuel generalizing opened p r tree after with
  | zero => cases h
  | succ fuel ih =>
    unfold sequence at h
    dsimp only at h
    split at h
    next hskip =>
      cases opened with
      | some e => cases h
      | none =>
        cases h
        exact .done hskip
    next cs hskip =>
      cases opened with
      | none => cases h
      | some e =>
        rw [hskip] at h
        cases h
        exact .close hskip
    next cs hskip =>
      rw [hskip] at h
      exact .branch hskip (ih h)
    next cs hskip =>
      rw [hskip] at h
      obtain ⟨⟨opening, rest⟩, hopening, h⟩ := Except.bind_eq_ok_iff.1 h
      cases opening with
      | directive switches => exact .directive hskip hopening (ih h)
      | capture name =>
        obtain ⟨⟨body, inner⟩, hbody, h⟩ := Except.bind_eq_ok_iff.1 h
        exact .capture hskip hopening (ih hbody) (ih h)
      | plain switches =>
        obtain ⟨⟨body, inner⟩, hbody, h⟩ := Except.bind_eq_ok_iff.1 h
        exact .plain hskip hopening (ih hbody) (ih h)
    next cs hskip =>
      rw [hskip] at h
      obtain ⟨⟨item, rest⟩, hitem, h⟩ := Except.bind_eq_ok_iff.1 h
      exact .bracket hskip hitem (ih h)
    next c cs hclose hbar hparen hbracket hskip =>
      rw [hskip] at h
      split at h
      next hc =>
        obtain ⟨⟨body, p'⟩, hpop, h⟩ := Except.bind_eq_ok_iff.1 h
        obtain ⟨⟨count, rest⟩, hcount, h⟩ := Except.bind_eq_ok_iff.1 h
        exact .repetition hskip hc hpop hcount (ih h)
      next hc =>
        obtain ⟨⟨a, rest⟩, hatom, h⟩ := Except.bind_eq_ok_iff.1 h
        refine .atom hskip ?_ hatom (ih h)
        intro hmem
        simp only [operators, List.mem_cons, List.not_mem_nil, or_false] at hmem
        rcases hmem with rfl | rfl | rfl | rfl | hmem
        · exact hclose rfl
        · exact hbar rfl
        · exact hparen rfl
        · exact hbracket rfl
        · exact hc hmem

/-- What one step more brings is brought by enough steps, if what comes before it is. -/
theorem exists_le_of_succ {P Q : Nat → Prop} (h : ∃ n, ∀ fuel, n ≤ fuel → P fuel)
    (hstep : ∀ fuel, P fuel → Q (fuel + 1)) : ∃ n, ∀ fuel, n ≤ fuel → Q fuel := by
  obtain ⟨n, hn⟩ := h
  refine ⟨n + 1, fun fuel hle => ?_⟩
  obtain ⟨m, rfl⟩ := Nat.exists_eq_add_of_le' hle
  exact hstep (m + n) (hn (m + n) (Nat.le_add_left n m))

theorem exists_le_and {P Q : Nat → Prop} (hP : ∃ n, ∀ fuel, n ≤ fuel → P fuel)
    (hQ : ∃ n, ∀ fuel, n ≤ fuel → Q fuel) : ∃ n, ∀ fuel, n ≤ fuel → P fuel ∧ Q fuel := by
  obtain ⟨n, hn⟩ := hP
  obtain ⟨m, hm⟩ := hQ
  exact ⟨max n m, fun fuel hle => ⟨hn fuel (by omega), hm fuel (by omega)⟩⟩

theorem Parses.sequence_eq_ok (h : Parses opened p r tree after) :
    ∃ n, ∀ fuel, n ≤ fuel → sequence opened fuel p r = .ok (tree, after) := by
  induction h with
  | done hskip | close hskip =>
    refine exists_le_of_succ (P := fun _ => True) ⟨0, fun _ _ => trivial⟩ fun fuel _ => ?_
    unfold sequence
    simp only [hskip]
    rfl
  | branch hskip _ ih =>
    refine exists_le_of_succ ih fun fuel h => ?_
    unfold sequence
    simp only [hskip]
    exact h
  | directive hskip hopening _ ih =>
    refine exists_le_of_succ ih fun fuel h => ?_
    unfold sequence
    simp only [hskip, hopening]
    exact h
  | capture hskip hopening _ _ ihbody ih | plain hskip hopening _ _ ihbody ih =>
    refine exists_le_of_succ (exists_le_and ihbody ih) fun fuel ⟨hbody, hrest⟩ => ?_
    unfold sequence
    simp only [hskip, hopening, bind, Except.bind, hbody, hrest]
  | bracket hskip hitem _ ih =>
    refine exists_le_of_succ ih fun fuel h => ?_
    unfold sequence
    simp only [hskip, hitem]
    exact h
  | repetition hskip hc hpop hcount _ ih =>
    refine exists_le_of_succ ih fun fuel h => ?_
    unfold sequence
    rcases hc with rfl | rfl | rfl | rfl <;> simp only [hskip, hpop, hcount] <;> exact h
  | atom hskip hc hatom _ ih =>
    refine exists_le_of_succ ih fun fuel h => ?_
    unfold sequence
    simp only [operators, List.mem_cons, List.not_mem_nil, or_false, not_or] at hc
    obtain ⟨hclose, hbar, hparen, hbracket, hc⟩ := hc
    dsimp only
    rw [hskip]
    split
    next heq => cases heq
    next heq => exact absurd (List.cons.inj heq).1 hclose
    next heq => exact absurd (List.cons.inj heq).1 hbar
    next heq => exact absurd (List.cons.inj heq).1 hparen
    next heq => exact absurd (List.cons.inj heq).1 hbracket
    next heq =>
      cases heq
      rw [if_neg (by simpa only [not_or] using hc), hatom]
      exact h

/-- A sequence can be read in one way. -/
theorem Parses.unique {tree' : Tree} {after' : Reader} (h : Parses opened p r tree after)
    (h' : Parses opened p r tree' after') : tree = tree' ∧ after = after' := by
  obtain ⟨n, hn⟩ := h.sequence_eq_ok
  obtain ⟨n', hn'⟩ := h'.sequence_eq_ok
  have heq := (hn (max n n') (by omega)).symm.trans (hn' (max n n') (by omega))
  rw [Except.ok.injEq, Prod.mk.injEq] at heq
  exact heq

/-- A pattern that compiles has a tree, which means the expression of the program. -/
theorem exists_tree_of_compile {limits : Limits} {mode : Mode} {source : String} {regex : Regex}
    (h : compile limits mode source = .ok regex) :
    ∃ tree e m, Tree.parse mode.verbose source.toList = .ok tree ∧
      tree.toExpr mode = .ok (e, m) ∧ regex = ⟨source, .ofExpr e, e.groupNames⟩ := by
  rw [compile] at h
  split at h
  · cases h
  next e he =>
    split at h
    · cases h
    cases h
    obtain ⟨tree, htree, he⟩ := Except.bind_eq_ok_iff.1 he
    obtain ⟨-, -, he⟩ := Except.bind_eq_ok_iff.1 he
    obtain ⟨⟨_, m⟩, hexpr, rfl⟩ := Except.map_eq_ok_iff.1 he
    exact ⟨tree, _, m, htree, hexpr, rfl⟩

/-- A pattern that compiles has been read to its end. -/
theorem exists_of_compile {limits : Limits} {mode : Mode} {source : String} {regex : Regex}
    (h : compile limits mode source = .ok regex) :
    ∃ tree after e m, Parses none (.begin source.toList)
        { rest := source.toList, verbose := mode.verbose } tree after ∧
      tree.toExpr mode = .ok (e, m) ∧ regex = ⟨source, .ofExpr e, e.groupNames⟩ := by
  obtain ⟨tree, e, m, htree, hexpr, hregex⟩ := exists_tree_of_compile h
  obtain ⟨⟨_, after⟩, hsequence, rfl⟩ := Except.map_eq_ok_iff.1 htree
  exact ⟨_, after, e, m, parses_of_sequence hsequence, hexpr, hregex⟩

end Munch.Regex
