import Munch.Proofs.Matcher

/-!
# Where groups stand

A way through a program opens and closes groups at the places that it comes to. So whatever program
it is, the groups of a match begin and end at places of the text, one behind the other, and within
the match.

* `Captures.Within`: all that is held of groups lies between two places.
* `attempt_within`: a way that is completed keeps it so.
* `Matcher.within_of_matchAt`: the groups of a match.
-/

namespace Munch

namespace Regex

/-- All that is held of groups lies between the places `p` and `q`. -/
structure Captures.Within (captures : Captures) (p q : Cursor) : Prop where
  opened : ∀ g ∈ captures.opened, ∃ r, p.Precedes r ∧ r.Precedes q ∧ r.offset = g.2
  spans : ∀ g ∈ captures.spans, ∃ r s, p.Precedes r ∧ r.Precedes s ∧ s.Precedes q ∧
    g.2 = ⟨r.offset, s.offset⟩

namespace Captures.Within

variable {captures : Captures} {p q q' : Cursor}

theorem empty (p q : Cursor) : Within {} p q := ⟨nofun, nofun⟩

theorem mono (h : captures.Within p q) (hq : q.Precedes q') : captures.Within p q' where
  opened g hg := by
    obtain ⟨r, hr, hrq, hg⟩ := h.opened g hg
    exact ⟨r, hr, hrq.trans hq, hg⟩
  spans g hg := by
    obtain ⟨r, s, hr, hrs, hsq, hg⟩ := h.spans g hg
    exact ⟨r, s, hr, hrs, hsq.trans hq, hg⟩

theorem opening (h : captures.Within p q) (hpq : p.Precedes q) (group : Nat) :
    (captures.opening group q.offset).Within p q where
  opened g hg := by
    rcases List.mem_cons.1 hg with rfl | hg
    · exact ⟨q, hpq, .refl q, rfl⟩
    · exact h.opened g hg
  spans := h.spans

theorem closing (h : captures.Within p q) (group : Nat) :
    (captures.closing group q.offset).Within p q := by
  rw [Captures.closing]
  split
  next start hstart =>
    obtain ⟨l₁, l₂, heq, -⟩ := List.lookup_eq_some_iff.1 hstart
    refine ⟨h.opened, fun g hg => ?_⟩
    rcases List.mem_cons.1 hg with rfl | hg
    · obtain ⟨r, hr, hrq, hoffset⟩ := h.opened (group, start) (by rw [heq]; simp)
      exact ⟨r, q, hr, hrq, .refl q, by rw [hoffset]⟩
    · exact h.spans g hg
  · exact h

/-- The span of a group is that of its last round. -/
theorem span? (h : captures.Within p q) {group : Nat} {span : Span}
    (hspan : captures.span? group = some span) :
    ∃ r s, p.Precedes r ∧ r.Precedes s ∧ s.Precedes q ∧ span = ⟨r.offset, s.offset⟩ := by
  obtain ⟨l₁, l₂, heq, -⟩ := List.lookup_eq_some_iff.1 hspan
  exact h.spans (group, span) (by rw [heq]; simp)

end Captures.Within

/-- A way that is completed opens and closes groups between the places where it begins and ends. -/
theorem attempt_within {code : Array Inst} {stack : List Nat} {p q : Cursor} {pc stop : Nat}
    {captures captures' : Captures}
    (h : attempt code stack q pc captures = some (stop, captures')) (hpq : p.Precedes q)
    (hc : captures.Within p q) :
    ∃ q', q.Precedes q' ∧ q'.offset = stop ∧ captures'.Within p q' := by
  fun_induction attempt code stack q pc captures with
  | case3 stack q pc captures hs hi =>
    simp only [Option.some.injEq, Prod.mk.injEq] at h
    exact ⟨q, .refl q, h.1, h.2 ▸ hc⟩
  | case5 stack q pc captures hs set next hi c cs hr hset ih =>
    have hq := Cursor.Precedes.of_cons hr
    obtain ⟨q', hq', hstop, hc'⟩ := ih h (hpq.trans hq) (hc.mono hq)
    exact ⟨q', hq.trans hq', hstop, hc'⟩
  | case7 stack q pc captures hs l next hi hl ih => exact ih h hpq hc
  | case9 stack q pc captures hs group next hi ih => exact ih h hpq (hc.opening hpq group)
  | case10 stack q pc captures hs group next hi ih => exact ih h hpq (hc.closing group)
  | case11 stack q pc captures hs first second hi ih₁ ih₂ =>
    rcases Option.or_eq_some_iff.1 h with h | ⟨-, h⟩
    · exact ih₁ h hpq hc
    · exact ih₂ h hpq hc
  | _ => cases h

end Regex

namespace Matcher

variable {m : Matcher} {p : Cursor} {x : Match}

/-- A group that takes part in a match begins and ends within the match, at places of the text. -/
theorem within_of_matchAt (h : m.matchAt p = some x) {i : Nat} {span : Span}
    (hspan : x.groupSpan i = some span) :
    ∃ r s q, p.Precedes r ∧ r.Precedes s ∧ s.Precedes q ∧ q.offset = x.span.stop ∧
      span = ⟨r.offset, s.offset⟩ := by
  cases i with
  | zero =>
    cases hspan
    obtain ⟨q, hq, hstop⟩ := stop_of_matchAt h
    have hstart : x.span.start = p.offset := start_of_matchAt h
    exact ⟨p, q, q, .refl p, hq, .refl q, hstop, by rw [← hstart, hstop]⟩
  | succ i =>
    cases m with
    | literal needle =>
      obtain ⟨-, rfl⟩ := matchAt_literal_eq_some_iff.1 h
      cases hspan
    | regex r =>
      simp only [matchAt, Regex.matchAt, Regex.Program.matchAt, Option.map_map,
        Option.map_eq_some_iff] at h
      obtain ⟨⟨stop, captures⟩, hattempt, rfl⟩ := h
      obtain ⟨q, -, hstop, hwithin⟩ := Regex.attempt_within hattempt (.refl p) (.empty p p)
      rw [Match.groupSpan, Option.join_eq_some_iff, Function.comp_apply, List.getElem?_map,
        Option.map_eq_some_iff] at hspan
      obtain ⟨j, -, hspan⟩ := hspan
      obtain ⟨r', s, hr, hrs, hsq, rfl⟩ := hwithin.span? hspan
      exact ⟨r', s, q, hr, hrs, hsq, hstop, rfl⟩

end Matcher

end Munch
