import Munch.Proofs.Flags
import Munch.Proofs.Text.Quoted

/-!
# What the written form of a pattern tells

Two patterns are written alike only if both are verbatim texts or neither is, their texts are the
same and so are their flags. A text between quotes can be read in one way only. An expression stands
between slashes as it is, also if it has slashes itself; but there is none among the letters of the
flags, so the last slash of the written form is the one that ends the expression. Only whether an
expression has been compiled before is not told.

* `Pattern.render_eq_iff`: when two patterns are written alike.
* `Pattern.Described.eq_of_render`: patterns as a caller describes them.
* `Pattern.render_unambiguous`: what is known of a pattern that is written like another one.
-/

namespace Munch.Pattern

/-- The flags that stand in the written form: those of an expression that has not been compiled. -/
def flags : Pattern → Flags
  | literal _ => .empty
  | regex _ flags => flags
  | compiled _ => .empty

variable {p q : Pattern}

theorem eq_literal_of_isLiteral (h : p.isLiteral = true) : p = literal p.text := by
  cases p with
  | literal text => rfl
  | regex | compiled => cases h

/-- Verbatim texts are told from expressions by the first character of their written form. -/
theorem isLiteral_eq_head (p : Pattern) :
    p.isLiteral = (p.renderChars.head? == some '"') := by
  cases p <;> rfl

theorem renderChars_of_not_isLiteral (h : p.isLiteral = false) :
    p.renderChars = '/' :: (p.text.toList ++ '/' :: p.flags.letters) := by
  cases p with
  | literal text => cases h
  | regex source flags => rfl
  | compiled r =>
    have hletters : Flags.empty.letters = [] := by decide
    rw [flags, hletters]
    rfl

theorem text_and_letters_of_renderChars (hp : p.isLiteral = false) (hq : q.isLiteral = false)
    (h : p.renderChars = q.renderChars) : p.text = q.text ∧ p.flags.letters = q.flags.letters := by
  rw [renderChars_of_not_isLiteral hp, renderChars_of_not_isLiteral hq, List.cons.injEq] at h
  -- Read backwards, the slash that ends the expression is the first one.
  replace h := congrArg List.reverse h.2
  simp only [List.reverse_append, List.reverse_cons, List.append_assoc,
    List.singleton_append] at h
  have hslash : ∀ s : Flags, '/' ∉ s.letters.reverse := fun s hmem =>
    s.slash_notMem_letters (List.mem_reverse.1 hmem)
  obtain ⟨hletters, htext⟩ := Text.append_cons_inj (hslash _) (hslash _) h
  exact ⟨String.toList_inj.1 (List.reverse_inj.1 htext), List.reverse_inj.1 hletters⟩

/-- Two patterns are written alike if and only if they are of one kind, with the same text and the
same flags. -/
theorem render_eq_iff : p.render = q.render ↔
    p.isLiteral = q.isLiteral ∧ p.text = q.text ∧ ∀ f, p.flags.has f = q.flags.has f := by
  rw [render, render, String.ofList_inj, ← Flags.letters_eq_iff]
  constructor
  · intro h
    have hkind : p.isLiteral = q.isLiteral := by rw [isLiteral_eq_head, isLiteral_eq_head, h]
    cases hq : q.isLiteral with
    | false => exact ⟨hkind.trans hq, text_and_letters_of_renderChars (hkind.trans hq) hq h⟩
    | true =>
      rw [eq_literal_of_isLiteral (hkind.trans hq), eq_literal_of_isLiteral hq] at h ⊢
      exact ⟨rfl, String.toList_inj.1 (Text.quoteChars_injective h), rfl⟩
  · rintro ⟨hkind, htext, hletters⟩
    cases hq : q.isLiteral with
    | false =>
      rw [renderChars_of_not_isLiteral (hkind.trans hq), renderChars_of_not_isLiteral hq, htext,
        hletters]
    | true =>
      rw [eq_literal_of_isLiteral (hkind.trans hq), eq_literal_of_isLiteral hq, htext]

/-- A pattern that is written like an expression that has been compiled is an expression with the
same text, which has been compiled as well or has no flags. -/
theorem of_render_compiled {r : Regex} (h : (compiled r).render = q.render) :
    (∃ flags, q = regex r.source flags ∧ ∀ f, flags.has f = false) ∨
    ∃ r', q = compiled r' ∧ r'.source = r.source := by
  obtain ⟨hkind, htext, hflags⟩ := render_eq_iff.1 h
  cases q with
  | literal text => cases hkind
  | regex source flags =>
    cases htext
    exact .inl ⟨flags, rfl, fun f => (hflags f).symm.trans (Flags.has_empty f)⟩
  | compiled r' => exact .inr ⟨r', rfl, htext.symm⟩

/-! ## Patterns that are described by texts -/

/-- A verbatim text, or an expression with the flags that a text spells. -/
inductive Described : Pattern → Prop where
  | verbatim (text : String) : Described (literal text)
  | expression {source letters : String} {p : Pattern} (h : regexWithFlags source letters = .ok p) :
    Described p

theorem exists_of_regexWithFlags {source letters : String}
    (h : regexWithFlags source letters = .ok p) :
    ∃ flags, p = regex source flags ∧ flags.SpelledBy letters.toList := by
  rw [regexWithFlags] at h
  split at h
  next flags hflags =>
    cases h
    exact ⟨flags, rfl, Flags.parse_eq_ok_iff.1 hflags⟩
  next => cases h

namespace Described

/-- The bit that means no flag is not set. -/
theorem highest (h : p.Described) : p.flags.bits.getLsbD 7 = false := by
  cases h with
  | verbatim text => exact (rfl : Flags.empty.bits.getLsbD 7 = false)
  | expression h =>
    obtain ⟨flags, rfl, hflags⟩ := exists_of_regexWithFlags h
    exact hflags.highest

/-- A pattern that is described has nothing but its kind, its text and its flags. -/
theorem eq_ite (h : p.Described) :
    p = if p.isLiteral then literal p.text else regex p.text p.flags := by
  cases h with
  | verbatim text => rfl
  | expression h =>
    obtain ⟨flags, rfl, -⟩ := exists_of_regexWithFlags h
    rfl

theorem eq_of_render (hp : p.Described) (hq : q.Described) (h : p.render = q.render) : p = q := by
  obtain ⟨hkind, htext, hhas⟩ := render_eq_iff.1 h
  have hflags : p.flags = q.flags := Flags.eq_of_has hp.highest hq.highest hhas
  calc p = if p.isLiteral then literal p.text else regex p.text p.flags := hp.eq_ite
    _ = if q.isLiteral then literal q.text else regex q.text q.flags := by
      rw [hkind, htext, hflags]
    _ = q := hq.eq_ite.symm

end Described

/-- Two patterns are written alike if and only if they are of one kind, with the same text and the
same flags. So verbatim texts and expressions with flags that a text spells are written alike only
if they are the same. And an expression that has been compiled is written only like one of the same
text, which has been compiled as well or has no flags. -/
theorem render_unambiguous :
    (∀ p q : Pattern, p.render = q.render ↔
      p.isLiteral = q.isLiteral ∧ p.text = q.text ∧ ∀ f, p.flags.has f = q.flags.has f) ∧
    (∀ p q : Pattern, p.Described → q.Described → p.render = q.render → p = q) ∧
    ∀ (r : Regex) (q : Pattern), (compiled r).render = q.render →
      (∃ flags, q = regex r.source flags ∧ (∀ f, flags.has f = false) ∧
        (q.Described → flags = .empty)) ∨
      ∃ r', q = compiled r' ∧ r'.source = r.source := by
  refine ⟨fun p q => render_eq_iff, fun p q hp hq => hp.eq_of_render hq, fun r q h => ?_⟩
  obtain ⟨flags, rfl, hnone⟩ | hcompiled := of_render_compiled h
  · refine .inl ⟨flags, rfl, hnone, fun hq => Flags.eq_of_has hq.highest rfl fun f => ?_⟩
    rw [hnone, Flags.has_empty]
  · exact .inr hcompiled

/-- An expression with a slash in it and a letter behind that, with flags that are spelled in two
ways, and compiled before. The text with the same characters is written in another way, and so are
a line end and the two characters that stand for it between quotes. -/
theorem render_unambiguous_slash :
    ∃ (p q : Pattern) (r : Regex), regexWithFlags "a/i" "mgm" = .ok p ∧
      regexWithFlags "a/i" "m" = .ok q ∧ p.Described ∧ q.Described ∧ p.render = q.render ∧ p = q ∧
      p.render = "/a/i/m" ∧ p.render ≠ (literal "/a/i/m").render ∧
      (literal "\u0301\n").render ≠ (literal "\u0301\\n").render ∧
      Regex.compile {} {} "a/i" = .ok r ∧ (compiled r).render = (regex "a/i" .empty).render ∧
      r.source = "a/i" := by
  let p : Pattern := (regexWithFlags "a/i" "mgm").toOption.getD default
  let q : Pattern := (regexWithFlags "a/i" "m").toOption.getD default
  let r : Regex := (Regex.compile {} {} "a/i").toOption.getD default
  have hp : regexWithFlags "a/i" "mgm" = .ok p := by decide +kernel
  have hq : regexWithFlags "a/i" "m" = .ok q := by decide +kernel
  have hr : Regex.compile {} {} "a/i" = .ok r := by decide +kernel
  have hpq : p.render = q.render := by decide +kernel
  have hrender : (compiled r).render = (regex "a/i" .empty).render := by decide +kernel
  obtain ⟨hiff, hsame, hcompiled⟩ := render_unambiguous
  have hkind : ¬ p.isLiteral = (literal "/a/i/m").isLiteral := by decide +kernel
  have htext : ¬ (literal "\u0301\n").text = (literal "\u0301\\n").text := by decide +kernel
  have hsource : r.source = "a/i" := by
    obtain ⟨flags, heq, -⟩ | ⟨r', heq, -⟩ := hcompiled r _ hrender
    · exact (Pattern.regex.inj heq).1.symm
    · cases heq
  exact ⟨p, q, r, hp, hq, .expression hp, .expression hq, hpq,
    hsame p q (.expression hp) (.expression hq) hpq, by decide +kernel,
    fun h => hkind ((hiff _ _).1 h).1, fun h => htext ((hiff _ _).1 h).2.1, hr, hrender, hsource⟩

end Munch.Pattern
