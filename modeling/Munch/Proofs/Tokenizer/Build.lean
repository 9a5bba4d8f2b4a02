import Munch.Proofs.Except
import Munch.Proofs.Tokenizer
import Munch.Session

/-!
# Definitions that make no tokenizer

Only regular expressions that are compiled when a tokenizer is built can make it fail, and the first
of them that does not compile is reported. Whether a definition compiles, and what is wrong with it,
does not depend on the other definitions. If all compile, each definition makes the type of its
number.

* `Definition.FailsWith`: what is wrong with a definition.
* `Tokenizer.build_eq_error_iff`, `Tokenizer.exists_type_of_build`: the definition that is reported,
  and the types if there is none.
* `Tokenizer.build_reports`: all of what building a tokenizer can come to.
-/

namespace Munch

variable {τ : Type} {config : Config}

/-- The definition is a regular expression that does not compile, for the reason `error`. -/
def Definition.FailsWith (config : Config) (d : Definition τ) (error : Regex.CompileError) : Prop :=
  ∃ source flags, d.pattern = .regex source flags ∧
    Regex.compile config.limits flags.mode source = .error error

/-- Verbatim texts and expressions that have been compiled before always have a matcher. -/
theorem Definition.matcher_eq_error_iff {d : Definition τ} {error : Regex.CompileError} :
    d.pattern.matcher config = .error error ↔ d.FailsWith config error := by
  rw [FailsWith]
  cases d.pattern with
  | literal text => simp [Pattern.matcher]
  | compiled r => simp [Pattern.matcher]
  | regex source flags =>
    rw [Pattern.matcher, Except.map_eq_error_iff]
    constructor
    · exact fun h => ⟨source, flags, rfl, h⟩
    · rintro ⟨source', flags', hpattern, h⟩
      cases hpattern
      exact h

theorem Definition.exists_matcher_iff {d : Definition τ} :
    (∃ matcher, d.pattern.matcher config = .ok matcher) ↔ ∀ error, ¬ d.FailsWith config error := by
  simp only [← matcher_eq_error_iff]
  cases d.pattern.matcher config with
  | error error => simp
  | ok matcher => simp

/-- Of definitions that fail one is the first. -/
theorem Definition.exists_first {defs : List (Definition τ)}
    (h : ∃ d ∈ defs, ∃ error, d.FailsWith config error) : ∃ before d after error,
      defs = before ++ d :: after ∧ (∀ d' ∈ before, ∀ error', ¬ d'.FailsWith config error') ∧
      d.FailsWith config error := by
  induction defs with
  | nil => simp at h
  | cons d ds ih =>
    by_cases hd : ∃ error, d.FailsWith config error
    · obtain ⟨error, hfails⟩ := hd
      exact ⟨[], d, ds, error, rfl, by simp, hfails⟩
    · have hds : ∃ d' ∈ ds, ∃ error, d'.FailsWith config error := by simpa [hd] using h
      obtain ⟨before, d', after, error, rfl, hbefore, hfails⟩ := ih hds
      exact ⟨d :: before, d', after, error, rfl,
        List.forall_mem_cons.2 ⟨not_exists.1 hd, hbefore⟩, hfails⟩

namespace Tokenizer

/-- A definition that does not compile is reported, if those in front of it compile. -/
theorem typesFrom_of_fails {index : Nat} {before after : List (Definition τ)} {d : Definition τ}
    {error : Regex.CompileError} (hbefore : ∀ d' ∈ before, ∀ error', ¬ d'.FailsWith config error')
    (hfails : d.FailsWith config error) : typesFrom config index (before ++ d :: after) =
      .error (.compile (index + before.length) d.pattern.text error) := by
  induction before generalizing index with
  | nil =>
    rw [List.nil_append, typesFrom, Definition.matcher_eq_error_iff.2 hfails]
    rfl
  | cons d' before ih =>
    obtain ⟨hd', hbefore⟩ := List.forall_mem_cons.1 hbefore
    obtain ⟨matcher, hmatcher⟩ := Definition.exists_matcher_iff.2 hd'
    rw [List.cons_append, typesFrom, hmatcher, List.length_cons, Nat.add_comm before.length,
      ← Nat.add_assoc]
    exact Except.map_eq_error_iff.2 (ih hbefore)

variable {defs : List (Definition τ)} {t : Tokenizer τ}

theorem build_of_fails {before after : List (Definition τ)} {d : Definition τ}
    {error : Regex.CompileError} (hbefore : ∀ d' ∈ before, ∀ error', ¬ d'.FailsWith config error')
    (hfails : d.FailsWith config error) :
    build config (before ++ d :: after) = .error (.compile before.length d.pattern.text error) := by
  rw [build, Except.map_eq_error_iff, typesFrom_of_fails hbefore hfails, Nat.zero_add]

theorem exists_build_error_iff : (∃ e, build config defs = .error e) ↔
    ∃ d ∈ defs, ∃ error, d.FailsWith config error := by
  have hok := exists_build_iff config defs
  simp only [Definition.exists_matcher_iff] at hok
  cases hbuild : build config defs with
  | ok t => simpa [hbuild] using hok
  | error e => simpa [hbuild] using hok

/-- The first definition that does not compile is reported, with its number, its text and what is
wrong with it. -/
theorem build_eq_error_iff {e : PatternError} : build config defs = .error e ↔
    ∃ before d after error, defs = before ++ d :: after ∧
      (∀ d' ∈ before, ∀ error', ¬ d'.FailsWith config error') ∧ d.FailsWith config error ∧
      e = .compile before.length d.pattern.text error := by
  constructor
  · intro h
    obtain ⟨before, d, after, error, rfl, hbefore, hfails⟩ :=
      Definition.exists_first (exists_build_error_iff.1 ⟨e, h⟩)
    rw [build_of_fails hbefore hfails, Except.error.injEq] at h
    exact ⟨before, d, after, error, rfl, hbefore, hfails, h.symm⟩
  · rintro ⟨before, d, after, error, rfl, hbefore, hfails, rfl⟩
    exact build_of_fails hbefore hfails

/-- The definitions of a tokenizer have its types, one by one. -/
theorem exists_type_of_build (h : build config defs = .ok t) {k : Nat} {d : Definition τ}
    (hd : defs[k]? = some d) : ∃ matcher, d.pattern.matcher config = .ok matcher ∧
      t.types[k]? = some ⟨d.tag, d.pattern, matcher, k⟩ := by
  obtain ⟨matcher, hmatcher⟩ :=
    (exists_build_iff config defs).1 ⟨t, h⟩ d (List.mem_of_getElem? hd)
  exact ⟨matcher, hmatcher, (getElem?_types_eq_some_iff h).2 ⟨rfl, hd, hmatcher⟩⟩

theorem length_types_of_build (h : build config defs = .ok t) : t.types.length = defs.length := by
  simpa using congrArg List.length (map_matcher_typesFrom (build_eq_ok_iff.1 h).1)

/-- No tokenizer is built if and only if some regular expression does not compile. Then the first of
them is reported, with its number, its text and what is wrong with it by itself. Otherwise there is
one type for each definition, with its tag, its pattern, its number and the matcher of its pattern.
Definitions that are used once are refused in the same way. -/
theorem build_reports (config : Config) (defs : List (Definition τ)) :
    ((∃ e, build config defs = .error e) ↔ ∃ d ∈ defs, ∃ error, d.FailsWith config error) ∧
    (∀ e, build config defs = .error e ↔ ∃ before d after error, defs = before ++ d :: after ∧
      (∀ d' ∈ before, ∀ error', ¬ d'.FailsWith config error') ∧ d.FailsWith config error ∧
      e = .compile before.length d.pattern.text error) ∧
    (∀ t, build config defs = .ok t → t.config = config ∧ t.types.length = defs.length ∧
      ∀ (k : Nat) d, defs[k]? = some d → ∃ matcher, d.pattern.matcher config = .ok matcher ∧
        t.types[k]? = some ⟨d.tag, d.pattern, matcher, k⟩) ∧
    ∀ source e, tokenize defs source = .error e ↔ build {} defs = .error e := by
  refine ⟨exists_build_error_iff, fun e => build_eq_error_iff, fun t h => ?_, fun source e => ?_⟩
  · exact ⟨(build_eq_ok_iff.1 h).2, length_types_of_build h, fun k d => exists_type_of_build h⟩
  · exact Except.map_eq_error_iff

/-- A verbatim text is no expression, and of two expressions that do not compile the first is
reported. -/
theorem build_reports_unclosed :
    let defs : List (Definition Nat) :=
      [⟨0, .literal "("⟩, ⟨1, .regex "a(" .empty⟩, ⟨2, .regex "[" .empty⟩]
    ∃ error, (∃ d ∈ defs, d.FailsWith {} error) ∧
      build {} defs = .error (.compile 1 "a(" error) ∧
      ∀ source, tokenize defs source = .error (.compile 1 "a(" error) := by
  intro defs
  let error : Regex.CompileError := .malformed "a(" ⟨.groupUnclosed, ⟨1, 0⟩, none⟩
  have hfails : (⟨1, .regex "a(" .empty⟩ : Definition Nat).FailsWith {} error :=
    ⟨"a(", .empty, rfl, by decide +kernel⟩
  have hverbatim : ∀ error, ¬ (⟨0, .literal "("⟩ : Definition Nat).FailsWith {} error := by
    rintro error ⟨source, flags, hpattern, -⟩
    cases hpattern
  obtain ⟨-, herror, -, htokenize⟩ := build_reports {} defs
  have hbuild : build {} defs = .error (.compile 1 "a(" error) :=
    (herror _).2 ⟨[_], _, _, error, rfl, by simpa using hverbatim, hfails, rfl⟩
  exact ⟨error, ⟨_, by simp [defs], hfails⟩, hbuild, fun source => (htokenize source _).2 hbuild⟩

end Tokenizer

end Munch
