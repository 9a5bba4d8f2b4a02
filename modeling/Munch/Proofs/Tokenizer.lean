import Munch.Tokenizer
import Mathlib.Tactic.Common

/-!
# Numbers of definitions

A tokenizer keeps its definitions in order: type number `k` is made of definition number `k`.

* `Tokenizer.of_build`, `Tokenizer.getElem?_types_eq_some_iff`: what a type of a tokenizer has to do
  with the definitions.
* `Tokenizer.exists_build_iff`: which definitions a tokenizer can be made of.
* `Tokenizer.mem_matchers_iff`: its matchers, without their order.
-/

namespace Munch.Tokenizer

variable {τ : Type} {config : Config}

/-- What the definitions from number `index` on are made to. -/
theorem of_typesFrom {index : Nat} {defs : List (Definition τ)} {types : List (TokenType τ)}
    (h : typesFrom config index defs = .ok types) {k : Nat} {type : TokenType τ}
    (hk : types[k]? = some type) :
    type.index = index + k ∧ defs[k]? = some ⟨type.tag, type.pattern⟩ ∧
      type.pattern.matcher config = .ok type.matcher := by
  induction defs generalizing index types k with
  | nil =>
    cases h
    cases hk
  | cons d ds ih =>
    rw [typesFrom] at h
    split at h
    · cases h
    next matcher hmatcher =>
      cases hds : typesFrom config (index + 1) ds with
      | error e =>
        rw [hds] at h
        cases h
      | ok rest =>
        rw [hds] at h
        cases h
        cases k with
        | zero =>
          cases hk
          exact ⟨rfl, rfl, hmatcher⟩
        | succ k =>
          obtain ⟨hindex, hdef, hmatcher⟩ := ih hds hk
          exact ⟨by omega, hdef, hmatcher⟩

theorem exists_typesFrom_iff (config : Config) (index : Nat) (defs : List (Definition τ)) :
    (∃ types, typesFrom config index defs = .ok types) ↔
      ∀ d ∈ defs, ∃ matcher, d.pattern.matcher config = .ok matcher := by
  induction defs generalizing index with
  | nil => simp [typesFrom]
  | cons d ds ih =>
    rw [typesFrom, List.forall_mem_cons, ← ih (index + 1)]
    cases d.pattern.matcher config with
    | error e => simp
    | ok matcher => cases typesFrom config (index + 1) ds <;> simp [Except.map]

theorem map_matcher_typesFrom {index : Nat} {defs : List (Definition τ)}
    {types : List (TokenType τ)} (h : typesFrom config index defs = .ok types) :
    types.map (fun type => .ok type.matcher) = defs.map (·.pattern.matcher config) := by
  induction defs generalizing index types with
  | nil =>
    cases h
    rfl
  | cons d ds ih =>
    rw [typesFrom] at h
    split at h
    · cases h
    next matcher hmatcher =>
      cases hds : typesFrom config (index + 1) ds with
      | error e =>
        rw [hds] at h
        cases h
      | ok rest =>
        rw [hds] at h
        cases h
        rw [List.map_cons, List.map_cons, ih hds, hmatcher]

variable {defs : List (Definition τ)} {t : Tokenizer τ}

/-- What a tokenizer is made of: types from number 0 on, and the configuration as it is given. -/
theorem build_eq_ok_iff :
    build config defs = .ok t ↔ typesFrom config 0 defs = .ok t.types ∧ t.config = config := by
  obtain ⟨types, config'⟩ := t
  rw [build]
  cases typesFrom config 0 defs with
  | error e => simp [Except.map]
  | ok types' => simp [Except.map, eq_comm]

/-- Definitions make a tokenizer if each of them compiles. -/
theorem exists_build_iff (config : Config) (defs : List (Definition τ)) :
    (∃ t, build config defs = .ok t) ↔
      ∀ d ∈ defs, ∃ matcher, d.pattern.matcher config = .ok matcher := by
  rw [← exists_typesFrom_iff config 0]
  constructor
  · rintro ⟨t, ht⟩
    exact ⟨t.types, (build_eq_ok_iff.1 ht).1⟩
  · rintro ⟨types, htypes⟩
    exact ⟨⟨types, config⟩, build_eq_ok_iff.2 ⟨htypes, rfl⟩⟩

/-- The matchers of a tokenizer are those of its definitions. -/
theorem mem_matchers_iff (h : build config defs = .ok t) {matcher : Matcher} :
    matcher ∈ t.types.map (·.matcher) ↔
      ∃ d ∈ defs, d.pattern.matcher config = .ok matcher := by
  have hmap := map_matcher_typesFrom (build_eq_ok_iff.1 h).1
  rw [← List.mem_map, ← hmap, List.mem_map, List.mem_map]
  simp

/-- Type number `k` of a tokenizer is made of definition number `k`. -/
theorem of_build (h : build config defs = .ok t) {k : Nat} {type : TokenType τ}
    (hk : t.types[k]? = some type) :
    type.index = k ∧ defs[k]? = some ⟨type.tag, type.pattern⟩ ∧
      type.pattern.matcher config = .ok type.matcher := by
  rw [build] at h
  cases htypes : typesFrom config 0 defs with
  | error e =>
    rw [htypes] at h
    cases h
  | ok types =>
    rw [htypes] at h
    cases h
    have := of_typesFrom htypes hk
    rwa [Nat.zero_add] at this

/-- The types are known by their numbers and the definitions. -/
theorem getElem?_types_eq_some_iff (h : build config defs = .ok t) {k : Nat}
    {type : TokenType τ} :
    t.types[k]? = some type ↔ type.index = k ∧ defs[k]? = some ⟨type.tag, type.pattern⟩ ∧
      type.pattern.matcher config = .ok type.matcher := by
  refine ⟨of_build h, fun ⟨hindex, hdef, hmatcher⟩ => ?_⟩
  have hlength := congrArg List.length (map_matcher_typesFrom (build_eq_ok_iff.1 h).1)
  rw [List.length_map, List.length_map] at hlength
  obtain ⟨type', htype'⟩ : ∃ type', t.types[k]? = some type' :=
    ⟨_, List.getElem?_eq_getElem (hlength ▸ (List.getElem?_eq_some_iff.1 hdef).1)⟩
  obtain ⟨hindex', hdef', hmatcher'⟩ := of_build h htype'
  obtain ⟨tag, pattern, matcher, index⟩ := type
  obtain ⟨tag', pattern', matcher', index'⟩ := type'
  cases hdef.symm.trans hdef'
  cases hmatcher.symm.trans hmatcher'
  cases hindex.trans hindex'.symm
  exact htype'

end Munch.Tokenizer
