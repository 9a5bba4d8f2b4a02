import Munch.Proofs.Session.PlainScan
import Munch.Proofs.Tokenizer

/-!
# The longest match wins

What each token of a scan is, said by searches from its own offset only: the longest match that
begins right there and is not empty, of the first type that has one of that length, or else the
single character there.

* `Tokenizer.anchoredLength?`: the length of the match that a type has right at an offset.
* `Tokenizer.winner_of_mem_scan`: each token in these terms.
-/

namespace Munch

variable {τ : Type}

/-- The length of the match that type number `k` has right at byte `offset`, if it has one. -/
def Tokenizer.anchoredLength? (t : Tokenizer τ) (source : List Char) (offset k : Nat) :
    Option Nat :=
  (t.types[k]?).bind fun type => (type.anchored? source offset).map (·.length)

namespace Session

theorem Sound.anchoredLength?_eq {s : Session τ} (hs : s.Sound) {t : Tokenizer τ}
    (htypes : s.types = t.types) (k : Nat) :
    t.anchoredLength? s.source s.offset k = (matchAt? s.types s.cursor k).map (·.length) := by
  rw [Tokenizer.anchoredLength?, matchAt?, htypes, Option.map_bind]
  refine Option.bind_congr fun type _ => ?_
  rw [hs.anchored?_eq]
  rfl

/-- Without a winner a step takes the character in front of it. -/
theorem Reads.exists_char {s after : Session τ} {token : Token τ} (h : s.Reads token after)
    (hs : s.Sound) (hw : token.winner = none) :
    ∃ c rest, Text.dropBytes token.index s.source = some (c :: rest) ∧ token.text = [c] := by
  obtain ⟨c, hc⟩ := h.single hw
  have hdrop := hs.cursor.dropBytes
  rw [h.rest, hc] at hdrop
  rw [h.index]
  exact ⟨c, after.cursor.rest, hdrop, hc⟩

end Session

namespace Tokenizer

/-- Each token is a match if and only if some type has a match at its offset that is not empty. Then
it is as long as the longest of these matches, and its type is the first that has one of that
length. Otherwise it is the single character there. -/
theorem winner_of_mem_scan {config : Config} {defs : List (Definition τ)} {t : Tokenizer τ}
    (ht : build config defs = .ok t) {source : List Char} {token : Token τ}
    (htoken : token ∈ t.scan source) :
    (token.winner = none ↔ ∀ k n, t.anchoredLength? source token.index k = some n → n = 0) ∧
    (token.winner = none →
      ∃ c rest, Text.dropBytes token.index source = some (c :: rest) ∧ token.text = [c]) ∧
    ∀ type m, token.winner = some (type, m) →
      t.types[type.index]? = some type ∧ defs[type.index]? = some ⟨type.tag, type.pattern⟩ ∧
      type.anchored? source token.index = some m ∧ m.length = token.length ∧
      ∀ k n, t.anchoredLength? source token.index k = some n →
        n ≤ token.length ∧ (k < type.index → n < token.length) := by
  obtain ⟨s, after, hs, htypes, hsource, hreads⟩ :=
    (Session.sound_session t source).exists_reads htoken
  replace htypes : s.types = t.types := htypes
  replace hsource : s.source = source := hsource
  subst hsource
  have hlength : ∀ k, t.anchoredLength? s.source token.index k =
      (Session.matchAt? s.types s.cursor k).map (·.length) := by
    intro k
    rw [hreads.index]
    exact hs.anchoredLength?_eq htypes k
  refine ⟨?_, hreads.exists_char hs, ?_⟩
  · rw [hreads.winner, Session.winnerAt_eq_none_iff]
    simp only [hlength, Option.map_eq_some_iff, forall_exists_index, and_imp]
    exact ⟨fun h k n x hx hn => hn ▸ h k x hx, fun h j x hx => h j _ x hx rfl⟩
  · intro type m hw
    have hm := hreads.length_match hw
    have hwinner := hreads.winner
    rw [hw, eq_comm] at hwinner
    obtain ⟨i, hi, hat, -, hmax⟩ := Session.exists_position_of_winnerAt hwinner
    rw [htypes] at hi
    obtain ⟨rfl, hdef, -⟩ := of_build ht hi
    refine ⟨hi, hdef, ?_, hm, ?_⟩
    · rw [hreads.index, hs.anchored?_eq, hat]
    · intro k n hn
      rw [hlength, Option.map_eq_some_iff] at hn
      obtain ⟨x, hx, rfl⟩ := hn
      rw [← hm]
      exact hmax k x hx

/-- Two types with the same longest match behind a type with a shorter one, and a type that matches
nothing but empty texts there. -/
def overlapping : List (Definition Nat) :=
  [⟨0, .literal "a"⟩, ⟨1, .regex "ab?" .empty⟩, ⟨2, .literal "ab"⟩, ⟨3, .regex "b*" .empty⟩]

/-- Of these types number 1 wins at the start of `abx`, with two characters. -/
theorem winner_of_overlapping :
    ∃ (t : Tokenizer Nat) (token : Token Nat) (type : TokenType Nat) (m : Match),
      build {} overlapping = .ok t ∧ token ∈ t.scan "abx".toList ∧
      token.winner = some (type, m) ∧ type.index = 1 ∧ m.length = 2 ∧
      overlapping[type.index]? = some ⟨type.tag, type.pattern⟩ ∧
      ∀ k n, t.anchoredLength? "abx".toList token.index k = some n →
        n ≤ token.length ∧ (k < type.index → n < token.length) := by
  let t : Tokenizer Nat := (build {} overlapping).toOption.getD default
  let token : Token Nat := (t.scan "abx".toList).headD default
  let w : TokenType Nat × Match := token.winner.getD default
  have hbuild : build {} overlapping = .ok t := by decide +kernel
  have htoken : token ∈ t.scan "abx".toList := by decide +kernel
  have hwinner : token.winner = some (w.1, w.2) := by decide +kernel
  obtain ⟨-, hdef, -, -, hmax⟩ := (winner_of_mem_scan hbuild htoken).2.2 w.1 w.2 hwinner
  exact ⟨t, token, w.1, w.2, hbuild, htoken, hwinner, by decide +kernel, by decide +kernel, hdef,
    hmax⟩

end Tokenizer

end Munch
