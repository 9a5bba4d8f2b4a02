import Munch.Proofs.Matcher.Offsets
import Munch.Proofs.Regex.First
import Munch.Proofs.Regex.Normal
import Munch.Proofs.Regex.Parses
import Munch.Proofs.Session.Exchange

/-!
# Escaped texts

A text whose punctuation is escaped is read as the sequence of its characters. So the expression
that it means matches the text itself and nothing else.

* `escaped`: the text with a backslash in front of each character that has a meaning in patterns.
* `Parses.escapeChar`, `parses_escaped`: how one character is read, and how all of them are.
* `Expr.eq_word_of_parses`: the expression is the word that was escaped.
* `Expr.matchAt_word`: what a word matches at a place.
* `Matcher.findAt_escaped`: a text and its escaped form can be written for each other.
-/

namespace Munch.Regex

/-- A character as it is written in a pattern that means it. -/
def escapeChar (c : Char) : List Char := if isMeta c then ['\\', c] else [c]

/-- A text as it is written in a pattern that means it. -/
def escaped (text : List Char) : List Char := text.flatMap escapeChar

theorem escaped_cons (c : Char) (text : List Char) :
    escaped (c :: text) = escapeChar c ++ escaped text := List.flatMap_cons

/-! ## Reading -/

/-- A character without a meaning of its own is read as itself. -/
theorem plainAtom_of_not_isMeta {c : Char} (h : isMeta c = false) (rest : List Char) :
    plainAtom false (c :: rest) = .ok (.literal ⟨between (c :: rest) rest, c, false⟩, rest) := by
  unfold plainAtom
  split <;> simp_all [isMeta]

theorem isDigit_of_isMeta {c : Char} (h : isMeta c) : c.isDigit = false := by
  have : ∀ d ∈ "\\.+*?()|[]\x7b\x7d^$#&-~".toList, !d.isDigit := List.all_eq_true.1 (by decide)
  simpa using this c (List.contains_iff_mem.1 h)

theorem escape_of_isMeta {c : Char} (h : isMeta c) (rest : List Char) :
    escape false ('\\' :: c :: rest) =
      .ok (.literal ⟨between ('\\' :: c :: rest) rest, c, false⟩, rest) := by
  have hescapable : isEscapable c := by rw [isEscapable, h, Bool.true_or]
  rw [escape, List.tail_cons]
  simp [isDigit_of_isMeta h, hescapable]

/-- The part of a pattern that is an escaped character in front of `rest`. -/
def escapedItem (c : Char) (rest : List Char) : Tree :=
  .atom (.literal ⟨between (escapeChar c ++ rest) rest, c, false⟩)

/-- The parts of an escaped text. -/
def escapedItems : List Char → List Tree
  | [] => []
  | c :: text => escapedItem c (escaped text) :: escapedItems text

/-- An escaped character is one more part. -/
theorem Parses.escapeChar {opened : Option Extent} {p : Partial} {c : Char} {rest : List Char}
    {groups : Nat} {names : List (String × Extent)} {tree : Tree} {after : Reader}
    (h : Parses opened (p.push (escapedItem c rest)) ⟨rest, false, groups, names⟩ tree after) :
    Parses opened p ⟨escapeChar c ++ rest, false, groups, names⟩ tree after := by
  rw [escapedItem, Regex.escapeChar] at h
  rw [Regex.escapeChar]
  cases hc : isMeta c with
  | true =>
    rw [hc] at h
    exact .atom rfl (by decide) (escape_of_isMeta hc rest) h
  | false =>
    rw [hc] at h
    have hoperator : c ∉ operators := by
      intro hmem
      rw [List.all_eq_true.1 (by decide : operators.all isMeta = true) c hmem] at hc
      cases hc
    exact .atom rfl hoperator (plainAtom_of_not_isMeta hc rest) h

/-- An escaped text is read as its parts. -/
theorem parses_escaped (text : List Char) (p : Partial) (groups : Nat)
    (names : List (String × Extent)) :
    Parses none p ⟨escaped text, false, groups, names⟩
      ({ p with items := (escapedItems text).reverse ++ p.items }.finish [])
      ⟨[], false, groups, names⟩ := by
  induction text generalizing p with
  | nil => exact .done rfl
  | cons c text ih =>
    have h := ih (p.push (escapedItem c (escaped text)))
    rw [escaped_cons, escapedItems, List.reverse_cons, List.append_assoc]
    exact h.escapeChar

/-! ## Meaning -/

theorem toExprs_escapedItems (text : List Char) :
    Tree.toExprs {} (escapedItems text) =
      .ok (text.map fun c => .chars (.singleton c), {}) := by
  induction text with
  | nil => rfl
  | cons c text ih =>
    have hitem : (escapedItem c (escaped text)).toExpr {} = .ok (.chars (.singleton c), {}) := rfl
    rw [escapedItems, Tree.toExprs, hitem]
    simp only [bind, Except.bind, ih]
    rfl

theorem Expr.sequence_chars (text : List Char) :
    sequence (text.map fun c => .chars (.singleton c)) = word text := by
  rw [sequence, word, List.flatMap_map]
  exact congrArg ofFactors (List.map_eq_flatMap ..).symm

/-- The expression of an escaped text is the text as a word. -/
theorem Expr.eq_word_of_parses {text : List Char} {tree : Tree} {after : Reader} {e : Expr}
    {m : Mode} (h : Parses none (.begin (escaped text)) { rest := escaped text, verbose := false }
      tree after) (he : tree.toExpr {} = .ok (e, m)) : e = word text := by
  rw [(h.unique (parses_escaped text (.begin (escaped text)) 0 [])).1] at he
  simp only [Partial.begin, Partial.finish, List.append_nil, Partial.toExpr_branch,
    List.reverse_reverse, toExprs_escapedItems] at he
  cases he
  exact sequence_chars text

/-! ## Words -/

theorem Expr.isSteady_word (text : List Char) : (word text).isSteady := by
  induction text with
  | nil => rfl
  | cons c text ih =>
    cases text with
    | nil => rfl
    | cons d text => exact ih

theorem Expr.groupNames_word (text : List Char) : (word text).groupNames = [none] := by
  have hcaptures : (word text).captures = [] := by
    induction text with
    | nil => rfl
    | cons c text ih =>
      cases text with
      | nil => rfl
      | cons d text => exact ih
  rw [groupNames, hcaptures]
  rfl

theorem Expr.refuses_word {text rest : List Char} (h : ¬ text <+: rest) :
    (word text).Refuses rest := by
  induction text generalizing rest with
  | nil => exact absurd List.nil_prefix h
  | cons c text ih =>
    cases rest with
    | nil => exact .word (by simp) text
    | cons d rest =>
      by_cases hcd : d = c
      · subst hcd
        rw [List.cons_prefix_cons, not_and] at h
        cases text with
        | nil => exact absurd List.nil_prefix (h rfl)
        | cons c text => exact Refuses.seq_of_reads .singleton (ih (h rfl))
      · exact .word (by simpa using hcd) text

theorem Expr.readsFirst_word (text rest : List Char) : (word text).ReadsFirst text rest := by
  cases text with
  | nil =>
    intro α k p captures x hp hk
    rw [← show p.rest = rest from hp, Cursor.past_nil] at hk
    exact hk
  | cons c text => exact (ReadsExactly.word (by simp)).first

/-- A word matches where the text behind begins with it, and has no groups. -/
theorem Expr.matchAt_word (text : List Char) (p : Cursor) :
    (word text).matchAt p =
      if text.isPrefixOf p.rest then some { span := ⟨p.offset, p.offset + Text.byteLength text⟩ }
      else none := by
  split
  next h =>
    obtain ⟨rest, hrest⟩ := List.isPrefixOf_iff_prefix.1 h
    rw [(readsFirst_word text rest).matchAt hrest.symm, groupNames_word]
    rfl
  next h =>
    rw [List.isPrefixOf_iff_prefix] at h
    exact (refuses_word h).matchAt

end Munch.Regex

namespace Munch

/-! ## Matchers -/

/-- The pattern of an escaped text. -/
def Pattern.escaped (text : String) : Pattern :=
  .regex (String.ofList (Regex.escaped text.toList)) .empty

/-- Patterns of which one may be a certain text and the other its escaped form. -/
inductive Pattern.Respelled (text : String) : Pattern → Pattern → Prop
  | refl (p : Pattern) : Respelled text p p
  | escape : Respelled text (.literal text) (.escaped text)
  | unescape : Respelled text (.escaped text) (.literal text)

namespace Matcher

variable {config : Config} {text : String} {m m' : Matcher}

/-- Matchers that match alike at each place find the same from each place on. -/
theorem findAt_congr (h : m.matchAt = m'.matchAt) {source : List Char} {start : Nat}
    (hstart : Text.IsBoundary source start ∨ Text.byteLength source < start) :
    m.findAt source start = m'.findAt source start := by
  rcases hstart with ⟨read, rest, rfl, rfl⟩ | hlt
  · have hp : (Cursor.ofText (read ++ rest)).Precedes ((Cursor.ofText _).past read rest) :=
      .of_rest rfl
    have hoffset : ((Cursor.ofText (read ++ rest)).past read rest).offset = Text.byteLength read :=
      Nat.zero_add _
    rw [← hoffset, findAt_eq m hp, findAt_eq m' hp, find_eq, find_eq, h]
  · rw [findAt_eq_none_of_lt m hlt, findAt_eq_none_of_lt m' hlt]

/-- An escaped text matches where the text itself does. -/
theorem matchAt_escaped (h : (Pattern.escaped text).matcher config = .ok m) :
    m.matchAt = (literal ⟨text.toList⟩).matchAt := by
  obtain ⟨r, hr, rfl⟩ := Except.map_eq_ok_iff.1 h
  obtain ⟨tree, after, e, mode, hparses, he, rfl⟩ := Regex.exists_of_compile hr
  rw [String.toList_ofList] at hparses
  obtain rfl := Regex.Expr.eq_word_of_parses hparses he
  funext p
  exact (Regex.matchAt_ofExpr _ (Regex.Expr.isSteady_word _) p).trans
    (Regex.Expr.matchAt_word _ p)

theorem exists_matcher_of_respelled (htext : (Pattern.escaped text).matcher config = .ok m)
    {pattern pattern' : Pattern} (h : pattern.Respelled text pattern') {x : Matcher}
    (hx : pattern.matcher config = .ok x) : ∃ x', pattern'.matcher config = .ok x' := by
  cases h with
  | refl => exact ⟨x, hx⟩
  | escape => exact ⟨m, htext⟩
  | unescape => exact ⟨_, rfl⟩

/-- Patterns of which one may be the other written differently have matchers with equal spans. -/
theorem sameSpans_of_respelled (htext : (Pattern.escaped text).matcher config = .ok m)
    {pattern pattern' : Pattern} (h : pattern.Respelled text pattern')
    {x x' : Matcher} (hx : pattern.matcher config = .ok x)
    (hx' : pattern'.matcher config = .ok x') : x.SameSpans x' := by
  have hspans : m.SameSpans (literal ⟨text.toList⟩) := fun p => by rw [matchAt_escaped htext]
  cases h with
  | refl =>
    cases hx.symm.trans hx'
    exact .refl x
  | escape =>
    cases htext.symm.trans hx'
    cases hx
    exact hspans.symm
  | unescape =>
    cases htext.symm.trans hx
    cases hx'
    exact hspans

/-- A text and its escaped form are found at the same places, from each offset on that lies between
characters or behind the end. So each of them can be written for the other in a list of definitions:
if the escaped form compiles, the list still does, and its tokens are the same. -/
theorem findAt_escaped (h : (Pattern.escaped text).matcher config = .ok m)
    (h' : (Pattern.literal text).matcher config = .ok m') :
    (∀ source start, Text.IsBoundary source start ∨ Text.byteLength source < start →
      m.findAt source start = m'.findAt source start ∧
        ∀ x, m.findAt source start = some x → x.groupCount = 1) ∧
    ∀ {τ : Type} {defs defs' : List (Definition τ)} {t : Tokenizer τ},
      List.Forall₂ (fun d d' => d.tag = d'.tag ∧ d.pattern.Respelled text d'.pattern) defs defs' →
      Tokenizer.build config defs = .ok t →
      ∃ t', Tokenizer.build config defs' = .ok t' ∧
        ∀ source, List.Forall₂ Token.Alike (t.scan source) (t'.scan source) := by
  cases h'
  refine ⟨fun source start hstart => ?_, fun {τ defs defs' t} hdefs ht => ?_⟩
  · have heq : m.findAt source start = (literal ⟨text.toList⟩).findAt source start :=
      findAt_congr (matchAt_escaped h) hstart
    refine ⟨heq, fun x hx => ?_⟩
    rw [heq] at hx
    obtain ⟨i, -, rfl⟩ := Needle.findAt_eq_some_iff.1 hx
    rfl
  · obtain ⟨t', ht'⟩ : ∃ t', Tokenizer.build config defs' = .ok t' := by
      refine Tokenizer.exists_build_of_forall₂ (hdefs.imp fun d d' hd x hx => ?_) ht
      exact exists_matcher_of_respelled h hd.2 hx
    refine ⟨t', ht', Tokenizer.scan_alike ht ht' (hdefs.imp fun d d' hd => ⟨hd.1, ?_⟩)⟩
    exact fun _ _ => sameSpans_of_respelled h hd.2

/-- Definitions of `+é`, of a part of it, and of its escaped form. -/
def plusDefinitions : List (Definition Nat) :=
  [⟨1, .literal "+é"⟩, ⟨2, .regex "[+]" .empty⟩, ⟨3, .escaped "+é"⟩]

/-- The same definitions, each text written the other way. -/
def plusRespelled : List (Definition Nat) :=
  [⟨1, .escaped "+é"⟩, ⟨2, .regex "[+]" .empty⟩, ⟨3, .literal "+é"⟩]

/-- The text `+é` and its escaped form change places in a list of definitions. -/
theorem findAt_escaped_plus :
    ∃ (m : Matcher) (t t' : Tokenizer Nat), (Pattern.escaped "+é").matcher {} = .ok m ∧
      (Pattern.literal "+é").matcher {} = .ok (literal ⟨"+é".toList⟩) ∧
      Text.IsBoundary "a+é+".toList 1 ∧ m.findAt "a+é+".toList 1 = some { span := ⟨1, 4⟩ } ∧
      (literal ⟨"+é".toList⟩).findAt "a+é+".toList 1 = some { span := ⟨1, 4⟩ } ∧
      Tokenizer.build {} plusDefinitions = .ok t ∧ Tokenizer.build {} plusRespelled = .ok t' ∧
      List.Forall₂ Token.Alike (t.scan "a+é+".toList) (t'.scan "a+é+".toList) ∧
      (t'.scan "a+é+".toList).map (·.tag?) = [none, some 1, some 2] := by
  let m : Matcher := ((Pattern.escaped "+é").matcher {}).toOption.getD default
  let t : Tokenizer Nat := (Tokenizer.build {} plusDefinitions).toOption.getD default
  have hm : (Pattern.escaped "+é").matcher {} = .ok m := by decide +kernel
  have ht : Tokenizer.build {} plusDefinitions = .ok t := by decide +kernel
  have hboundary : Text.IsBoundary "a+é+".toList 1 := ⟨['a'], ['+', 'é', '+'], rfl, rfl⟩
  have hfound : m.findAt "a+é+".toList 1 = some { span := ⟨1, 4⟩ } := by decide +kernel
  have hdefs : List.Forall₂ (fun d d' : Definition Nat =>
      d.tag = d'.tag ∧ d.pattern.Respelled "+é" d'.pattern) plusDefinitions plusRespelled :=
    .cons ⟨rfl, .escape⟩ (.cons ⟨rfl, .refl _⟩ (.cons ⟨rfl, .unescape⟩ .nil))
  obtain ⟨hfind, hscan⟩ := findAt_escaped hm rfl
  obtain ⟨t', hbuild, halike⟩ := hscan hdefs ht
  have heq := (hfind _ 1 (.inl hboundary)).1.symm.trans hfound
  have ht' : t' = (Tokenizer.build {} plusRespelled).toOption.getD default := by
    rw [hbuild]
    rfl
  refine ⟨m, t, t', hm, rfl, hboundary, hfound, heq, ht, hbuild, halike _, ?_⟩
  rw [ht']
  decide +kernel

end Matcher

end Munch
