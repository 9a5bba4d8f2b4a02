import Mathlib.Data.List.Basic
import Mathlib.Data.Set.List
import Munch.Pattern
import Munch.Proofs.Flags
import Munch.Proofs.Regex.Normal
import Munch.Proofs.Regex.Parses

/-!
# Flags at the front of a pattern

A pattern that begins with a directive is read in the mode that the directive makes of the one it
begins in, and means what the rest of it means by itself in that mode.

* `Mode.get_setAll`: the mode after a list of switches, flag by flag.
* `Parses.behindDirective`: a directive in front of a sequence, step by step.
* `groupOpening_directive`: what a directive switches.
* `Matcher.findAt_directive`: flags that a pattern is compiled with, and the same flags in front.
-/

namespace Munch.Regex

/-! ## Modes -/

/-- The state of one flag. -/
def Mode.get (m : Mode) : InlineFlag → Bool
  | .ignoreCase => m.ignoreCase
  | .multiLine => m.multiLine
  | .dotAll => m.dotAll
  | .swapGreed => m.swapGreed
  | .unicode => m.unicode
  | .crlf => m.crlf
  | .verbose => m.verbose

namespace Mode

theorem eq_of_get {m m' : Mode} (h : ∀ f, m.get f = m'.get f) : m = m' := by
  cases m
  cases m'
  rw [mk.injEq]
  exact ⟨h .ignoreCase, h .multiLine, h .dotAll, h .swapGreed, h .unicode, h .crlf, h .verbose⟩

theorem get_set (m : Mode) (s : FlagSwitch) (f : InlineFlag) :
    (m.set s).get f = if s.flag = f then s.on else m.get f := by
  obtain ⟨g, on⟩ := s
  cases g <;> cases f <;> rfl

theorem get_setAll_of_notMem {switches : List FlagSwitch} {f : InlineFlag}
    (h : ∀ s ∈ switches, s.flag ≠ f) (m : Mode) : (m.setAll switches).get f = m.get f := by
  induction switches generalizing m with
  | nil => rfl
  | cons s switches ih =>
    rw [List.forall_mem_cons] at h
    exact (ih h.2 (m.set s)).trans ((get_set m s f).trans (if_neg h.1))

/-- Switches that agree on a flag leave it in the state that they put it in. -/
theorem get_setAll {switches : List FlagSwitch} {f : InlineFlag} {on : Bool}
    (h : ∀ s ∈ switches, s.flag = f → s.on = on) (hmem : ∃ s ∈ switches, s.flag = f) (m : Mode) :
    (m.setAll switches).get f = on := by
  induction switches generalizing m with
  | nil => simp at hmem
  | cons s switches ih =>
    rw [List.forall_mem_cons] at h
    by_cases hmem' : ∃ s ∈ switches, s.flag = f
    · exact ih h.2 hmem' (m.set s)
    · have hs : s.flag = f := by
        obtain ⟨t, ht, hf⟩ := hmem
        rcases List.mem_cons.1 ht with rfl | ht
        · exact hf
        · exact absurd ⟨t, ht, hf⟩ hmem'
      push Not at hmem'
      exact (get_setAll_of_notMem hmem' (m.set s)).trans
        ((get_set m s f).trans ((if_pos hs).trans (h.1 hs)))

/-- The reader of a pattern and the mode of what it reads agree on blanks. -/
theorem stateAfter_eq {switches : List FlagSwitch} {v : InlineFlag → Bool}
    (h : ∀ s ∈ switches, s.on = v s.flag) (f : InlineFlag) (m : Mode) :
    stateAfter switches f (m.get f) = (m.setAll switches).get f := by
  rw [stateAfter]
  cases hfind : switches.find? (·.flag = f) with
  | none =>
    rw [List.find?_eq_none] at hfind
    exact (get_setAll_of_notMem (fun s hs => by simpa using hfind s hs) m).symm
  | some s =>
    have hs := List.mem_of_find?_eq_some hfind
    have hf : s.flag = f := by simpa using List.find?_some hfind
    refine (get_setAll (fun t ht htf => ?_) ⟨s, hs, hf⟩ m).symm
    exact (h t ht).trans ((congrArg v (htf.trans hf.symm)).trans (h s hs).symm)

end Mode

/-! ## A directive in front -/

/-- A sequence read so far with a directive in front of it, and without. -/
inductive Partial.Behind (switches : List FlagSwitch) : Partial → Partial → Prop
  /-- The first branch is being read. -/
  | first {p p' extent} (hbranches : p.branches = []) (hbranches' : p'.branches = [])
      (hitems : p'.items = p.items ++ [.flags extent switches]) : Behind switches p p'
  /-- The first branch has been read. -/
  | later {p p' branches first first'} (hbranches : p.branches = branches ++ [first])
      (hbranches' : p'.branches = branches ++ [first'])
      (hfirst : ∀ m, first'.toExpr m = first.toExpr (m.setAll switches))
      (hstart : p'.branchStart = p.branchStart) (hitems : p'.items = p.items) :
      Behind switches p p'

namespace Partial.Behind

variable {switches : List FlagSwitch} {p p' : Partial}

theorem push (h : p.Behind switches p') (item : Tree) :
    (p.push item).Behind switches (p'.push item) := by
  cases h with
  | first hbranches hbranches' hitems =>
    exact .first hbranches hbranches' (congrArg (item :: ·) hitems)
  | later hbranches hbranches' hfirst hstart hitems =>
    exact .later hbranches hbranches' hfirst hstart (congrArg (item :: ·) hitems)

theorem toExprs_flags (m : Mode) (extent : Extent) (trees : List Tree) :
    Tree.toExprs m (.flags extent switches :: trees) =
      (Tree.toExprs (m.setAll switches) trees).map fun (es, m) => (.empty :: es, m) := by
  rw [Tree.toExprs, Tree.toExpr]
  change (Tree.toExprs (m.setAll switches) trees >>= _) = _
  cases Tree.toExprs (m.setAll switches) trees <;> rfl

/-- A directive holds for what is behind it. -/
theorem toExpr_branch {extent : Extent} (hitems : p'.items = p.items ++ [.flags extent switches])
    (rest : List Char) (m : Mode) :
    (p'.branch rest).toExpr m = (p.branch rest).toExpr (m.setAll switches) := by
  rw [Partial.toExpr_branch, Partial.toExpr_branch, hitems, List.reverse_append,
    List.reverse_singleton, List.singleton_append, toExprs_flags]
  cases Tree.toExprs (m.setAll switches) p.items.reverse <;> rfl

theorem branch_congr (hstart : p'.branchStart = p.branchStart) (hitems : p'.items = p.items)
    (rest : List Char) : p'.branch rest = p.branch rest := by
  rw [branch, branch, hstart, hitems]

theorem finish_of_ne_nil (h : p.branches ≠ []) (rest : List Char) :
    p.finish rest = .alternation ⟨p.start, rest.length⟩ (p.branch rest :: p.branches).reverse := by
  rw [Partial.finish]
  split
  next hnil => exact absurd hnil h
  · rfl

theorem finish (h : p.Behind switches p') (rest : List Char) (m : Mode) :
    (p'.finish rest).toExpr m = (p.finish rest).toExpr (m.setAll switches) := by
  cases h with
  | first hbranches hbranches' hitems =>
    rw [Partial.finish, Partial.finish, hbranches, hbranches']
    exact toExpr_branch hitems rest m
  | later hbranches hbranches' hfirst hstart hitems =>
    rw [finish_of_ne_nil (by simp [hbranches']), finish_of_ne_nil (by simp [hbranches]),
      hbranches, hbranches', branch_congr hstart hitems, Tree.toExpr, Tree.toExpr]
    simp only [List.reverse_cons, List.reverse_append, List.reverse_nil, List.nil_append,
      List.cons_append, Tree.toExprs, hfirst]

theorem nextBranch (h : p.Behind switches p') (rest : List Char) :
    (p.nextBranch rest).Behind switches (p'.nextBranch rest) := by
  cases h with
  | first hbranches hbranches' hitems =>
    have hnext : (p.nextBranch rest).branches = [] ++ [p.branch rest] := by
      rw [Partial.nextBranch, hbranches]
      rfl
    have hnext' : (p'.nextBranch rest).branches = [] ++ [p'.branch rest] := by
      rw [Partial.nextBranch, hbranches']
      rfl
    exact .later hnext hnext' (toExpr_branch hitems rest) rfl rfl
  | @later branches first first' hbranches hbranches' hfirst hstart hitems =>
    have hnext : (p.nextBranch rest).branches = (p.branch rest :: branches) ++ [first] := by
      rw [Partial.nextBranch, hbranches]
      rfl
    have hnext' : (p'.nextBranch rest).branches = (p.branch rest :: branches) ++ [first'] := by
      rw [Partial.nextBranch, hbranches', branch_congr hstart hitems]
      rfl
    exact .later hnext hnext' hfirst rfl rfl

/-- An operator takes the same operand, never the directive. -/
theorem popOperand (h : p.Behind switches p') {rest : List Char} {body : Tree} {q : Partial}
    (hpop : p.popOperand rest = .ok (body, q)) :
    ∃ q', p'.popOperand rest = .ok (body, q') ∧ q.Behind switches q' := by
  rw [Partial.popOperand] at hpop
  split at hpop
  · cases hpop
  · cases hpop
  next item items hflags hcons =>
    cases hpop
    have hitem : ∀ items', p'.items = body :: items' →
        p'.popOperand rest = .ok (body, { p' with items := items' }) := by
      intro items' hp'
      rw [Partial.popOperand, hp']
      cases body with
      | flags => exact absurd rfl (hflags _ _)
      | empty | atom | bracketed | repetition | group | concat | alternation => rfl
    cases h with
    | first hbranches hbranches' hitems =>
      rw [hcons] at hitems
      exact ⟨_, hitem _ hitems, .first hbranches hbranches' rfl⟩
    | later hbranches hbranches' hfirst hstart hitems =>
      rw [hcons] at hitems
      exact ⟨_, hitem _ hitems, .later hbranches hbranches' hfirst hstart rfl⟩

end Partial.Behind

/-- A sequence with a directive in front of it is read like the sequence by itself, and means what
that means in the mode behind the directive. -/
theorem Parses.behindDirective {switches : List FlagSwitch} {opened : Option Extent}
    {p p' : Partial} {r after : Reader} {tree : Tree} (h : Parses opened p r tree after)
    (hp : p.Behind switches p') : ∃ tree', Parses opened p' r tree' after ∧
      ∀ m, tree'.toExpr m = tree.toExpr (m.setAll switches) := by
  induction h generalizing p' with
  | done hskip => exact ⟨_, .done hskip, hp.finish []⟩
  | close hskip => exact ⟨_, .close hskip, hp.finish _⟩
  | branch hskip _ ih =>
    obtain ⟨tree', htree', hexpr⟩ := ih (hp.nextBranch _)
    exact ⟨tree', .branch hskip htree', hexpr⟩
  | directive hskip hopening _ ih =>
    obtain ⟨tree', htree', hexpr⟩ := ih (hp.push _)
    exact ⟨tree', .directive hskip hopening htree', hexpr⟩
  | capture hskip hopening hbody _ _ ih =>
    obtain ⟨tree', htree', hexpr⟩ := ih (hp.push _)
    exact ⟨tree', .capture hskip hopening hbody htree', hexpr⟩
  | plain hskip hopening hbody _ _ ih =>
    obtain ⟨tree', htree', hexpr⟩ := ih (hp.push _)
    exact ⟨tree', .plain hskip hopening hbody htree', hexpr⟩
  | bracket hskip hitem _ ih =>
    obtain ⟨tree', htree', hexpr⟩ := ih (hp.push _)
    exact ⟨tree', .bracket hskip hitem htree', hexpr⟩
  | repetition hskip hc hpop hcount _ ih =>
    obtain ⟨q', hpop', hq⟩ := hp.popOperand hpop
    obtain ⟨tree', htree', hexpr⟩ := ih (hq.push _)
    exact ⟨tree', .repetition hskip hc hpop' hcount htree', hexpr⟩
  | atom hskip hc hatom _ ih =>
    obtain ⟨tree', htree', hexpr⟩ := ih (hp.push _)
    exact ⟨tree', .atom hskip hc hatom htree', hexpr⟩

/-! ## Letters -/

/-- The letter that stands for a flag. -/
def InlineFlag.letter : InlineFlag → Char
  | .ignoreCase => 'i'
  | .multiLine => 'm'
  | .dotAll => 's'
  | .swapGreed => 'U'
  | .unicode => 'u'
  | .crlf => 'R'
  | .verbose => 'x'

theorem InlineFlag.ofChar?_eq_some_iff {c : Char} {f : InlineFlag} :
    ofChar? c = some f ↔ c = f.letter := by
  constructor
  · intro h
    unfold ofChar? at h
    split at h <;> cases h <;> rfl
  · rintro rfl
    cases f <;> rfl

theorem InlineFlag.letter_injective : Function.Injective letter := by
  intro f g h
  rw [← Option.some.injEq, ← ofChar?_eq_some_iff.2 rfl, h]
  exact ofChar?_eq_some_iff.2 rfl

theorem exists_inlineFlags {on letters : List Char}
    (hon : ∀ c, c ∈ on ↔ c ∈ "imsxUR".toList ∧ c ∈ letters) :
    ∃ flags : List InlineFlag, flags.map (·.letter) = on ∧
      ∀ f, f ∈ flags ↔ f ≠ .unicode ∧ f.letter ∈ letters := by
  have hrange : on ∈ Set.range (List.map InlineFlag.letter) := by
    rw [Set.range_list_map]
    intro c hc
    have hsome : ∀ d ∈ "imsxUR".toList, (InlineFlag.ofChar? d).isSome :=
      List.all_eq_true.1 (by decide)
    obtain ⟨f, hf⟩ := Option.isSome_iff_exists.1 (hsome c ((hon c).1 hc).1)
    exact ⟨f, (InlineFlag.ofChar?_eq_some_iff.1 hf).symm⟩
  obtain ⟨flags, rfl⟩ := hrange
  refine ⟨flags, rfl, fun f => ?_⟩
  rw [← List.mem_map_of_injective InlineFlag.letter_injective, hon]
  refine and_congr_left fun _ => ?_
  cases f <;> decide

/-- Letters are read as the flags that they stand for. -/
theorem flagSigns_letters {flags : List InlineFlag} {signs found : List (FlagSign × Extent)}
    {rest rest' : List Char}
    (h : flagSigns signs (flags.map (·.letter) ++ rest) = .ok (found, rest')) :
    ∃ read, flagSigns read rest = .ok (found, rest') ∧
      read.map (·.1) = (flags.map .flag).reverse ++ signs.map (·.1) := by
  induction flags generalizing signs with
  | nil => exact ⟨signs, h, rfl⟩
  | cons f flags ih =>
    have hletter : ¬ (f.letter = ':' ∨ f.letter = ')') ∧ f.letter ≠ '-' := by
      cases f <;> decide
    rw [List.map_cons, List.cons_append, flagSigns, if_neg hletter.1] at h
    dsimp only at h
    rw [if_neg hletter.2, InlineFlag.ofChar?_eq_some_iff.2 rfl] at h
    dsimp only at h
    split at h
    · cases h
    · obtain ⟨read, hread, hsigns⟩ := ih h
      refine ⟨read, hread, ?_⟩
      rw [hsigns, List.map_cons, List.map_cons, List.reverse_cons, List.append_assoc]
      rfl

theorem switchesOf_flags (flags : List InlineFlag) (signs : List FlagSign) :
    switchesOf true (flags.map .flag ++ signs) =
      flags.map (⟨·, true⟩) ++ switchesOf true signs := by
  induction flags with
  | nil => rfl
  | cons f flags ih => exact congrArg (⟨f, true⟩ :: ·) ih

/-! ## Directives -/

/-- The directive that switches flags on, given by their letters, and if asked for Unicode mode off;
nothing if there is nothing to switch. -/
def directive (on : List Char) (ascii : Bool) : List Char :=
  if on.isEmpty && !ascii then []
  else '(' :: '?' :: on ++ (if ascii then ['-', 'u'] else []) ++ [')']

/-- The switches of that directive. -/
def directiveSwitches (flags : List InlineFlag) (ascii : Bool) : List FlagSwitch :=
  flags.map (⟨·, true⟩) ++ if ascii then [⟨.unicode, false⟩] else []

/-- The end of a directive is read as the flag that it switches off. -/
theorem flagSigns_end {ascii : Bool} {signs found : List (FlagSign × Extent)}
    {rest rest' : List Char}
    (h : flagSigns signs ((if ascii then ['-', 'u'] else []) ++ ')' :: rest) = .ok (found, rest')) :
    rest' = ')' :: rest ∧ found.map (·.1) =
      (if ascii then [.flag .unicode, .negation] else []) ++ signs.map (·.1) := by
  cases ascii with
  | false =>
    cases h
    exact ⟨rfl, rfl⟩
  | true =>
    simp only [if_true, List.cons_append, List.nil_append] at h
    rw [flagSigns, if_neg (by decide)] at h
    dsimp only at h
    rw [if_pos rfl] at h
    split at h
    · cases h
    · rw [flagSigns, if_neg (by decide)] at h
      dsimp only at h
      rw [if_neg (by decide), show InlineFlag.ofChar? 'u' = some .unicode from rfl] at h
      dsimp only at h
      split at h
      · cases h
      · cases h
        exact ⟨rfl, rfl⟩

theorem flagSwitches_directive {flags : List InlineFlag} {ascii : Bool} {rest rest' : List Char}
    {switches : List FlagSwitch}
    (h : flagSwitches (flags.map (·.letter) ++
      ((if ascii then ['-', 'u'] else []) ++ ')' :: rest)) = .ok (switches, rest')) :
    switches = directiveSwitches flags ascii ∧ rest' = ')' :: rest := by
  obtain ⟨⟨signs, rest''⟩, hsigns, h⟩ := Except.bind_eq_ok_iff.1 h
  obtain ⟨read, hread, hmap⟩ := flagSigns_letters hsigns
  obtain ⟨rfl, hfound⟩ := flagSigns_end hread
  dsimp only at h
  split at h
  · cases h
  · cases h
    refine ⟨?_, rfl⟩
    rw [List.map_reverse, hfound, hmap, directiveSwitches, List.map_nil, List.append_nil,
      List.reverse_append, List.reverse_reverse, switchesOf_flags]
    cases ascii <;> rfl

/-- What opens neither a look-around nor a name is read as flags. -/
theorem exists_of_groupOpening_flags {c : Char} (hc : c ∉ ['=', '!', '<', 'P'])
    {names : List (String × Extent)} {cs rest : List Char} {opening : GroupOpening}
    (h : groupOpening false names ('(' :: '?' :: c :: cs) = .ok (opening, rest)) :
    ∃ switches after, flagSwitches (c :: cs) = .ok (switches, after) ∧
      ∀ behind, after = ')' :: behind → opening = .directive switches ∧ rest = behind := by
  simp only [List.mem_cons, List.not_mem_nil, or_false, not_or] at hc
  obtain ⟨heq, hbang, hless, hp⟩ := hc
  have hmark : lookAroundMark? ('?' :: c :: cs) = none := by
    unfold lookAroundMark?
    split <;> simp_all
  simp only [groupOpening, skip, Bool.false_eq_true, if_false, List.tail_cons, hmark] at h
  split at h
  next heq' => simp_all
  next heq' => simp_all
  next cs' _ _ heq' =>
    cases heq'
    rw [if_neg (by simp)] at h
    obtain ⟨⟨switches, after⟩, hswitches, h⟩ := Except.bind_eq_ok_iff.1 h
    refine ⟨switches, after, hswitches, ?_⟩
    rintro behind rfl
    split at h
    next hafter =>
      cases hafter
      split at h
      · cases h
      · cases h
        exact ⟨rfl, rfl⟩
    next hne => exact absurd rfl (hne _)
  next hne => exact absurd rfl (hne _)

/-- A directive is read as its switches. -/
theorem groupOpening_directive {flags : List InlineFlag} {ascii : Bool}
    (hne : directive (flags.map (·.letter)) ascii ≠ []) {rest rest' : List Char}
    {opening : GroupOpening}
    (h : groupOpening false [] (directive (flags.map (·.letter)) ascii ++ rest) =
      .ok (opening, rest')) :
    opening = .directive (directiveSwitches flags ascii) ∧ rest' = rest := by
  have heq : directive (flags.map (·.letter)) ascii ++ rest = '(' :: '?' ::
      (flags.map (·.letter) ++ ((if ascii then ['-', 'u'] else []) ++ ')' :: rest)) := by
    unfold directive at hne ⊢
    split at hne
    · exact absurd rfl hne
    next hsome =>
      rw [if_neg hsome]
      simp
  obtain ⟨c, cs, hcs, hc⟩ : ∃ c cs, flags.map (·.letter) ++
      ((if ascii then ['-', 'u'] else []) ++ ')' :: rest) = c :: cs ∧ c ∉ ['=', '!', '<', 'P'] := by
    cases flags with
    | cons f flags => exact ⟨f.letter, _, rfl, by cases f <;> decide⟩
    | nil =>
      cases ascii with
      | true => exact ⟨'-', _, rfl, by decide⟩
      | false => exact absurd rfl hne
  rw [heq, hcs] at h
  obtain ⟨switches, after, hswitches, hopening⟩ := exists_of_groupOpening_flags hc h
  rw [← hcs] at hswitches
  obtain ⟨rfl, rfl⟩ := flagSwitches_directive hswitches
  exact hopening rest rfl

/-! ## Flags of a pattern -/

/-- What is read behind an opening parenthesis. -/
theorem Parses.exists_opening {opened : Option Extent} {p : Partial} {r after : Reader}
    {tree : Tree} (h : Parses opened p r tree after) {cs : List Char}
    (hskip : skip r.verbose r.rest = '(' :: cs) :
    ∃ opening rest, groupOpening r.verbose r.names ('(' :: cs) = .ok (opening, rest) ∧
      ∀ switches, opening = .directive switches →
        Parses opened (p.push (.flags (between ('(' :: cs) rest) switches))
          { r with rest, verbose := stateAfter switches .verbose r.verbose } tree after := by
  cases h with
  | directive hskip' hopening hrest =>
    cases hskip.symm.trans hskip'
    refine ⟨_, _, hopening, fun switches heq => ?_⟩
    cases heq
    exact hrest
  | capture hskip' hopening =>
    cases hskip.symm.trans hskip'
    exact ⟨_, _, hopening, nofun⟩
  | plain hskip' hopening =>
    cases hskip.symm.trans hskip'
    exact ⟨_, _, hopening, nofun⟩
  | done hskip' => cases hskip.symm.trans hskip'
  | close hskip' => cases hskip.symm.trans hskip'
  | branch hskip' => cases hskip.symm.trans hskip'
  | bracket hskip' => cases hskip.symm.trans hskip'
  | repetition hskip' hc =>
    cases hskip.symm.trans hskip'
    exact absurd hc (by decide)
  | atom hskip' hc =>
    cases hskip.symm.trans hskip'
    exact absurd (by decide) hc

section Flags

variable {letters : List Char} {flags : Flags} {on : List InlineFlag}

theorem get_mode (h : Flags.parse letters = .ok flags) (f : InlineFlag) :
    flags.mode.get f =
      if f = .unicode then !letters.contains 'a' else letters.contains f.letter := by
  cases f with
  | unicode => exact congrArg not (Flags.has_parse h .noUnicode)
  | ignoreCase => exact Flags.has_parse h .caseInsensitive
  | multiLine => exact Flags.has_parse h .multiLine
  | dotAll => exact Flags.has_parse h .dotMatchesNewLine
  | swapGreed => exact Flags.has_parse h .swapGreed
  | crlf => exact Flags.has_parse h .crlf
  | verbose => exact Flags.has_parse h .ignoreWhitespace

/-- Each switch of the directive puts its flag in its state in the mode of the letters. -/
theorem on_of_mem_directiveSwitches (h : Flags.parse letters = .ok flags)
    (hon : ∀ f, f ∈ on ↔ f ≠ .unicode ∧ f.letter ∈ letters) :
    ∀ s ∈ directiveSwitches on (letters.contains 'a'), s.on = flags.mode.get s.flag := by
  intro s hs
  rcases List.mem_append.1 hs with hs | hs
  · obtain ⟨f, hf, rfl⟩ := List.mem_map.1 hs
    obtain ⟨hne, hmem⟩ := (hon f).1 hf
    rw [get_mode h, if_neg hne, List.contains_iff_mem.2 hmem]
  · split at hs
    next ha =>
      rw [List.mem_singleton.1 hs, get_mode h, if_pos rfl, ha]
      rfl
    · cases hs

/-- The directive makes the mode of the letters out of the usual one. -/
theorem setAll_directiveSwitches (h : Flags.parse letters = .ok flags)
    (hon : ∀ f, f ∈ on ↔ f ≠ .unicode ∧ f.letter ∈ letters) :
    ({} : Mode).setAll (directiveSwitches on (letters.contains 'a')) = flags.mode := by
  refine Mode.eq_of_get fun f => ?_
  have hall := on_of_mem_directiveSwitches h hon
  by_cases hmem : ∃ s ∈ directiveSwitches on (letters.contains 'a'), s.flag = f
  · exact Mode.get_setAll (fun s hs hf => hf ▸ hall s hs) hmem {}
  · push Not at hmem
    rw [Mode.get_setAll_of_notMem hmem, get_mode h]
    by_cases hf : f = .unicode
    · subst hf
      rw [if_pos rfl]
      cases ha : letters.contains 'a' with
      | false => rfl
      | true =>
        rw [ha] at hmem
        exact absurd rfl (hmem ⟨.unicode, false⟩ (List.mem_append_right _ List.mem_cons_self))
    · rw [if_neg hf]
      have hletter : f.letter ∉ letters := fun hletter =>
        hmem ⟨f, true⟩ (List.mem_append_left _ (List.mem_map_of_mem ((hon f).2 ⟨hf, hletter⟩))) rfl
      rw [Bool.eq_false_iff.2 fun hc => hletter (List.contains_iff_mem.1 hc)]
      cases f <;> first | rfl | exact absurd rfl hf

theorem directive_eq_nil_iff {on : List InlineFlag} {ascii : Bool} :
    directive (on.map (·.letter)) ascii = [] ↔ on = [] ∧ ascii = false := by
  cases on <;> cases ascii <;> simp [directive]

theorem exists_directive_eq_cons {on : List Char} {ascii : Bool} (h : directive on ascii ≠ []) :
    ∃ cs, directive on ascii = '(' :: cs := by
  unfold directive at h ⊢
  split at h
  · exact absurd rfl h
  next hsome =>
    rw [if_neg hsome]
    exact ⟨_, rfl⟩

/-- A pattern means in the mode of the letters what it means with the directive in front of it. -/
theorem toExpr_directive (h : Flags.parse letters = .ok flags)
    (hon : ∀ f, f ∈ on ↔ f ≠ .unicode ∧ f.letter ∈ letters) {source front : List Char}
    (hfront : front = directive (on.map (·.letter)) (letters.contains 'a'))
    {tree tree' : Tree} {after after' : Reader}
    (htree : Parses none (.begin source) { rest := source, verbose := flags.mode.verbose } tree
      after)
    (htree' : Parses none (.begin (front ++ source)) { rest := front ++ source, verbose := false }
      tree' after') : tree'.toExpr {} = tree.toExpr flags.mode := by
  have hmode := setAll_directiveSwitches h hon
  by_cases hne : front = []
  · obtain ⟨rfl, ha⟩ := directive_eq_nil_iff.1 (hfront.symm.trans hne)
    rw [ha] at hmode
    subst hne
    rw [← hmode] at htree ⊢
    rw [(htree.unique htree').1]
    rfl
  · obtain ⟨cs, hcs⟩ := exists_directive_eq_cons (hfront ▸ hne)
    have hskip : skip false (front ++ source) = '(' :: (cs ++ source) := by
      rw [hfront, hcs]
      rfl
    obtain ⟨opening, rest, hopening, hrest⟩ := htree'.exists_opening hskip
    rw [← List.cons_append, ← hcs] at hopening
    obtain ⟨rfl, rfl⟩ := groupOpening_directive (hfront ▸ hne) hopening
    have hread := hrest _ rfl
    have hverbose : stateAfter (directiveSwitches on (letters.contains 'a')) .verbose false =
        flags.mode.verbose := by
      rw [← hmode]
      exact Mode.stateAfter_eq (on_of_mem_directiveSwitches h hon) .verbose {}
    rw [hverbose] at hread
    have hfirst : ∀ extent switches, (Partial.begin rest).Behind switches
        ((Partial.begin (front ++ rest)).push (.flags extent switches)) :=
      fun _ _ => .first rfl rfl rfl
    obtain ⟨tree'', htree'', hexpr⟩ := htree.behindDirective (hfirst _ _)
    rw [(hread.unique htree'').1, hexpr, hmode]

end Flags

end Munch.Regex

namespace Munch.Matcher

/-- A pattern that is compiled with flags matches what it matches with the same flags switched in
front of it, and its groups take the same part in each match. -/
theorem findAt_directive {config config' : Config} {source letters : String} {pattern : Pattern}
    {m m' : Matcher} {limits : Regex.Limits} {on : List Char} {r : Regex}
    (hpattern : Pattern.regexWithFlags source letters = .ok pattern)
    (hm : pattern.matcher config = .ok m)
    (hon : ∀ c, c ∈ on ↔ c ∈ "imsxUR".toList ∧ c ∈ letters.toList)
    (hr : Regex.compile limits {} (String.ofList
      (Regex.directive on (letters.toList.contains 'a') ++ source.toList)) = .ok r)
    (hm' : (Pattern.compiled r).matcher config' = .ok m') :
    m.groupNames = m'.groupNames ∧ ∀ text start, m.findAt text start = m'.findAt text start := by
  rw [Pattern.regexWithFlags] at hpattern
  split at hpattern
  next flags hflags =>
    cases hpattern
    cases hm'
    obtain ⟨r', hr', rfl⟩ := Except.map_eq_ok_iff.1 hm
    obtain ⟨tree, after, e, mode, htree, he, rfl⟩ := Regex.exists_of_compile hr'
    obtain ⟨tree', after', e', mode', htree', he', rfl⟩ := Regex.exists_of_compile hr
    obtain ⟨flagList, rfl, hmem⟩ := Regex.exists_inlineFlags hon
    rw [String.toList_ofList] at htree'
    have hexpr := Regex.toExpr_directive hflags hmem rfl htree htree'
    rw [he, he', Except.ok.injEq, Prod.mk.injEq] at hexpr
    obtain ⟨rfl, -⟩ := hexpr
    exact ⟨rfl, fun _ _ => rfl⟩
  · cases hpattern

/-- The flags `i`, `x` and `a`, one of them spelt twice, for a pattern that sets one of them
back. -/
theorem findAt_directive_alternatives :
    ∃ (pattern : Pattern) (m m' : Matcher) (r : Regex),
      Pattern.regexWithFlags "(?P<k> b|(?-i:b)) (c) | d # e" "xiagi" = .ok pattern ∧
      pattern.matcher {} = .ok m ∧
      (∀ c, c ∈ ['i', 'x'] ↔ c ∈ "imsxUR".toList ∧ c ∈ "xiagi".toList) ∧
      Regex.compile {} {} "(?ix-u)(?P<k> b|(?-i:b)) (c) | d # e" = .ok r ∧
      (Pattern.compiled r).matcher {} = .ok m' ∧
      m'.findAt "aBC".toList 0 = some ⟨⟨1, 3⟩, [some ⟨1, 2⟩, some ⟨2, 3⟩]⟩ ∧
      m.findAt "aBC".toList 0 = m'.findAt "aBC".toList 0 := by
  let pattern : Pattern :=
    (Pattern.regexWithFlags "(?P<k> b|(?-i:b)) (c) | d # e" "xiagi").toOption.getD default
  let m : Matcher := (pattern.matcher {}).toOption.getD default
  let r : Regex :=
    (Regex.compile {} {} "(?ix-u)(?P<k> b|(?-i:b)) (c) | d # e").toOption.getD default
  have hpattern :
      Pattern.regexWithFlags "(?P<k> b|(?-i:b)) (c) | d # e" "xiagi" = .ok pattern := by
    decide +kernel
  have hm : pattern.matcher {} = .ok m := by decide +kernel
  have hon : ∀ c, c ∈ ['i', 'x'] ↔ c ∈ "imsxUR".toList ∧ c ∈ "xiagi".toList := by
    intro c
    simp
    grind
  have hr : Regex.compile {} {} "(?ix-u)(?P<k> b|(?-i:b)) (c) | d # e" = .ok r := by decide +kernel
  have hm' : (Pattern.compiled r).matcher {} = .ok (.regex r) := rfl
  exact ⟨pattern, m, .regex r, r, hpattern, hm, hon, hr, hm', by decide +kernel,
    (findAt_directive hpattern hm hon hr hm').2 _ 0⟩

end Munch.Matcher
