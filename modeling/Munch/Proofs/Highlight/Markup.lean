import Mathlib.Data.List.Flatten
import Munch.Proofs.Highlight.Patterns
import Munch.Proofs.Session.Coverage

/-!
# Taking the tags off again

Texts of tokens stand between tags as they are. One pass over the markup that deletes all tags
leaves the source, unless a key or a string has the text of a tag in it: no other token can have
one, and no tag begins in one token and ends in another.

* `Highlight.untag`: the pass, and `Highlight.untag_eq_self_iff`, what it leaves as it is.
* `Highlight.untag_highlight`: it goes through the tokens one by one.
* `Highlight.untag_highlight_eq_iff`: when it gives back the source.
-/

namespace Munch.Highlight

open Regex Session

/-! ## Tags -/

def opening (name : String) : List Char := '<' :: name.toList ++ ['>']

def closing (name : String) : List Char := '<' :: '/' :: name.toList ++ ['>']

def tags : List (List Char) :=
  ["key", "str", "num", "lit", "punct", "err"].flatMap fun name => [opening name, closing name]

theorem mem_tags_of_tagName {kind? : Option Kind} {name : String} (h : tagName kind? = some name) :
    opening name ∈ tags ∧ closing name ∈ tags := by
  rcases kind? with _ | _ | _ | _ | _ | _ | _ <;> cases h <;> decide

theorem tagName_eq_none_iff {kind? : Option Kind} : tagName kind? = none ↔ kind? = some .space := by
  rcases kind? with _ | _ | _ | _ | _ | _ | _ <;> decide

/-- A tag begins with the only `<` in it. -/
theorem of_mem_tags : ∀ tag ∈ tags, tag.head? = some '<' ∧ '<' ∉ tag.tail := by decide

theorem exists_cons_of_mem_tags {tag : List Char} (h : tag ∈ tags) : ∃ cs, tag = '<' :: cs :=
  List.head?_eq_some_iff.1 (of_mem_tags tag h).1

theorem eq_of_isPrefix : ∀ tag ∈ tags, ∀ tag' ∈ tags, tag <+: tag' → tag = tag' := by decide

/-- Deletes the tags from left to right; `skip` more characters belong to the last one. -/
def untagFrom : Nat → List Char → List Char
  | _, [] => []
  | skip + 1, _ :: cs => untagFrom skip cs
  | 0, c :: cs =>
    match tags.find? (·.isPrefixOf (c :: cs)) with
    | some tag => untagFrom (tag.length - 1) cs
    | none => c :: untagFrom 0 cs

/-- Deletes the tags from left to right. -/
def untag (text : List Char) : List Char := untagFrom 0 text

section Untag

variable {tag text rest as bs : List Char} {c : Char} {cs : List Char}

theorem untagFrom_append (as bs : List Char) : untagFrom as.length (as ++ bs) = untag bs := by
  induction as with
  | nil => rfl
  | cons c as ih => rw [List.length_cons, List.cons_append, untagFrom, ih]

/-- No tag is the beginning of another one, so that it does not matter in which order they are
tried. -/
theorem find?_eq_some (h : tag ∈ tags) (hp : tag <+: text) :
    tags.find? (·.isPrefixOf text) = some tag := by
  cases hf : tags.find? (·.isPrefixOf text) with
  | none => exact absurd (List.isPrefixOf_iff_prefix.2 hp) (List.find?_eq_none.1 hf tag h)
  | some tag' =>
    have hp' := List.find?_some hf
    rw [List.isPrefixOf_iff_prefix] at hp'
    have h' := List.mem_of_find?_eq_some hf
    rcases List.prefix_or_prefix_of_prefix hp hp' with hpp | hpp
    · rw [eq_of_isPrefix tag h tag' h' hpp]
    · rw [eq_of_isPrefix tag' h' tag h hpp]

theorem untag_append_of_mem (h : tag ∈ tags) (rest : List Char) :
    untag (tag ++ rest) = untag rest := by
  obtain ⟨cs, rfl⟩ := exists_cons_of_mem_tags h
  have hfind := find?_eq_some h (List.prefix_append _ rest)
  rw [List.cons_append] at hfind ⊢
  rw [untag, untagFrom, hfind]
  exact untagFrom_append cs rest

theorem untag_cons (h : ∀ tag ∈ tags, ¬ tag <+: c :: cs) : untag (c :: cs) = c :: untag cs := by
  have hfind : tags.find? (·.isPrefixOf (c :: cs)) = none :=
    List.find?_eq_none.2 fun tag htag => by simpa using h tag htag
  rw [untag, untagFrom, hfind]
  rfl

/-- A text is empty, or it begins with a tag, or with a character at which there is none. -/
theorem untag_induction {P : List Char → Prop} (nil : P [])
    (tag : ∀ tag ∈ tags, ∀ rest, P rest → P (tag ++ rest))
    (cons : ∀ c cs, (∀ tag ∈ tags, ¬ tag <+: c :: cs) → P cs → P (c :: cs)) (text : List Char) :
    P text := by
  induction hlen : text.length using Nat.strongRecOn generalizing text with
  | _ len ih =>
    by_cases h : ∃ t ∈ tags, t <+: text
    · obtain ⟨t, ht, rest, rfl⟩ := h
      refine tag t ht rest (ih _ ?_ rest rfl)
      obtain ⟨cs, rfl⟩ := exists_cons_of_mem_tags ht
      rw [← hlen, List.length_append, List.length_cons]
      omega
    · cases text with
      | nil => exact nil
      | cons c cs =>
        refine cons c cs (fun t ht hp => h ⟨t, ht, hp⟩) (ih _ ?_ cs rfl)
        rw [← hlen, List.length_cons]
        omega

theorem untag_sublist (text : List Char) : (untag text).Sublist text := by
  induction text using untag_induction with
  | nil => exact .slnil
  | tag tag h rest ih =>
    rw [untag_append_of_mem h]
    exact ih.trans (List.sublist_append_right tag rest)
  | cons c cs h ih =>
    rw [untag_cons h]
    exact ih.cons_cons c

/-- What stays as it is are the texts without tags. -/
theorem untag_eq_self_iff : untag text = text ↔ ∀ tag ∈ tags, ¬ tag <:+: text := by
  induction text using untag_induction with
  | nil =>
    refine iff_of_true rfl fun tag h hp => ?_
    obtain ⟨cs, rfl⟩ := exists_cons_of_mem_tags h
    cases List.infix_nil.1 hp
  | tag tag h rest =>
    refine iff_of_false (fun heq => ?_)
      fun hnone => hnone tag h (List.prefix_append tag rest).isInfix
    rw [untag_append_of_mem h] at heq
    have hlength := (untag_sublist rest).length_le
    obtain ⟨cs, rfl⟩ := exists_cons_of_mem_tags h
    rw [heq, List.length_append, List.length_cons] at hlength
    omega
  | cons c cs h ih =>
    rw [untag_cons h, List.cons.injEq, ih]
    simp only [true_and, List.infix_cons_iff, not_or]
    exact forall₂_congr fun tag htag => (and_iff_right (h tag htag)).symm

/-- A tag at the beginning of two texts lies in the first one, unless the second one begins inside
of it. -/
theorem isPrefix_of_append (h : tag ∈ tags) (has : as ≠ []) (hbs : ∀ c ∈ bs.head?, c = '<')
    (hp : tag <+: as ++ bs) : tag <+: as := by
  rcases List.prefix_or_prefix_of_prefix hp (List.prefix_append as bs) with hp' | ⟨cs, rfl⟩
  · exact hp'
  · cases cs with
    | nil => rw [List.append_nil]
    | cons c cs =>
      obtain ⟨ds, rfl⟩ := (List.prefix_append_right_inj as).1 hp
      obtain rfl : c = '<' := hbs c rfl
      obtain ⟨a, as, rfl⟩ := List.exists_cons_of_ne_nil has
      exact absurd (by simp) (of_mem_tags _ h).2

/-- No tag goes on where the second text begins. -/
theorem untag_append (hbs : ∀ c ∈ bs.head?, c = '<') : untag (as ++ bs) = untag as ++ untag bs := by
  induction as using untag_induction with
  | nil => rfl
  | tag tag h rest ih =>
    rw [List.append_assoc, untag_append_of_mem h, untag_append_of_mem h, ih]
  | cons c cs h ih =>
    rw [List.cons_append, untag_cons h, untag_cons, ih, List.cons_append]
    exact fun tag htag hp => h tag htag (isPrefix_of_append htag (by simp) hbs hp)

@[simp] theorem untag_nil : untag [] = [] := rfl

theorem untag_append_of_not_mem (h : '<' ∉ as) (bs : List Char) :
    untag (as ++ bs) = as ++ untag bs := by
  induction as with
  | nil => rfl
  | cons c as ih =>
    simp only [List.mem_cons, not_or] at h
    rw [List.cons_append, untag_cons, ih h.2, List.cons_append]
    intro tag htag hp
    obtain ⟨cs, rfl⟩ := exists_cons_of_mem_tags htag
    exact h.1 (List.cons_prefix_cons.1 hp).1

end Untag

/-! ## Tokens -/

section Tokens

variable {source : List Char} {token : Token Kind}

/-- A token of a class has only characters that the expression of the class may read. -/
theorem mayRead_of_mem_scan (h : token ∈ jsonTokenizer.scan source) {kind : Kind}
    (hkind : token.tag? = some kind) : ∀ c ∈ token.text, (exprOf kind).mayRead c := by
  obtain ⟨s, after, -, htypes, -, hreads⟩ := (sound_session jsonTokenizer source).exists_reads h
  have hwinner := hreads.winner
  cases hw : token.winner with
  | none => simp [Token.tag?, Token.type?, hw] at hkind
  | some w =>
    obtain ⟨type, m⟩ := w
    rw [hw] at hwinner
    obtain ⟨ht, hm, -⟩ := of_winnerAt hwinner.symm
    rw [htypes] at ht
    obtain ⟨kind', -, rfl⟩ := List.mem_map.1 ht
    obtain rfl : kind' = kind := by simpa [Token.tag?, Token.type?, hw, typeOf] using hkind
    rw [matchAt_typeOf] at hm
    obtain ⟨text, rest, hrest, htext, hspan⟩ := Expr.exists_of_matchAt hm
    rwa [(hreads.text_eq hwinner.symm hrest hspan).1]

theorem key_or_string_of_mayRead {kind : Kind} (h : (exprOf kind).mayRead '<') :
    kind = .key ∨ kind = .string := by
  revert h
  cases kind <;> decide

/-- A tag lies in a key or in a string, if it lies in a token at all. -/
theorem key_or_string_of_isInfix (h : token ∈ jsonTokenizer.scan source) {tag : List Char}
    (htag : tag ∈ tags) (hp : tag <:+: token.text) :
    token.tag? = some .key ∨ token.tag? = some .string := by
  obtain ⟨cs, rfl⟩ := exists_cons_of_mem_tags htag
  cases hkind : token.tag? with
  | some kind =>
    have hmay := mayRead_of_mem_scan h hkind '<' (hp.subset (by simp))
    simpa using key_or_string_of_mayRead hmay
  | none =>
    obtain ⟨s, after, -, -, -, hreads⟩ := (sound_session jsonTokenizer source).exists_reads h
    obtain ⟨c, hc⟩ := hreads.single (by simpa [Token.tag?, Token.type?] using hkind)
    have hlength := hp.length_le
    rw [hc, List.length_singleton, List.length_cons] at hlength
    obtain rfl : cs = [] := List.eq_nil_of_length_eq_zero (by omega)
    exact absurd htag (by decide)

theorem not_mem_of_space (h : token ∈ jsonTokenizer.scan source)
    (hspace : token.tag? = some .space) : '<' ∉ token.text := by
  intro hmem
  rcases key_or_string_of_mayRead (mayRead_of_mem_scan h hspace '<' hmem) with h | h <;> cases h

/-- Between its tags a text is untagged by itself. -/
theorem untag_markup_append (hspace : token.tag? = some .space → '<' ∉ token.text)
    (rest : List Char) : untag (markup token ++ rest) = untag token.text ++ untag rest := by
  rw [markup]
  split
  next name hname =>
    obtain ⟨hopening, hclosing⟩ := mem_tags_of_tagName hname
    have hwrap : wrap name token.text ++ rest =
        opening name ++ (token.text ++ (closing name ++ rest)) := by
      simp [wrap, opening, closing]
    have hhead : ∀ c ∈ (closing name ++ rest).head?, c = '<' := by simp [closing]
    rw [hwrap, untag_append_of_mem hopening, untag_append hhead, untag_append_of_mem hclosing]
  next hname =>
    have hnot := hspace (tagName_eq_none_iff.1 hname)
    have htext : untag token.text = token.text := by simpa using untag_append_of_not_mem hnot []
    rw [untag_append_of_not_mem hnot, htext]

/-- The tags are taken off token by token. -/
theorem untag_highlight (source : List Char) : untag (highlight jsonTokenizer source) =
    (jsonTokenizer.scan source).flatMap fun token => untag token.text := by
  have hspace : ∀ token ∈ jsonTokenizer.scan source, token.tag? = some .space → '<' ∉ token.text :=
    fun token => not_mem_of_space
  rw [highlight]
  generalize jsonTokenizer.scan source = tokens at hspace ⊢
  induction tokens with
  | nil => rfl
  | cons token tokens ih =>
    rw [List.flatMap_cons, List.flatMap_cons, untag_markup_append (hspace token (by simp)),
      ih fun token' h => hspace token' (by simp [h])]

theorem flatMap_untag_eq_iff (tokens : List (Token Kind)) :
    (tokens.flatMap fun token => untag token.text) = tokens.flatMap (·.text) ↔
      ∀ token ∈ tokens, untag token.text = token.text := by
  refine ⟨fun h => ?_, fun h => List.flatMap_congr h⟩
  induction tokens with
  | nil => simp
  | cons token tokens ih =>
    rw [List.flatMap_cons, List.flatMap_cons] at h
    have hhead := (untag_sublist token.text).length_le
    have htail : (tokens.flatMap fun token => untag token.text).length ≤
        (tokens.flatMap (·.text)).length :=
      (List.Sublist.flatMap_right tokens fun token _ => untag_sublist token.text).length_le
    have hlength := congrArg List.length h
    rw [List.length_append, List.length_append] at hlength
    obtain ⟨hhead, htail⟩ := List.append_inj h (by omega)
    simpa using ⟨hhead, ih htail⟩

end Tokens

/-- Taking the tags off the markup of a source gives back the source if and only if no key and no
string of it has a tag in its text. All sources without tags are such. -/
theorem untag_highlight_eq_iff : ∃ t, tokenizer = .ok t ∧ ∀ source : List Char,
    (untag (highlight t source) = source ↔
      ∀ token ∈ t.scan source, token.tag? = some .key ∨ token.tag? = some .string →
        ∀ tag ∈ tags, ¬ tag <:+: token.text) ∧
    ((∀ tag ∈ tags, ¬ tag <:+: source) → untag (highlight t source) = source) := by
  refine ⟨jsonTokenizer, tokenizer_eq, fun source => ?_⟩
  have htext : (jsonTokenizer.scan source).flatMap (·.text) = source :=
    jsonTokenizer.flatMap_text_scan source
  have hiff : untag (highlight jsonTokenizer source) = source ↔
      ∀ token ∈ jsonTokenizer.scan source, ∀ tag ∈ tags, ¬ tag <:+: token.text := by
    rw [untag_highlight]
    conv_lhs => rhs; rw [← htext]
    simp only [flatMap_untag_eq_iff, untag_eq_self_iff]
  refine ⟨hiff.trans ⟨fun h token htoken _ => h token htoken, fun h token htoken tag htag hp => ?_⟩,
    fun h => hiff.2 fun token htoken tag htag hp => h tag htag ?_⟩
  · exact h token htoken (key_or_string_of_isInfix htoken htag hp) tag htag hp
  · have hinfix : token.text <:+: source := by
      rw [← htext, List.flatMap_def]
      exact List.infix_of_mem_flatten (List.mem_map_of_mem htoken)
    exact hp.trans hinfix

/-- The text of a string is taken for a tag. -/
theorem untag_highlight_ne : ∃ t, tokenizer = .ok t ∧
    highlight t "\"<key>\"".toList = "<str>\"<key>\"</str>".toList ∧
    untag (highlight t "\"<key>\"".toList) = "\"\"".toList ∧
    ¬ ∀ source, untag (highlight t source) = source := by
  have hhighlight : highlight jsonTokenizer "\"<key>\"".toList =
      "<str>\"<key>\"</str>".toList := by
    decide +kernel
  have huntag : untag (highlight jsonTokenizer "\"<key>\"".toList) = "\"\"".toList := by
    rw [hhighlight]
    decide
  refine ⟨jsonTokenizer, tokenizer_eq, hhighlight, huntag, fun h => ?_⟩
  have heq := h "\"<key>\"".toList
  rw [huntag] at heq
  exact absurd heq (by decide)

end Munch.Highlight
