import Mathlib.Data.String.Basic
import Munch.Ini
import Munch.Proofs.Except

/-!
# Documents as maps

Names are kept in increasing order, so no name occurs twice, and what is set last is what is found.

* `Ini.Document.Ordered`: the order, which the two changes of a document keep.
* `Ini.Document.value?_addSection`, `Ini.Document.value?_setEntry`: what they do to its entries.
* `Ini.document_of_parse`: every document that is read is ordered, and has those values that are set
  last by an entry below a heading of the section.
-/

namespace Munch.Ini

namespace Dictionary

variable {α : Type} {d : Dictionary α} {name : String} {default : α} {f : α → α}

/-- The names are in increasing order. -/
def Ordered (d : Dictionary α) : Prop := d.Pairwise fun e e' => e.1 < e'.1

/-- What is in a dictionary after a change is the changed value, or was there before. -/
theorem mem_alter {e : String × α} (he : e ∈ alter name default f d) :
    (e.1 = name ∧ (e.2 = f default ∨ ∃ v, (name, v) ∈ d ∧ e.2 = f v)) ∨ e ∈ d := by
  induction d with
  | nil =>
    obtain rfl := List.mem_singleton.1 he
    exact .inl ⟨rfl, .inl rfl⟩
  | cons first rest ih =>
    obtain ⟨n, v⟩ := first
    rw [alter] at he
    split at he
    · rcases List.mem_cons.1 he with rfl | he
      · exact .inl ⟨rfl, .inl rfl⟩
      · exact .inr he
    · split at he
      next hn =>
        rcases List.mem_cons.1 he with rfl | he
        · exact .inl ⟨hn.symm, .inr ⟨v, by simp [hn], rfl⟩⟩
        · exact .inr (List.mem_cons_of_mem _ he)
      · rcases List.mem_cons.1 he with rfl | he
        · exact .inr (by simp)
        · rcases ih he with ⟨hname, h | ⟨v', hmem, h⟩⟩ | h
          · exact .inl ⟨hname, .inl h⟩
          · exact .inl ⟨hname, .inr ⟨v', List.mem_cons_of_mem _ hmem, h⟩⟩
          · exact .inr (List.mem_cons_of_mem _ h)

theorem Ordered.alter (h : d.Ordered) : (alter name default f d).Ordered := by
  induction d with
  | nil => exact List.pairwise_singleton _ _
  | cons first rest ih =>
    obtain ⟨n, v⟩ := first
    obtain ⟨hfirst, hrest⟩ := List.pairwise_cons.1 h
    rw [Dictionary.alter]
    split
    next hlt =>
      refine List.pairwise_cons.2 ⟨fun e he => ?_, h⟩
      rcases List.mem_cons.1 he with rfl | he
      · exact hlt
      · exact hlt.trans (hfirst e he)
    next hlt =>
      split
      · exact List.pairwise_cons.2 ⟨hfirst, hrest⟩
      next hne =>
        refine List.pairwise_cons.2 ⟨fun e he => ?_, ih hrest⟩
        rcases mem_alter he with ⟨hname, -⟩ | he
        · rw [hname]
          exact (not_lt.1 hlt).lt_of_ne (Ne.symm hne)
        · exact hfirst e he

theorem lookup_cons (n key : String) (v : α) (d : Dictionary α) :
    List.lookup key ((n, v) :: d) = if key = n then some v else d.lookup key := by
  rw [List.lookup_cons]
  by_cases h : key = n
  · rw [if_pos h, beq_iff_eq.2 h]
  · rw [if_neg h, beq_eq_false_iff_ne.2 h]

theorem lookup_eq_none_of_lt (h : ∀ e ∈ d, name < e.1) : d.lookup name = none := by
  rw [List.lookup_eq_none_iff]
  intro e he
  simpa using (h e he).ne

/-- Only the value of the name that is changed is another one. -/
theorem lookup_alter (h : d.Ordered) (key : String) : (alter name default f d).lookup key =
    if key = name then some (f ((d.lookup name).getD default)) else d.lookup key := by
  induction d with
  | nil => rw [alter, lookup_cons, List.lookup_nil, List.lookup_nil, Option.getD_none]
  | cons first rest ih =>
    obtain ⟨n, v⟩ := first
    obtain ⟨hfirst, hrest⟩ := List.pairwise_cons.1 h
    rw [alter]
    split
    next hlt =>
      have hnone : ((n, v) :: rest).lookup name = none := by
        refine lookup_eq_none_of_lt fun e he => ?_
        rcases List.mem_cons.1 he with rfl | he
        · exact hlt
        · exact hlt.trans (hfirst e he)
      rw [hnone, lookup_cons, Option.getD_none]
    next hlt =>
      split
      next hn =>
        subst hn
        rw [lookup_cons, lookup_cons, lookup_cons, if_pos rfl, Option.getD_some]
        split <;> rfl
      next hne =>
        rw [lookup_cons, lookup_cons, lookup_cons, ih hrest, if_neg hne]
        by_cases hkey : key = n
        · rw [if_pos hkey, if_pos hkey, if_neg (hkey ▸ Ne.symm hne)]
        · rw [if_neg hkey, if_neg hkey]

end Dictionary

namespace Document

variable {d : Document} {name key value : String}

/-- Sections and entries are in increasing order. -/
structure Ordered (d : Document) : Prop where
  sections : Dictionary.Ordered d
  entries : ∀ e ∈ d, Dictionary.Ordered e.2

/-- The value of a key in a section. -/
def value? (d : Document) (name key : String) : Option String :=
  (d.lookup name).bind fun entries => entries.lookup key

theorem Ordered.nil : Ordered [] := ⟨List.Pairwise.nil, by simp⟩

theorem Ordered.alter (h : d.Ordered) {f : Dictionary String → Dictionary String}
    (hf : ∀ entries, Dictionary.Ordered entries → Dictionary.Ordered (f entries)) :
    Ordered (Dictionary.alter name [] f d) := by
  refine ⟨h.sections.alter, fun e he => ?_⟩
  rcases Dictionary.mem_alter he with ⟨-, heq | ⟨entries, hmem, heq⟩⟩ | he
  · rw [heq]
    exact hf [] .nil
  · rw [heq]
    exact hf entries (h.entries _ hmem)
  · exact h.entries e he

theorem Ordered.addSection (h : d.Ordered) : (d.addSection name).Ordered :=
  h.alter fun _ => id

theorem Ordered.setEntry (h : d.Ordered) : (d.setEntry name key value).Ordered :=
  h.alter fun _ => Dictionary.Ordered.alter

theorem Ordered.getD_lookup (h : d.Ordered) (name : String) :
    Dictionary.Ordered ((d.lookup name).getD []) := by
  cases hl : d.lookup name with
  | none => exact List.Pairwise.nil
  | some entries =>
    obtain ⟨as, bs, rfl, -⟩ := List.lookup_eq_some_iff.1 hl
    exact h.entries (name, entries) (by simp)

/-- A new section has no entries. -/
theorem value?_addSection (h : d.Ordered) (name' key' : String) :
    (d.addSection name).value? name' key' = d.value? name' key' := by
  rw [value?, value?, addSection, Dictionary.lookup_alter h.sections]
  by_cases hname : name' = name
  · subst hname
    cases hl : d.lookup name' with
    | none => simp
    | some entries => simp
  · rw [if_neg hname]

/-- Only the entry that is set is another one. -/
theorem value?_setEntry (h : d.Ordered) (name' key' : String) :
    (d.setEntry name key value).value? name' key' =
      if name' = name ∧ key' = key then some value else d.value? name' key' := by
  rw [value?, value?, setEntry, Dictionary.lookup_alter h.sections]
  by_cases hname : name' = name
  · subst hname
    rw [if_pos rfl, Option.bind_some, Dictionary.lookup_alter (h.getD_lookup name')]
    by_cases hkey : key' = key
    · simp [hkey]
    · cases hl : d.lookup name' with
      | none => simp [hkey]
      | some entries => simp [hkey]
  · simp [hname]

end Document

theorem State.ordered_add {s : State} (h : s.document.Ordered) (t : Token Kind) :
    (s.add t).document.Ordered := by
  rw [add]
  split
  · exact h.addSection
  · exact h.setEntry
  · exact h
  · split
    · exact h
    · exact h

theorem State.ordered_foldl_add {s : State} (h : s.document.Ordered) (tokens : List (Token Kind)) :
    (tokens.foldl add s).document.Ordered := by
  induction tokens generalizing s with
  | nil => exact h
  | cons t tokens ih => exact ih (State.ordered_add h t)

/-- The entries of tokens: the section that each is in, which the last heading before it names, its
key and its value. -/
def entriesOf (current : String) : List (Token Kind) → List (String × String × String)
  | [] => []
  | t :: tokens =>
    match t.tag? with
    | some .heading => entriesOf (String.ofList (trim (groupText t "name"))) tokens
    | some .entry =>
      (current, String.ofList (groupText t "key"), String.ofList (groupText t "value")) ::
        entriesOf current tokens
    | _ => entriesOf current tokens

/-- The value of the last entry with a key in a section. -/
def lastValue? (entries : List (String × String × String)) (name key : String) : Option String :=
  (entries.reverse.find? fun e => e.1 = name ∧ e.2.1 = key).map (·.2.2)

theorem lastValue?_cons (current key value name' key' : String)
    (entries : List (String × String × String)) :
    lastValue? ((current, key, value) :: entries) name' key' = (lastValue? entries name' key').or
      (if name' = current ∧ key' = key then some value else none) := by
  rw [lastValue?, List.reverse_cons, List.find?_append, Option.map_or, List.find?_singleton]
  refine congrArg (Option.or _) ?_
  by_cases h : name' = current ∧ key' = key
  · rw [if_pos h, if_pos (by simp [h])]
    rfl
  · have hne : ¬ (current = name' ∧ key = key') := fun heq => h ⟨heq.1.symm, heq.2.symm⟩
    rw [if_neg h, if_neg (by simpa using hne)]
    rfl

/-- What is set last is found, and else what was there before. -/
theorem State.value?_foldl_add {s : State} (h : s.document.Ordered) (tokens : List (Token Kind))
    (name key : String) : (tokens.foldl add s).document.value? name key =
      (lastValue? (entriesOf s.current tokens) name key).or (s.document.value? name key) := by
  induction tokens generalizing s with
  | nil => rfl
  | cons t tokens ih =>
    rw [List.foldl_cons, ih (State.ordered_add h t), entriesOf, add]
    cases htag : t.tag? with
    | none =>
      dsimp only
      split <;> rfl
    | some kind =>
      cases kind with
      | heading => exact congrArg (Option.or _) (Document.value?_addSection h name key)
      | entry =>
        dsimp only
        rw [Document.value?_setEntry h, lastValue?_cons, Option.or_assoc]
        refine congrArg (Option.or _) ?_
        split <;> rfl
      | comment | newline | blank => rfl

/-- Every document that is read is ordered, and what is set last is found in it. -/
theorem document_of_parse {source : List Char} {d : Document} {badLines : List Nat}
    (h : parse source = .ok (d, badLines)) :
    d.Ordered ∧ ∃ t, Tokenizer.build {} definitions = .ok t ∧
      ∀ name key, d.value? name key = lastValue? (entriesOf "" (t.scan source)) name key := by
  obtain ⟨t, ht, h⟩ := Except.map_eq_ok_iff.1 h
  obtain rfl : (ofTokens (t.scan source)).1 = d := congrArg Prod.fst h
  refine ⟨State.ordered_foldl_add .nil _, t, ht, fun name key => ?_⟩
  exact (State.value?_foldl_add .nil _ name key).trans (Option.or_none)

end Munch.Ini
