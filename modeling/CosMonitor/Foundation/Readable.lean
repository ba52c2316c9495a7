/-
**Texts that determine what they were written for.**

A writer gives every item a word. What follows the word of an item is known to begin in a certain way, so
that the end of the word can be told.

* `Determines`: the word of an item and what follows it determine the item, up to a relation, and what follows;
* `span_unique`: words of one class of symbols, where a symbol of another class follows;
* `code_unique`: a word written symbol by symbol in a code, up to a closing symbol;
* `Determines.spaced`: lists of items with a separator and a gap between them, up to a closing symbol.
-/

import Mathlib.Data.List.Basic
import Mathlib.Data.List.Forall2

namespace Readable

variable {Item Symbol : Type}

/-! ### Words -/

section Words

/-- **Words of one class**: where a symbol of another class follows, the word is determined. -/
theorem span_unique {belongs : Symbol → Bool} {word other rest after : List Symbol}
    (inside : ∀ symbol ∈ word, belongs symbol = true) (otherInside : ∀ symbol ∈ other, belongs symbol = true)
    (ends : ∀ symbol ∈ rest.head?, belongs symbol = false)
    (otherEnds : ∀ symbol ∈ after.head?, belongs symbol = false)
    (same : word ++ rest = other ++ after) : word = other ∧ rest = after := by
  induction word generalizing other with
  | nil =>
      cases other with
      | nil => exact ⟨rfl, same⟩
      | cons symbol other =>
          rw [List.nil_append] at same
          have belongsTo := otherInside symbol List.mem_cons_self
          rw [ends symbol (by rw [same]; rfl)] at belongsTo
          cases belongsTo
  | cons symbol word ih =>
      cases other with
      | nil =>
          rw [List.nil_append] at same
          have belongsTo := inside symbol List.mem_cons_self
          rw [otherEnds symbol (by rw [← same]; rfl)] at belongsTo
          cases belongsTo
      | cons otherSymbol other =>
          rw [List.cons_append, List.cons_append, List.cons.injEq] at same
          obtain ⟨tails, rests⟩ := ih (List.forall_mem_cons.mp inside).2
            (List.forall_mem_cons.mp otherInside).2 same.2
          exact ⟨by rw [same.1, tails], rests⟩

/-- **Words in a code**, up to a symbol that no code word begins with. -/
theorem code_unique {code : Item → List Symbol} {close : Symbol}
    (prefixCode : ∀ item other rest after, code item ++ rest = code other ++ after →
      item = other ∧ rest = after)
    (opens : ∀ item, ∃ head tail, code item = head :: tail ∧ head ≠ close) {word other : List Item}
    {rest after : List Symbol}
    (same : word.flatMap code ++ close :: rest = other.flatMap code ++ close :: after) :
    word = other ∧ rest = after := by
  induction word generalizing other with
  | nil =>
      cases other with
      | nil => exact ⟨rfl, (List.cons.inj same).2⟩
      | cons item other =>
          obtain ⟨head, tail, isWord, differs⟩ := opens item
          rw [List.flatMap_cons, isWord] at same
          exact absurd (List.cons.inj same).1.symm differs
  | cons item word ih =>
      cases other with
      | nil =>
          obtain ⟨head, tail, isWord, differs⟩ := opens item
          rw [List.flatMap_cons, isWord] at same
          exact absurd (List.cons.inj same).1 differs
      | cons otherItem other =>
          rw [List.flatMap_cons, List.flatMap_cons, List.append_assoc, List.append_assoc] at same
          obtain ⟨items, remaining⟩ := prefixCode _ _ _ _ same
          obtain ⟨words, rests⟩ := ih remaining
          exact ⟨by rw [items, words], rests⟩

end Words

/-! ### Items -/

section Items

/-- The word of an item and what follows it determine the item, up to a relation, and what follows. -/
def Determines (ends : List Symbol → Prop) (write : Item → List Symbol) (alike : Item → Item → Prop)
    (item : Item) : Prop :=
  ∀ other rest after, ends rest → ends after → write item ++ rest = write other ++ after →
    alike item other ∧ rest = after

variable (separator close : Symbol) (write : Item → List Symbol)

/-- Further items, each after a separator, and the closing symbol. -/
def further : List Item → List Symbol
  | [] => [close]
  | item :: rest => separator :: (write item ++ further rest)

variable {separator close write}

/-- Items with separators between them, a gap after each separator, and the closing symbol. -/
def spaced (separator close : Symbol) (gap : List Symbol) (write : Item → List Symbol) :
    List Item → List Symbol
  | [] => [close]
  | item :: rest => write item ++ further separator close (fun item => gap ++ write item) rest

theorem spaced_eq_intercalate (gap : List Symbol) (items : List Item) :
    spaced separator close gap write items =
      (separator :: gap).intercalate (items.map write) ++ [close] := by
  cases items with
  | nil => rfl
  | cons item rest =>
      rw [spaced]
      induction rest generalizing item with
      | nil => simp [further]
      | cons next rest ih =>
          rw [further, List.append_assoc, ih next, List.map_cons, List.map_cons, List.map_cons,
            List.intercalate_cons_cons]
          simp

theorem infix_further {item : Item} {items : List Item} (member : item ∈ items) :
    write item <:+: further separator close write items := by
  induction items with
  | nil => cases member
  | cons first rest ih =>
      rw [further]
      refine List.IsInfix.trans ?_ (List.suffix_cons _ _).isInfix
      rcases List.mem_cons.mp member with rfl | later
      · exact List.infix_append_left
      · exact (ih later).trans List.infix_append_right

/-- The word of every item is inside a spaced list. -/
theorem infix_spaced {gap : List Symbol} {item : Item} {items : List Item} (member : item ∈ items) :
    write item <:+: spaced separator close gap write items := by
  cases items with
  | nil => cases member
  | cons first rest =>
      rw [spaced]
      rcases List.mem_cons.mp member with rfl | later
      · exact List.infix_append_left
      · have whole := @infix_further _ _ separator close (fun item => gap ++ write item) item rest later
        exact (List.infix_append_right.trans whole).trans List.infix_append_right

theorem forall_mem_further {holds : Symbol → Prop} {items : List Item} (atSeparator : holds separator)
    (atClose : holds close) (words : ∀ item ∈ items, ∀ symbol ∈ write item, holds symbol) :
    ∀ symbol ∈ further separator close write items, holds symbol := by
  induction items with
  | nil => exact List.forall_mem_singleton.mpr atClose
  | cons item rest ih =>
      obtain ⟨first, later⟩ := List.forall_mem_cons.mp words
      exact List.forall_mem_cons.mpr ⟨atSeparator, List.forall_mem_append.mpr ⟨first, ih later⟩⟩

/-- Every symbol of a spaced list is one of an item, of a gap, a separator or the closing symbol. -/
theorem forall_mem_spaced {holds : Symbol → Prop} {gap : List Symbol} {items : List Item}
    (atSeparator : holds separator) (atClose : holds close) (atGap : ∀ symbol ∈ gap, holds symbol)
    (words : ∀ item ∈ items, ∀ symbol ∈ write item, holds symbol) :
    ∀ symbol ∈ spaced separator close gap write items, holds symbol := by
  cases items with
  | nil => exact List.forall_mem_singleton.mpr atClose
  | cons item rest =>
      obtain ⟨first, later⟩ := List.forall_mem_cons.mp words
      refine List.forall_mem_append.mpr ⟨first, forall_mem_further atSeparator atClose ?_⟩
      exact fun item member => List.forall_mem_append.mpr ⟨atGap, later item member⟩

theorem length_le_spaced (gap : List Symbol) {items : List Item}
    (nonempty : ∀ item ∈ items, 0 < (write item).length) :
    items.length ≤ (spaced separator close gap write items).length := by
  rw [spaced_eq_intercalate, List.length_append]
  induction items with
  | nil => exact Nat.zero_le _
  | cons item rest ih =>
      obtain ⟨first, later⟩ := List.forall_mem_cons.mp nonempty
      have others := ih later
      cases rest with
      | nil => exact Nat.succ_le_of_lt (Nat.add_pos_right _ Nat.one_pos)
      | cons next rest =>
          rw [List.map_cons, List.map_cons, List.intercalate_cons_cons, List.length_append, List.length_append]
          rw [List.map_cons] at others
          rw [List.length_cons]
          omega

variable {ends : List Symbol → Prop} {alike : Item → Item → Prop} {items others : List Item}
  {rest after : List Symbol}

theorem ends_further (atSeparator : ∀ word, ends (separator :: word)) (atClose : ∀ word, ends (close :: word)) :
    ends (further separator close write items ++ rest) := by
  cases items with
  | nil => exact atClose _
  | cons item items => exact atSeparator _

theorem Determines.further (differ : separator ≠ close) (atSeparator : ∀ word, ends (separator :: word))
    (atClose : ∀ word, ends (close :: word))
    (determined : ∀ item ∈ items, Determines ends write alike item)
    (same : further separator close write items ++ rest = further separator close write others ++ after) :
    List.Forall₂ alike items others ∧ rest = after := by
  induction items generalizing others with
  | nil =>
      cases others with
      | nil => exact ⟨.nil, (List.cons.inj same).2⟩
      | cons other others => exact absurd (List.cons.inj same).1.symm differ
  | cons item items ih =>
      cases others with
      | nil => exact absurd (List.cons.inj same).1 differ
      | cons other others =>
          rw [Readable.further, Readable.further, List.cons_append, List.cons_append, List.append_assoc,
            List.append_assoc] at same
          have texts := (List.cons.inj same).2
          obtain ⟨first, remaining⟩ := determined item List.mem_cons_self other _ _
            (ends_further atSeparator atClose) (ends_further atSeparator atClose) texts
          obtain ⟨tails, rests⟩ := ih (List.forall_mem_cons.mp determined).2 remaining
          exact ⟨.cons first tails, rests⟩

theorem Determines.gap {item : Item} (gap : List Symbol) (determined : Determines ends write alike item) :
    Determines ends (fun item => gap ++ write item) alike item := by
  intro other rest after atEnd otherEnd same
  rw [List.append_assoc, List.append_assoc] at same
  exact determined other rest after atEnd otherEnd (List.append_cancel_left same)

/-- **A spaced list of items is determined**, item by item, when no item begins with the closing symbol. -/
theorem Determines.spaced {gap : List Symbol} (differ : separator ≠ close)
    (atSeparator : ∀ word, ends (separator :: word)) (atClose : ∀ word, ends (close :: word))
    (opens : ∀ item, ∃ head tail, write item = head :: tail ∧ head ≠ close)
    (determined : ∀ item ∈ items, Determines ends write alike item)
    (same : spaced separator close gap write items ++ rest =
      spaced separator close gap write others ++ after) :
    List.Forall₂ alike items others ∧ rest = after := by
  have apart : ∀ item word (rest after : List Symbol),
      close :: rest ≠ write item ++ word ++ after := fun item word rest after equal => by
    obtain ⟨head, tail, isWord, differs⟩ := opens item
    rw [isWord] at equal
    exact differs (List.cons.inj equal).1.symm
  cases items with
  | nil =>
      cases others with
      | nil => exact ⟨.nil, (List.cons.inj same).2⟩
      | cons other others => exact absurd same (apart _ _ _ _)
  | cons item items =>
      cases others with
      | nil => exact absurd same.symm (apart _ _ _ _)
      | cons other others =>
          rw [Readable.spaced, Readable.spaced, List.append_assoc, List.append_assoc] at same
          obtain ⟨first, remaining⟩ := determined item List.mem_cons_self other _ _
            (ends_further atSeparator atClose) (ends_further atSeparator atClose) same
          obtain ⟨tails, rests⟩ := Determines.further differ atSeparator atClose
            (fun later member => ((List.forall_mem_cons.mp determined).2 later member).gap gap) remaining
          exact ⟨.cons first tails, rests⟩

end Items

end Readable
