/-
**Records of words with a separator between them.**

* `until_separator`: a word without the separator is determined by what it and its separator begin;
* `joined_unique`: words of one length are determined by their joined text.
-/

import CosMonitor.Foundation.Readable

namespace Fields

variable {Symbol : Type} {separator : Symbol} {word other rest after : List Symbol}

/-! ### One field -/

/-- **A word without the separator** is determined, and so is what follows its separator. -/
theorem until_separator [DecidableEq Symbol] (absent : separator ∉ word) (otherAbsent : separator ∉ other)
    (same : word ++ separator :: rest = other ++ separator :: after) : word = other ∧ rest = after := by
  have belongs : ∀ {part : List Symbol}, separator ∉ part →
      ∀ symbol ∈ part, decide (symbol ≠ separator) = true := by
    intro part absent symbol member
    rw [decide_eq_true_eq]
    rintro rfl
    exact absent member
  have ends : ∀ later : List Symbol, ∀ symbol ∈ (separator :: later).head?,
      decide (symbol ≠ separator) = false := by
    intro later symbol first
    obtain rfl := Option.some.inj first
    simp
  obtain ⟨words, rests⟩ := Readable.span_unique (belongs absent) (belongs otherAbsent) (ends rest)
    (ends after) same
  exact ⟨words, (List.cons.inj rests).2⟩

/-! ### Joined words -/

theorem intercalate_cons (word : List Symbol) (words : List (List Symbol)) :
    [separator].intercalate (word :: words) = word ++ words.flatMap (separator :: ·) := by
  induction words generalizing word with
  | nil => simp
  | cons next words ih =>
      rw [List.intercalate_cons_cons, ih next, List.flatMap_cons]
      simp

theorem mem_intercalate {symbol : Symbol} {words : List (List Symbol)}
    (member : symbol ∈ [separator].intercalate words) :
    symbol = separator ∨ ∃ word ∈ words, symbol ∈ word := by
  cases words with
  | nil => cases member
  | cons word words =>
      rw [intercalate_cons, List.mem_append, List.mem_flatMap] at member
      rcases member with first | ⟨later, isWord, inside⟩
      · exact .inr ⟨word, List.mem_cons_self, first⟩
      · rcases List.mem_cons.mp inside with isSeparator | inside
        · exact .inl isSeparator
        · exact .inr ⟨later, List.mem_cons_of_mem _ isWord, inside⟩

variable {width : Nat} {words others : List (List Symbol)}

theorem separated_unique (widths : ∀ word ∈ words, word.length = width)
    (otherWidths : ∀ word ∈ others, word.length = width)
    (same : words.flatMap (separator :: ·) = others.flatMap (separator :: ·)) : words = others := by
  induction words generalizing others with
  | nil =>
      cases others with
      | nil => rfl
      | cons other others => cases same
  | cons word words ih =>
      cases others with
      | nil => cases same
      | cons other others =>
          rw [List.flatMap_cons, List.flatMap_cons, List.cons_append, List.cons_append] at same
          obtain ⟨first, later⟩ := List.forall_mem_cons.mp widths
          obtain ⟨otherFirst, otherLater⟩ := List.forall_mem_cons.mp otherWidths
          obtain ⟨heads, tails⟩ := List.append_inj (List.cons.inj same).2 (first.trans otherFirst.symm)
          rw [heads, ih later otherLater tails]

/-- **Words of one length are determined by their joined text.** -/
theorem joined_unique (positive : 0 < width) (widths : ∀ word ∈ words, word.length = width)
    (otherWidths : ∀ word ∈ others, word.length = width)
    (same : [separator].intercalate words = [separator].intercalate others) : words = others := by
  have nonempty : ∀ {word : List Symbol} {words : List (List Symbol)}, word.length = width →
      [] ≠ [separator].intercalate (word :: words) := by
    intro word words long equal
    rw [intercalate_cons] at equal
    have short := congrArg List.length equal
    rw [List.length_append, List.length_nil] at short
    omega
  cases words with
  | nil =>
      cases others with
      | nil => rfl
      | cons other others => exact absurd same (nonempty (otherWidths other List.mem_cons_self))
  | cons word words =>
      cases others with
      | nil => exact absurd same.symm (nonempty (widths word List.mem_cons_self))
      | cons other others =>
          obtain ⟨first, later⟩ := List.forall_mem_cons.mp widths
          obtain ⟨otherFirst, otherLater⟩ := List.forall_mem_cons.mp otherWidths
          rw [intercalate_cons, intercalate_cons] at same
          obtain ⟨heads, tails⟩ := List.append_inj same (first.trans otherFirst.symm)
          rw [heads, separated_unique later otherLater tails]

end Fields
