/-
**Words with escaped symbols.**

A mark stands before every special symbol of an escaped word, and the mark itself is special.

* `escape`: a word, escaped;
* `Survives`: a word of marks, at most one other symbol, plain symbols, and marks again;
* `Survives.within`, `survives_of_within`: exactly these words occur in their own escaped form;
* `plain_of_overlap`: a word that ends with plain symbols beyond an end of its escaped form is plain.
-/

import Mathlib.Data.List.Basic
import Mathlib.Data.List.Infix
import Mathlib.Tactic.Cases

namespace Escaping

section Words

variable {Symbol : Type} (mark : Symbol) (special : Symbol → Bool)

/-- A symbol, escaped. -/
def escapeSymbol (symbol : Symbol) : List Symbol :=
  if special symbol then [mark, symbol] else [symbol]

/-- A word, escaped. -/
def escape (word : List Symbol) : List Symbol :=
  word.flatMap (escapeSymbol mark special)

/-- A word of plain symbols. -/
def Plain (word : List Symbol) : Prop :=
  ∀ symbol ∈ word, special symbol = false

/-- A word of marks, at most one other symbol, plain symbols, and marks again. -/
def Survives (word : List Symbol) : Prop :=
  ∃ before opening plain after, opening.length ≤ 1 ∧ Plain special plain ∧
    word = List.replicate before mark ++ opening ++ plain ++ List.replicate after mark

variable {mark special} {word first second : List Symbol}

theorem escape_nil : escape mark special [] = [] :=
  rfl

theorem escape_cons {symbol : Symbol} :
    escape mark special (symbol :: word) = escapeSymbol mark special symbol ++ escape mark special word :=
  rfl

theorem escape_append :
    escape mark special (first ++ second) = escape mark special first ++ escape mark special second :=
  List.flatMap_append

theorem escapeSymbol_plain {symbol : Symbol} (plain : special symbol = false) :
    escapeSymbol mark special symbol = [symbol] := by
  unfold escapeSymbol
  rw [plain]
  rfl

theorem escapeSymbol_special {symbol : Symbol} (isSpecial : special symbol = true) :
    escapeSymbol mark special symbol = [mark, symbol] := by
  unfold escapeSymbol
  rw [isSpecial]
  rfl

theorem escape_plain (plain : Plain special word) : escape mark special word = word := by
  induction word with
  | nil => rfl
  | cons symbol rest ih =>
      obtain ⟨isPlain, others⟩ := List.forall_mem_cons.mp plain
      rw [escape_cons, escapeSymbol_plain isPlain, ih others]
      rfl

theorem escape_replicate (marked : special mark = true) (count : Nat) :
    escape mark special (List.replicate count mark) = List.replicate (2 * count) mark := by
  induction count with
  | zero => rfl
  | succ count ih =>
      rw [List.replicate_succ, escape_cons, ih, escapeSymbol_special marked]
      exact (List.replicate_add 2 (2 * count) mark).symm.trans (congrArg (List.replicate · mark) (by omega))

/-! ### Marks at the front -/

theorem marks_unique {count other : Nat} {symbol next : Symbol} (notMark : symbol ≠ mark)
    (nextNot : next ≠ mark) (same : List.replicate count mark ++ symbol :: first =
      List.replicate other mark ++ next :: second) : count = other ∧ symbol = next ∧ first = second := by
  induction count generalizing other with
  | zero =>
      cases other with
      | zero =>
          obtain ⟨rfl, rfl⟩ := List.cons.inj same
          exact ⟨rfl, rfl, rfl⟩
      | succ other => exact absurd (List.cons.inj same).1 notMark
  | succ count ih =>
      cases other with
      | zero => exact absurd (List.cons.inj same).1.symm nextNot
      | succ other =>
          obtain ⟨counted, others⟩ := ih (List.cons.inj same).2
          exact ⟨congrArg (· + 1) counted, others⟩

theorem exists_marks (mark : Symbol) (word : List Symbol) :
    ∃ count rest, word = List.replicate count mark ++ rest ∧ ∀ symbol ∈ rest.head?, symbol ≠ mark := by
  induction word with
  | nil => exact ⟨0, [], rfl, fun _ impossible => (nomatch impossible)⟩
  | cons symbol word ih =>
      by_cases isMark : symbol = mark
      · obtain ⟨count, rest, same, ends⟩ := ih
        refine ⟨count + 1, rest, ?_, ends⟩
        rw [isMark, same, List.replicate_succ, List.cons_append]
      · refine ⟨0, symbol :: word, rfl, ?_⟩
        rintro _ ⟨⟩
        exact isMark

theorem escape_marks (marked : special mark = true) (count : Nat) (symbol : Symbol) :
    ∃ more, escape mark special (List.replicate count mark ++ symbol :: word) =
      List.replicate (2 * count + more) mark ++ symbol :: escape mark special word := by
  rw [escape_append, escape_replicate marked, escape_cons]
  cases isSpecial : special symbol with
  | false =>
      refine ⟨0, ?_⟩
      rw [escapeSymbol_plain isSpecial]
      rfl
  | true =>
      refine ⟨1, ?_⟩
      rw [escapeSymbol_special isSpecial, List.replicate_succ']
      simp

/-! ### Words that survive -/

/-- **A word that survives** occurs in its escaped form. -/
theorem Survives.within (marked : special mark = true) (survives : Survives mark special word) :
    word <:+: escape mark special word := by
  obtain ⟨before, opening, plain, after, short, isPlain, rfl⟩ := survives
  -- The mark of the opening symbol stands at the end of the marks before it.
  have marks : ∃ front, List.replicate (2 * before) mark ++ escape mark special opening =
      front ++ (List.replicate before mark ++ opening) := by
    match opening, short with
    | [], _ =>
        refine ⟨List.replicate before mark, ?_⟩
        rw [escape_nil, List.append_nil, List.append_nil, List.replicate_append_replicate]
        exact congrArg (List.replicate · mark) (by omega)
    | [symbol], _ =>
        cases isSpecial : special symbol with
        | false =>
            refine ⟨List.replicate before mark, ?_⟩
            rw [escape_cons, escapeSymbol_plain isSpecial, escape_nil, List.append_nil,
              ← List.append_assoc, List.replicate_append_replicate]
            exact congrArg (List.replicate · mark ++ [symbol]) (by omega)
        | true =>
            refine ⟨List.replicate (before + 1) mark, ?_⟩
            rw [escape_cons, escapeSymbol_special isSpecial, escape_nil, List.append_nil,
              ← List.append_assoc, List.replicate_append_replicate]
            have moved : List.replicate (2 * before) mark ++ [mark, symbol] =
                List.replicate (2 * before + 1) mark ++ [symbol] := by
              rw [List.replicate_succ']
              simp
            rw [moved]
            exact congrArg (List.replicate · mark ++ [symbol]) (by omega)
  obtain ⟨front, same⟩ := marks
  refine ⟨front, List.replicate after mark, ?_⟩
  rw [escape_append, escape_append, escape_append, escape_replicate marked, same,
    escape_plain isPlain, escape_replicate marked, Nat.two_mul, List.replicate_add]
  simp only [List.append_assoc]

theorem tail_survives (marked : special mark = true) {count : Nat}
    (same : escape mark special word = word ++ List.replicate count mark) :
    ∃ plain after, Plain special plain ∧ word = plain ++ List.replicate after mark := by
  induction word with
  | nil => exact ⟨[], 0, fun _ absent => (nomatch absent), rfl⟩
  | cons symbol rest ih =>
      cases isSpecial : special symbol with
      | false =>
          rw [escape_cons, escapeSymbol_plain isSpecial] at same
          obtain ⟨plain, after, isPlain, rfl⟩ := ih (List.cons.inj same).2
          exact ⟨symbol :: plain, after, List.forall_mem_cons.mpr ⟨isSpecial, isPlain⟩, rfl⟩
      | true =>
          -- The word begins with marks, and then ends.
          have isMark : symbol = mark := by
            rw [escape_cons, escapeSymbol_special isSpecial] at same
            exact (List.cons.inj same).1.symm
          obtain ⟨marks, others, split, ends⟩ := exists_marks mark (symbol :: rest)
          cases others with
          | nil => exact ⟨[], marks, fun _ absent => (nomatch absent), by rw [split, List.append_nil]; rfl⟩
          | cons next others =>
              have notMark : next ≠ mark := ends next rfl
              obtain ⟨more, escaped⟩ := @escape_marks _ mark special others marked marks next
              rw [split, escaped, List.append_assoc, List.cons_append] at same
              obtain ⟨counted, -, -⟩ := marks_unique notMark notMark same
              have none : marks = 0 := by omega
              rw [none] at split
              exact absurd ((List.cons.inj split).1.symm.trans isMark) notMark

theorem Plain.survives (plain : Plain special word) : Survives mark special word :=
  ⟨0, [], word, 0, Nat.zero_le _, plain, by simp⟩

section Occurrence

variable [DecidableEq Symbol]

theorem countP_escape :
    (escape mark special word).countP (fun symbol => decide (symbol ≠ mark)) =
      word.countP fun symbol => decide (symbol ≠ mark) := by
  induction word with
  | nil => rfl
  | cons symbol rest ih =>
      rw [escape_cons, List.countP_append, ih, List.countP_cons]
      cases isSpecial : special symbol with
      | false =>
          rw [escapeSymbol_plain isSpecial, List.countP_cons, List.countP_nil]
          omega
      | true =>
          rw [escapeSymbol_special isSpecial, List.countP_cons, List.countP_cons, List.countP_nil,
            if_neg (by simp : ¬decide (mark ≠ mark) = true)]
          omega

/-- **A word that occurs in its escaped form survives.** -/
theorem survives_of_within (marked : special mark = true) (occurs : word <:+: escape mark special word) :
    Survives mark special word := by
  obtain ⟨front, back, same⟩ := occurs
  -- Besides the word there are only marks.
  have onlyMarks : (∀ symbol ∈ front, symbol = mark) ∧ ∀ symbol ∈ back, symbol = mark := by
    have counted := congrArg (List.countP fun symbol => decide (symbol ≠ mark)) same
    rw [countP_escape, List.countP_append, List.countP_append] at counted
    have none : front.countP (fun symbol => decide (symbol ≠ mark)) = 0 ∧
        back.countP (fun symbol => decide (symbol ≠ mark)) = 0 := by omega
    simpa [List.countP_eq_zero] using none
  obtain ⟨marks, rfl⟩ : ∃ marks, front = List.replicate marks mark :=
    ⟨_, List.eq_replicate_iff.mpr ⟨rfl, onlyMarks.1⟩⟩
  obtain ⟨trailing, rfl⟩ : ∃ trailing, back = List.replicate trailing mark :=
    ⟨_, List.eq_replicate_iff.mpr ⟨rfl, onlyMarks.2⟩⟩
  obtain ⟨before, rest, rfl, ends⟩ := exists_marks mark word
  cases rest with
  | nil => exact ⟨before, [], [], 0, Nat.zero_le _, fun _ absent => (nomatch absent), by simp⟩
  | cons symbol rest =>
      have notMark : symbol ≠ mark := ends symbol rfl
      obtain ⟨more, escaped⟩ := @escape_marks _ mark special rest marked before symbol
      rw [escaped] at same
      have joined : List.replicate (marks + before) mark ++
          symbol :: (rest ++ List.replicate trailing mark) =
            List.replicate (2 * before + more) mark ++ symbol :: escape mark special rest := by
        rw [← same]
        simp only [List.replicate_add, List.append_assoc, List.cons_append]
      obtain ⟨-, -, escapedRest⟩ := marks_unique notMark notMark joined
      obtain ⟨plain, after, isPlain, rfl⟩ := tail_survives marked escapedRest.symm
      exact ⟨before, [symbol], plain, after, le_rfl, isPlain, by simp⟩

end Occurrence

/-! ### Words beyond the end -/

theorem plain_or_last (special : Symbol → Bool) (word : List Symbol) :
    Plain special word ∨
      ∃ front symbol back, word = front ++ symbol :: back ∧ special symbol = true ∧ Plain special back := by
  induction word with
  | nil => exact .inl fun _ absent => (nomatch absent)
  | cons symbol rest ih =>
      rcases ih with plain | ⟨front, last, back, rfl, isSpecial, plain⟩
      · cases isSpecial : special symbol with
        | false => exact .inl (List.forall_mem_cons.mpr ⟨isSpecial, plain⟩)
        | true => exact .inr ⟨[], symbol, rest, rfl, isSpecial, plain⟩
      · exact .inr ⟨symbol :: front, last, back, rfl, isSpecial, plain⟩

theorem last_unique {symbol next : Symbol} {back others : List Symbol} (isSpecial : special symbol = true)
    (nextSpecial : special next = true) (plain : Plain special back) (othersPlain : Plain special others)
    (same : first ++ symbol :: back = second ++ next :: others) : back = others := by
  have inside : ∀ {front tail others : List Symbol} {symbol next : Symbol}, special next = true →
      Plain special tail → symbol :: tail = front ++ next :: others → front = [] := by
    intro front tail others symbol next nextSpecial plain same
    cases front with
    | nil => rfl
    | cons head front =>
        have member : next ∈ tail := by
          rw [(List.cons.inj same).2]
          exact List.mem_append_right _ List.mem_cons_self
        rw [plain next member] at nextSpecial
        cases nextSpecial
  rcases List.append_eq_append_iff.mp same with ⟨between, -, tails⟩ | ⟨between, -, tails⟩
  · rw [inside nextSpecial plain tails] at tails
    exact (List.cons.inj tails).2
  · rw [inside isSpecial othersPlain tails] at tails
    exact (List.cons.inj tails).2.symm

/-- **A word that ends with a plain symbol beyond its escaped form** is plain. -/
theorem plain_of_overlap {ending : List Symbol} {pad : Symbol} {count : Nat} (padPlain : special pad = false)
    (beyond : 0 < count) (ends : ending <:+ escape mark special word)
    (same : word = ending ++ List.replicate count pad) : Plain special word := by
  rcases plain_or_last special word with plain | ⟨front, symbol, back, split, isSpecial, plain⟩
  · exact plain
  · have escaped : escape mark special word =
        (escape mark special front ++ [mark]) ++ symbol :: back := by
      rw [split, escape_append, escape_cons, escapeSymbol_special isSpecial, escape_plain plain]
      simp
    rw [escaped] at ends
    have padded : Plain special (List.replicate count pad) := fun other member => by
      rw [List.eq_of_mem_replicate member]
      exact padPlain
    obtain ⟨start, joined⟩ := ends
    rcases List.append_eq_append_iff.mp joined with ⟨between, -, tails⟩ | ⟨between, -, tails⟩
    · -- The ending reaches back to the last special symbol.
      have moved : word = between ++ symbol :: (back ++ List.replicate count pad) := by
        rw [same, tails]
        simp
      have longer : back = back ++ List.replicate count pad := by
        refine last_unique isSpecial isSpecial plain ?_ (split.symm.trans moved)
        exact List.forall_mem_append.mpr ⟨plain, padded⟩
      have lengths := congrArg List.length longer
      rw [List.length_append, List.length_replicate] at lengths
      omega
    · rw [same]
      refine List.forall_mem_append.mpr ⟨fun other member => ?_, padded⟩
      cases between with
      | nil =>
          rw [List.nil_append] at tails
          have moved : word = symbol :: (back ++ List.replicate count pad) := by
            rw [same, ← tails]
            rfl
          have longer : back = back ++ List.replicate count pad := by
            refine @last_unique _ special front [] symbol symbol _ _ isSpecial isSpecial plain ?_ ?_
            · exact List.forall_mem_append.mpr ⟨plain, padded⟩
            · exact split.symm.trans moved
          have lengths := congrArg List.length longer
          rw [List.length_append, List.length_replicate] at lengths
          omega
      | cons head between =>
          refine plain other ?_
          rw [(List.cons.inj tails).2]
          exact List.mem_append_right _ member

end Words

end Escaping
