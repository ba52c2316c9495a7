/-
**Tables as lists of rows: unique indexes, conditional updates and idempotent inserts.**

A table is the list of its rows in insertion order. `UniqueOn key covered` is a (partial) unique
index, `updateWhere` an `UPDATE … WHERE`, `insertAbsent` an `INSERT … ON CONFLICT DO NOTHING`.

* `uniqueOn_append`: what an index asks of one more row;
* `UniqueOn.eq_of_key` and `uniqueOn_iff_count_le_one`: an index covers at most one row of a key;
* `distinctOn`: the first row of each key;
* `UniqueOn.updateWhere`: an update that keeps the keys and covers no new row keeps the index;
* `updateWhere_eq_self`: an update that changes none of the selected rows is no update;
* `key_mem_insertAbsent`, `key_mem_insertEach`: the keys after an insert, and after a series of them.
-/

import Mathlib.Data.List.Nodup

namespace Table

variable {Row Key : Type}

/-! ### Unique indexes -/

section Unique

variable {key : Row → Key} {covered : Row → Bool} {rows : List Row} {row : Row}

/-- A unique index on `key` over the covered rows. -/
def UniqueOn (key : Row → Key) (covered : Row → Bool) (rows : List Row) : Prop :=
  ((rows.filter covered).map key).Nodup

instance [DecidableEq Key] : Decidable (UniqueOn key covered rows) :=
  inferInstanceAs (Decidable (List.Nodup _))

theorem uniqueOn_nil : UniqueOn key covered [] :=
  List.nodup_nil

theorem uniqueOn_append :
    UniqueOn key covered (rows ++ [row]) ↔ UniqueOn key covered rows ∧
      (covered row = true → ∀ other ∈ rows, covered other = true → key other ≠ key row) := by
  unfold UniqueOn
  by_cases inside : covered row = true
  · have single : ([row].filter covered).map key = [key row] := by simp [inside]
    rw [List.filter_append, List.map_append, List.nodup_append, single]
    constructor
    · rintro ⟨nodup, -, apart⟩
      refine ⟨nodup, fun _ other member present => ?_⟩
      exact apart _ (List.mem_map_of_mem (List.mem_filter.mpr ⟨member, present⟩)) _ (by simp)
    · rintro ⟨nodup, apart⟩
      refine ⟨nodup, List.nodup_singleton _, ?_⟩
      rintro _ member _ found rfl
      obtain ⟨other, otherIn, same⟩ := List.mem_map.mp member
      obtain ⟨inRows, present⟩ := List.mem_filter.mp otherIn
      exact apart inside other inRows present (same.trans (List.mem_singleton.mp found))
  · simp [inside]

theorem UniqueOn.pairwise (unique : UniqueOn key covered rows) :
    rows.Pairwise fun first second =>
      covered first = true → covered second = true → key first ≠ key second := by
  unfold UniqueOn at unique
  rw [List.Nodup, List.pairwise_map, List.pairwise_filter] at unique
  exact unique

theorem UniqueOn.eq_of_key (unique : UniqueOn key covered rows) {first second : Row}
    (firstIn : first ∈ rows) (secondIn : second ∈ rows) (firstCovered : covered first = true)
    (secondCovered : covered second = true) (same : key first = key second) : first = second := by
  refine List.inj_on_of_nodup_map unique ?_ ?_ same
  · exact List.mem_filter.mpr ⟨firstIn, firstCovered⟩
  · exact List.mem_filter.mpr ⟨secondIn, secondCovered⟩

theorem count_covered [DecidableEq Key] (wanted : Key) :
    rows.countP (fun row => covered row && decide (key row = wanted)) =
      ((rows.filter covered).map key).count wanted := by
  rw [List.count, List.countP_map, List.countP_filter]
  refine List.countP_congr fun row _ => ?_
  simp [and_comm]

theorem uniqueOn_iff_count_le_one [DecidableEq Key] : UniqueOn key covered rows ↔
    ∀ wanted, rows.countP (fun row => covered row && decide (key row = wanted)) ≤ 1 := by
  simp only [count_covered]
  exact List.nodup_iff_count_le_one

theorem UniqueOn.count_le_one [DecidableEq Key] (unique : UniqueOn key covered rows) (wanted : Key) :
    rows.countP (fun row => covered row && decide (key row = wanted)) ≤ 1 :=
  uniqueOn_iff_count_le_one.mp unique wanted

end Unique

/-! ### The first row of each key -/

section Distinct

variable [DecidableEq Key] {key : Row → Key} {rows : List Row}

/-- `SELECT DISTINCT ON (key)` of rows in their order: the first row of each key. -/
def distinctOn (key : Row → Key) : List Row → List Row
  | [] => []
  | row :: rest => row :: (distinctOn key rest).filter fun other => decide (key other ≠ key row)

theorem distinctOn_eq_self (distinct : (rows.map key).Nodup) : distinctOn key rows = rows := by
  induction rows with
  | nil => rfl
  | cons row rest ih =>
      obtain ⟨apart, others⟩ := List.nodup_cons.mp distinct
      rw [distinctOn, ih others]
      refine congrArg _ (List.filter_eq_self.mpr fun other member => ?_)
      exact decide_eq_true fun same => apart (List.mem_map.mpr ⟨other, member, same⟩)

end Distinct

/-! ### Updates -/

section Update

variable {key : Row → Key} {covered selected : Row → Bool} {patch : Row → Row} {rows : List Row}

/-- `UPDATE … SET patch WHERE selected`. -/
def updateWhere (selected : Row → Bool) (patch : Row → Row) (rows : List Row) : List Row :=
  rows.map fun row => if selected row then patch row else row

theorem mem_updateWhere {row : Row} :
    row ∈ updateWhere selected patch rows ↔
      (∃ old ∈ rows, selected old = true ∧ patch old = row) ∨
        (row ∈ rows ∧ selected row = false) := by
  unfold updateWhere
  rw [List.mem_map]
  constructor
  · rintro ⟨old, member, rfl⟩
    by_cases chosen : selected old = true
    · exact .inl ⟨old, member, chosen, by rw [if_pos chosen]⟩
    · refine .inr ?_
      rw [if_neg chosen]
      exact ⟨member, by simpa using chosen⟩
  · rintro (⟨old, member, chosen, rfl⟩ | ⟨member, skipped⟩)
    · exact ⟨old, member, by rw [if_pos chosen]⟩
    · exact ⟨row, member, by simp [skipped]⟩

theorem updateWhere_eq_self (same : ∀ row ∈ rows, selected row = true → patch row = row) :
    updateWhere selected patch rows = rows := by
  unfold updateWhere
  conv_rhs => rw [← List.map_id rows]
  refine List.map_congr_left fun row member => ?_
  by_cases chosen : selected row = true
  · rw [if_pos chosen, same row member chosen, id]
  · rw [if_neg chosen, id]

theorem updateWhere_map {Field : Type} (field : Row → Field)
    (same : ∀ row ∈ rows, selected row = true → field (patch row) = field row) :
    (updateWhere selected patch rows).map field = rows.map field := by
  unfold updateWhere
  rw [List.map_map]
  refine List.map_congr_left fun row member => ?_
  by_cases chosen : selected row = true
  · simp [chosen, same row member chosen]
  · simp [chosen]

theorem find_updateWhere (kept : ∀ row, selected (patch row) = selected row) :
    (updateWhere selected patch rows).find? selected = (rows.find? selected).map patch := by
  have same : (selected ∘ fun row => if selected row then patch row else row) = selected := by
    funext row
    by_cases chosen : selected row = true
    · simp [chosen, kept]
    · simp [chosen]
  unfold updateWhere
  rw [List.find?_map, same]
  cases found : rows.find? selected with
  | none => rfl
  | some row => simp [List.find?_some found]

/-- **An update that keeps the keys and covers no new row keeps the index.** -/
theorem UniqueOn.updateWhere (unique : UniqueOn key covered rows)
    (sameKey : ∀ row ∈ rows, selected row = true → covered (patch row) = true →
      covered row = true ∧ key (patch row) = key row) :
    UniqueOn key covered (updateWhere selected patch rows) := by
  induction rows with
  | nil => exact uniqueOn_nil
  | cons head tail ih =>
      have pairs := unique.pairwise
      have tailUnique : UniqueOn key covered tail := by
        unfold UniqueOn at unique ⊢
        exact ((List.sublist_cons_self head tail).filter _).map key |>.nodup unique
      have rest := ih tailUnique fun row member => sameKey row (List.mem_cons_of_mem _ member)
      -- The head's key, if it is covered after the update, is the key it was covered with before.
      have headOld : ∀ patched, patched = (if selected head then patch head else head) →
          covered patched = true → covered head = true ∧ key patched = key head := by
        rintro patched rfl inside
        by_cases chosen : selected head = true
        · rw [if_pos chosen] at inside ⊢
          exact sameKey head List.mem_cons_self chosen inside
        · rw [if_neg chosen] at inside ⊢
          exact ⟨inside, rfl⟩
      unfold UniqueOn at rest ⊢
      show (((if selected head then patch head else head) ::
        Table.updateWhere selected patch tail).filter covered |>.map key).Nodup
      by_cases inside : covered (if selected head then patch head else head) = true
      · obtain ⟨headCovered, headKey⟩ := headOld _ rfl inside
        rw [List.filter_cons_of_pos inside, List.map_cons, List.nodup_cons]
        refine ⟨fun clash => ?_, rest⟩
        obtain ⟨other, member, same⟩ := List.mem_map.mp clash
        obtain ⟨otherIn, otherCovered⟩ := List.mem_filter.mp member
        rw [headKey] at same
        rcases mem_updateWhere.mp otherIn with ⟨old, oldIn, chosen, rfl⟩ | ⟨oldIn, _⟩
        · obtain ⟨oldCovered, oldKey⟩ :=
            sameKey old (List.mem_cons_of_mem _ oldIn) chosen otherCovered
          exact List.rel_of_pairwise_cons pairs oldIn headCovered oldCovered
            (by rw [← same, oldKey])
        · exact List.rel_of_pairwise_cons pairs oldIn headCovered otherCovered same.symm
      · rw [List.filter_cons_of_neg inside]
        exact rest

end Update

/-! ### Inserts -/

section Insert

variable [DecidableEq Key] {key : Row → Key} {rows : List Row} {row : Row}

/-- `INSERT … ON CONFLICT (key) DO NOTHING RETURNING *`: the inserted row, if one was. -/
def insertAbsent (key : Row → Key) (row : Row) (rows : List Row) : Option Row × List Row :=
  if rows.any (fun other => key other == key row) then (none, rows) else (some row, rows ++ [row])

theorem insertAbsent_of_mem {other : Row} (member : other ∈ rows) (same : key other = key row) :
    insertAbsent key row rows = (none, rows) := by
  unfold insertAbsent
  rw [if_pos (List.any_eq_true.mpr ⟨other, member, by simpa using same⟩)]

theorem insertAbsent_of_fresh (fresh : ∀ other ∈ rows, key other ≠ key row) :
    insertAbsent key row rows = (some row, rows ++ [row]) := by
  unfold insertAbsent
  rw [if_neg]
  intro clash
  obtain ⟨other, member, same⟩ := List.any_eq_true.mp clash
  exact fresh other member (by simpa using same)

theorem insertAbsent_cases (key : Row → Key) (row : Row) (rows : List Row) :
    ((∃ other ∈ rows, key other = key row) ∧ insertAbsent key row rows = (none, rows)) ∨
      ((∀ other ∈ rows, key other ≠ key row) ∧
        insertAbsent key row rows = (some row, rows ++ [row])) := by
  by_cases stored : ∃ other ∈ rows, key other = key row
  · obtain ⟨other, member, same⟩ := stored
    exact .inl ⟨⟨other, member, same⟩, insertAbsent_of_mem member same⟩
  · push Not at stored
    exact .inr ⟨stored, insertAbsent_of_fresh stored⟩

theorem subset_insertAbsent (key : Row → Key) (row : Row) (rows : List Row) :
    rows ⊆ (insertAbsent key row rows).2 := by
  rcases insertAbsent_cases key row rows with ⟨-, inserted⟩ | ⟨-, inserted⟩
  · rw [inserted]
    exact List.Subset.refl rows
  · rw [inserted]
    exact List.subset_append_left rows [row]

theorem mem_insertAbsent {other : Row} (member : other ∈ (insertAbsent key row rows).2) :
    other ∈ rows ∨ other = row := by
  rcases insertAbsent_cases key row rows with ⟨-, inserted⟩ | ⟨-, inserted⟩
  · rw [inserted] at member
    exact .inl member
  · rw [inserted] at member
    exact (List.mem_append.mp member).imp_right List.mem_singleton.mp

theorem key_mem_insertAbsent {wanted : Key} :
    wanted ∈ ((insertAbsent key row rows).2).map key ↔ wanted ∈ rows.map key ∨ wanted = key row := by
  rcases insertAbsent_cases key row rows with ⟨⟨other, member, same⟩, inserted⟩ | ⟨-, inserted⟩
  · rw [inserted]
    refine (or_iff_left_of_imp ?_).symm
    rintro rfl
    exact List.mem_map.mpr ⟨other, member, same⟩
  · rw [inserted, List.map_append, List.mem_append, List.map_singleton, List.mem_singleton]

theorem insertAbsent_nodup (row : Row) (distinct : (rows.map key).Nodup) :
    (((insertAbsent key row rows).2).map key).Nodup := by
  rcases insertAbsent_cases key row rows with ⟨-, inserted⟩ | ⟨fresh, inserted⟩
  · rw [inserted]
    exact distinct
  · rw [inserted, List.map_append, List.nodup_append]
    refine ⟨distinct, List.nodup_singleton _, ?_⟩
    rintro _ stored _ added rfl
    obtain ⟨other, member, same⟩ := List.mem_map.mp stored
    exact fresh other member (same.trans (List.mem_singleton.mp added))

/-- One insert after another. -/
def insertEach (key : Row → Key) (incoming rows : List Row) : List Row :=
  incoming.foldl (fun stored row => (insertAbsent key row stored).2) rows

theorem mem_insertEach {incoming : List Row} {other : Row}
    (member : other ∈ insertEach key incoming rows) : other ∈ rows ∨ other ∈ incoming := by
  induction incoming generalizing rows with
  | nil => exact .inl member
  | cons row rest ih =>
      rcases ih member with stored | later
      · refine (mem_insertAbsent stored).imp_right ?_
        rintro rfl
        exact List.mem_cons_self
      · exact .inr (List.mem_cons_of_mem _ later)

/-- **The keys after a series of inserts.** -/
theorem key_mem_insertEach {incoming : List Row} {wanted : Key} :
    wanted ∈ (insertEach key incoming rows).map key ↔
      wanted ∈ rows.map key ∨ wanted ∈ incoming.map key := by
  induction incoming generalizing rows with
  | nil => simp [insertEach]
  | cons row rest ih =>
      have step : insertEach key (row :: rest) rows =
          insertEach key rest (insertAbsent key row rows).2 := rfl
      rw [step, ih, key_mem_insertAbsent, List.map_cons, List.mem_cons, or_assoc]

theorem insertEach_nodup (incoming : List Row) (distinct : (rows.map key).Nodup) :
    ((insertEach key incoming rows).map key).Nodup := by
  induction incoming generalizing rows with
  | nil => exact distinct
  | cons row rest ih => exact ih (insertAbsent_nodup row distinct)

theorem subset_insertEach (key : Row → Key) (incoming rows : List Row) :
    rows ⊆ insertEach key incoming rows := by
  induction incoming generalizing rows with
  | nil => exact List.Subset.refl rows
  | cons row rest ih => exact List.Subset.trans (subset_insertAbsent key row rows) (ih _)

theorem first_mem_insertEach (rest : List Row) (fresh : key row ∉ rows.map key) :
    row ∈ insertEach key (row :: rest) rows := by
  have inserted : insertAbsent key row rows = (some row, rows ++ [row]) :=
    insertAbsent_of_fresh fun other member same => fresh (List.mem_map.mpr ⟨other, member, same⟩)
  refine subset_insertEach key rest _ ?_
  show row ∈ (insertAbsent key row rows).2
  rw [inserted]
  exact List.mem_append_right rows (List.mem_singleton_self row)

end Insert

end Table
