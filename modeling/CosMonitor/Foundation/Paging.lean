/-
**Pages of an ordered listing.**

* `mem_take_iff`: an item is on the first page exactly when few enough items stand before it;
* `find_first_eq_some`, `find_take_eq_some`: what a listing finds first, and what its first page finds;
* `filterMap_sublist`, `filterMap_eq_iff`: a conversion that knows less than another one gives a part of
  its results, and all of them exactly when it misses none;
* `find_key_eq_some`: the lookup of a key among rows with different keys;
* `scan_complete_iff`: a scan whose pages come from queries of their own covers every row, however the
  queries order rows with one key, exactly when no page ends inside a group of such rows.
-/

import CosMonitor.Foundation.Sorting
import Mathlib.Data.List.Nodup

namespace Paging

section Rank

variable {Item : Type} {before : Item → Item → Prop} [DecidableRel before] {listed : List Item}
  {item : Item} {size : Nat}

/-- **An item is on the first page** of a listing in strict order exactly when fewer items than the
page holds stand before it. -/
theorem mem_take_iff (irreflexive : ∀ item, ¬before item item)
    (ordered : listed.Pairwise fun first second => before first second ∧ ¬before second first) :
    item ∈ listed.take size ↔
      item ∈ listed ∧ listed.countP (fun other => decide (before other item)) < size := by
  induction listed generalizing size with
  | nil => simp
  | cons first rest ih =>
      obtain ⟨ahead, later⟩ := List.pairwise_cons.mp ordered
      cases size with
      | zero => simp
      | succ size =>
          rw [List.take_succ_cons, List.mem_cons, List.mem_cons, ih later, List.countP_cons]
          by_cases inRest : item ∈ rest
          · have step := (ahead item inRest).1
            have differ : item ≠ first := by
              rintro rfl
              exact irreflexive item step
            simp [inRest, step, differ]
          · by_cases same : item = first
            · subst same
              have none : rest.countP (fun other => decide (before other item)) = 0 :=
                List.countP_eq_zero.mpr fun other member => by simp [(ahead other member).2]
              simp [none, irreflexive item]
            · simp [inRest, same]

omit [DecidableRel before] in
/-- **The first item of a kind** in a listing in strict order: none of its kind stands before it. -/
theorem find_first_eq_some (irreflexive : ∀ item, ¬before item item)
    (ordered : listed.Pairwise fun first second => before first second ∧ ¬before second first)
    {kind : Item → Bool} :
    listed.find? kind = some item ↔
      item ∈ listed ∧ kind item = true ∧ ∀ other ∈ listed, kind other = true → ¬before other item := by
  induction listed with
  | nil => simp
  | cons first rest ih =>
      obtain ⟨ahead, later⟩ := List.pairwise_cons.mp ordered
      cases isKind : kind first with
      | true =>
          rw [List.find?_cons_of_pos isKind, Option.some.injEq]
          constructor
          · rintro rfl
            refine ⟨List.mem_cons_self, isKind, List.forall_mem_cons.mpr ⟨fun _ => irreflexive _, ?_⟩⟩
            exact fun other member _ => (ahead other member).2
          · rintro ⟨member, -, minimal⟩
            refine (List.mem_cons.mp member).elim Eq.symm fun inRest => ?_
            exact absurd (ahead item inRest).1 (minimal first List.mem_cons_self isKind)
      | false =>
          have differ : kind item = true → item ≠ first := fun isItem same => by
            rw [same, isKind] at isItem
            cases isItem
          rw [List.find?_cons_of_neg (by rw [isKind]; exact Bool.false_ne_true), ih later]
          simp only [List.mem_cons, forall_eq_or_imp, isKind, Bool.false_eq_true, false_implies, true_and]
          refine and_congr_left fun ⟨isItem, _⟩ => ?_
          rw [or_iff_right (differ isItem)]

theorem find_take_eq_some {kind : Item → Bool} :
    (listed.take size).find? kind = some item ↔
      listed.find? kind = some item ∧ item ∈ listed.take size := by
  have whole : listed.find? kind = ((listed.take size).find? kind).or ((listed.drop size).find? kind) := by
    rw [← List.find?_append, List.take_append_drop]
  constructor
  · intro found
    exact ⟨by rw [whole, found, Option.some_or], List.mem_of_find?_eq_some found⟩
  · rintro ⟨found, onPage⟩
    obtain ⟨other, first⟩ : ∃ other, (listed.take size).find? kind = some other := by
      rw [← Option.isSome_iff_exists, List.find?_isSome]
      exact ⟨item, onPage, List.find?_some found⟩
    rw [whole, first, Option.some_or] at found
    rw [first, found]

end Rank

section Lookup

variable {Key Value Row : Type} {less more : Key → Option Value}

theorem filterMap_sublist (keys : List Key)
    (implies : ∀ key value, less key = some value → more key = some value) :
    (keys.filterMap less).Sublist (keys.filterMap more) := by
  induction keys with
  | nil => exact List.Sublist.refl _
  | cons key rest ih =>
      cases found : less key with
      | none =>
          rw [List.filterMap_cons_none found]
          cases known : more key with
          | none => rwa [List.filterMap_cons_none known]
          | some value =>
              rw [List.filterMap_cons_some known]
              exact ih.cons value
      | some value =>
          rw [List.filterMap_cons_some found, List.filterMap_cons_some (implies key value found)]
          exact ih.cons_cons value

theorem filterMap_eq_iff {keys : List Key}
    (implies : ∀ key value, less key = some value → more key = some value) :
    keys.filterMap less = keys.filterMap more ↔
      ∀ key ∈ keys, ∀ value, more key = some value → less key = some value := by
  induction keys with
  | nil => simp
  | cons key rest ih =>
      rw [List.forall_mem_cons]
      cases known : more key with
      | none =>
          have nothing : less key = none :=
            Option.eq_none_iff_forall_ne_some.mpr fun value found => by
              rw [implies key value found] at known
              cases known
          rw [List.filterMap_cons_none known, List.filterMap_cons_none nothing, ih]
          simp
      | some value =>
          rw [List.filterMap_cons_some known]
          cases found : less key with
          | none =>
              rw [List.filterMap_cons_none found]
              refine iff_of_false (fun same => ?_) fun all => by cases all.1 value rfl
              have lengths := congrArg List.length same
              rw [List.length_cons] at lengths
              have bound := (filterMap_sublist rest implies).length_le
              omega
          | some other =>
              have same := (implies key other found).symm.trans known
              cases same
              rw [List.filterMap_cons_some found, List.cons.injEq, ih]
              simp

theorem find_key_eq_some [DecidableEq Key] {key : Row → Key} {rows : List Row} {row : Row}
    {wanted : Key} (distinct : (rows.map key).Nodup) :
    rows.find? (fun row => decide (key row = wanted)) = some row ↔ row ∈ rows ∧ key row = wanted := by
  constructor
  · intro found
    exact ⟨List.mem_of_find?_eq_some found, by simpa using List.find?_some found⟩
  · rintro ⟨member, same⟩
    obtain ⟨other, found⟩ : ∃ other, rows.find? (fun row => decide (key row = wanted)) =
        some other := by
      rw [← Option.isSome_iff_exists, List.find?_isSome]
      exact ⟨row, member, by simpa using same⟩
    have otherIs : key other = wanted := by simpa using List.find?_some found
    rw [found, List.inj_on_of_nodup_map distinct (List.mem_of_find?_eq_some found) member
      (otherIs.trans same.symm)]

end Lookup

/-! ### Scans -/

section Scan

variable {Row Key : Type} [LinearOrder Key] {key : Row → Key} {rows listed : List Row} {row : Row}
  {size position : Nat}

/-- What a query in the order of a key may answer: rows with one key stand in any order. -/
def ListedBy (key : Row → Key) (rows listed : List Row) : Prop :=
  listed.Perm rows ∧ listed.Pairwise fun first second => key first ≤ key second

/-- How many rows have a smaller key. -/
def below (key : Row → Key) (rows : List Row) (row : Row) : Nat :=
  rows.countP fun other => decide (key other < key row)

/-- How many rows have the key or a smaller one. -/
def upto (key : Row → Key) (rows : List Row) (row : Row) : Nat :=
  rows.countP fun other => decide (key other ≤ key row)

/-- A page of a listing. -/
def page (size index : Nat) (listed : List Row) : List Row :=
  (listed.drop (index * size)).take size

theorem countP_le_of_drop {chosen : Row → Bool} (same : listed.Perm rows)
    (later : ∀ other ∈ listed.drop position, ¬chosen other = true) :
    rows.countP chosen ≤ position := by
  rw [← same.countP_eq, ← List.take_append_drop position listed, List.countP_append,
    List.countP_eq_zero.mpr later, Nat.add_zero]
  refine Nat.le_trans List.countP_le_length ?_
  rw [List.length_take]
  omega

theorem lt_countP_of_take {chosen : Row → Bool} (same : listed.Perm rows)
    (inside : position < listed.length)
    (earlier : ∀ other ∈ listed.take (position + 1), chosen other = true) :
    position < rows.countP chosen := by
  have part : (listed.take (position + 1)).countP chosen ≤ rows.countP chosen := by
    rw [← same.countP_eq]
    exact (List.take_sublist _ _).countP_le
  rw [List.countP_eq_length.mpr earlier, List.length_take] at part
  omega

theorem key_le_of_mem_take (ordered : listed.Pairwise fun first second => key first ≤ key second)
    (inside : position < listed.length) {other : Row} (member : other ∈ listed.take (position + 1)) :
    key other ≤ key listed[position] := by
  obtain ⟨index, bound, rfl⟩ := List.getElem_of_mem member
  rw [List.length_take] at bound
  rw [List.getElem_take]
  rcases Nat.lt_or_ge index position with earlier | last
  · exact List.pairwise_iff_getElem.mp ordered index position (by omega) inside earlier
  · have same : index = position := by omega
    subst same
    exact le_refl _

theorem key_le_of_mem_drop (ordered : listed.Pairwise fun first second => key first ≤ key second)
    (inside : position < listed.length) {other : Row} (member : other ∈ listed.drop position) :
    key listed[position] ≤ key other := by
  obtain ⟨index, bound, rfl⟩ := List.getElem_of_mem member
  rw [List.length_drop] at bound
  rw [List.getElem_drop]
  rcases Nat.eq_zero_or_pos index with first | after
  · subst first
    exact le_refl _
  · exact List.pairwise_iff_getElem.mp ordered position (position + index) inside (by omega)
      (by omega)

theorem position_bounds (answered : ListedBy key rows listed) (inside : position < listed.length) :
    below key rows listed[position] ≤ position ∧ position < upto key rows listed[position] := by
  constructor
  · exact countP_le_of_drop answered.1 fun other member => by
      rw [decide_eq_true_iff, not_lt]
      exact key_le_of_mem_drop answered.2 inside member
  · exact lt_countP_of_take answered.1 inside fun other member =>
      decide_eq_true (key_le_of_mem_take answered.2 inside member)

/-- No page ends inside the group of rows with the key of a row. -/
def Whole (key : Row → Key) (rows : List Row) (size : Nat) (row : Row) : Prop :=
  ∀ index, ¬(below key rows row < index * size ∧ index * size < upto key rows row)

theorem Whole.of_length_le (fits : rows.length ≤ size) : Whole key rows size row := by
  rintro index ⟨after, before⟩
  have most : upto key rows row ≤ rows.length := List.countP_le_length
  cases index with
  | zero => omega
  | succ index =>
      have further : size ≤ (index + 1) * size := Nat.le_mul_of_pos_left size (Nat.succ_pos index)
      omega

theorem Whole.mem_page (positive : 0 < size) (whole : Whole key rows size row)
    (member : row ∈ rows) (answered : ListedBy key rows listed) :
    row ∈ page size (below key rows row / size) listed := by
  obtain ⟨position, inside, rfl⟩ := List.getElem_of_mem (answered.1.mem_iff.mpr member)
  obtain ⟨least, most⟩ := position_bounds answered inside
  set start := below key rows listed[position] with isStart
  have down : start / size * size ≤ start := Nat.div_mul_le_self _ _
  have up : start < (start / size + 1) * size := by
    rw [Nat.add_mul, Nat.one_mul]
    exact Nat.lt_div_mul_add positive
  have fits : upto key rows listed[position] ≤ (start / size + 1) * size := by
    by_contra torn
    exact whole (start / size + 1) ⟨up, by omega⟩
  have bound : position < (start / size + 1) * size := by omega
  rw [Nat.add_mul, Nat.one_mul] at bound
  unfold page
  refine List.mem_iff_getElem.mpr ⟨position - start / size * size, ?_, ?_⟩
  · rw [List.length_take, List.length_drop]
    omega
  · rw [List.getElem_take, List.getElem_drop]
    congr 1
    omega

theorem page_subset_take (index : Nat) : page size index listed ⊆ listed.take ((index + 1) * size) := by
  intro other member
  unfold page at member
  rw [Nat.add_mul, Nat.one_mul, List.take_add]
  exact List.mem_append_right _ member

theorem page_subset_drop {index start : Nat} (after : start ≤ index * size) :
    page size index listed ⊆ listed.drop start := by
  intro other member
  exact (List.drop_sublist_drop_left _ after).subset (List.mem_of_mem_take member)

theorem Whole.page_eq (whole : Whole key rows size row) (answered : ListedBy key rows listed)
    {index : Nat} (onPage : row ∈ page size index listed) : below key rows row / size = index := by
  unfold page at onPage
  obtain ⟨offset, bound, rfl⟩ := List.getElem_of_mem onPage
  rw [List.length_take, List.length_drop] at bound
  rw [List.getElem_take, List.getElem_drop] at whole ⊢
  have inside : index * size + offset < listed.length := by omega
  obtain ⟨least, most⟩ := position_bounds answered inside
  have start : index * size ≤ below key rows listed[index * size + offset] := by
    by_contra torn
    exact whole index ⟨by omega, by omega⟩
  refine Nat.div_eq_of_lt_le start ?_
  rw [Nat.add_mul, Nat.one_mul]
  omega

theorem key_le_of_mem_take_of_le (answered : ListedBy key rows listed)
    (most : position ≤ rows.countP fun other => decide (key other ≤ key row)) {other : Row}
    (member : other ∈ listed.take position) : key other ≤ key row := by
  by_contra more
  rw [not_le] at more
  obtain ⟨index, bound, rfl⟩ := List.getElem_of_mem member
  rw [List.length_take] at bound
  rw [List.getElem_take] at more
  have few : rows.countP (fun other => decide (key other ≤ key row)) ≤ index :=
    countP_le_of_drop answered.1 fun later isLater => by
      rw [decide_eq_true_iff, not_le]
      exact lt_of_lt_of_le more (key_le_of_mem_drop answered.2 (by omega) isLater)
  omega

theorem le_key_of_mem_drop_of_le (answered : ListedBy key rows listed)
    (least : rows.countP (fun other => decide (key other < key row)) ≤ position) {other : Row}
    (member : other ∈ listed.drop position) : key row ≤ key other := by
  by_contra less
  rw [not_le] at less
  obtain ⟨index, bound, rfl⟩ := List.getElem_of_mem member
  rw [List.length_drop] at bound
  rw [List.getElem_drop] at less
  have inside : position + index < listed.length := by omega
  have many : position + index < rows.countP fun other => decide (key other < key row) :=
    lt_countP_of_take answered.1 inside fun earlier isEarlier => decide_eq_true
      (lt_of_le_of_lt (key_le_of_mem_take answered.2 inside isEarlier) less)
  omega

theorem listedBy_insert {front back : List Row} (answered : ListedBy key (front ++ back) listed)
    (least : below key (front ++ row :: back) row ≤ position)
    (most : position < upto key (front ++ row :: back) row) :
    ListedBy key (front ++ row :: back) (listed.take position ++ row :: listed.drop position) := by
  have low : (front ++ back).countP (fun other => decide (key other < key row)) ≤ position := by
    simpa [below, List.countP_append, List.countP_cons] using least
  have high : position ≤ (front ++ back).countP fun other => decide (key other ≤ key row) := by
    simp only [upto, List.countP_append, List.countP_cons, le_refl, decide_true, if_true] at most
    rw [List.countP_append]
    omega
  have earlier : ∀ other ∈ listed.take position, key other ≤ key row :=
    fun other member => key_le_of_mem_take_of_le answered high member
  have later : ∀ other ∈ listed.drop position, key row ≤ key other :=
    fun other member => le_key_of_mem_drop_of_le answered low member
  constructor
  · refine List.perm_middle.trans (List.Perm.trans ?_ List.perm_middle.symm)
    rw [List.take_append_drop]
    exact answered.1.cons row
  · refine List.pairwise_append.mpr ⟨answered.2.sublist (List.take_sublist _ _), ?_, ?_⟩
    · exact List.pairwise_cons.mpr ⟨later, answered.2.sublist (List.drop_sublist _ _)⟩
    · intro first firstIn second secondIn
      rcases List.mem_cons.mp secondIn with rfl | secondLater
      · exact earlier first firstIn
      · exact le_trans (earlier first firstIn) (later second secondLater)

theorem page_of_position (absent : row ∉ listed) (inside : position ≤ listed.length) {index : Nat}
    (onPage : row ∈ page size index (listed.take position ++ row :: listed.drop position)) :
    index * size ≤ position ∧ position < (index + 1) * size := by
  have length : (listed.take position).length = position := by
    rw [List.length_take]
    omega
  constructor
  · by_contra after
    have dropped := page_subset_drop (show position + 1 ≤ index * size by omega) onPage
    rw [List.drop_append, length, List.drop_of_length_le (by omega), List.nil_append] at dropped
    have one : position + 1 - position = 1 := by omega
    rw [one, List.drop_succ_cons, List.drop_zero] at dropped
    exact absent (List.mem_of_mem_drop dropped)
  · by_contra before
    have taken := page_subset_take index onPage
    rw [List.take_append, length, List.take_take] at taken
    have none : (index + 1) * size - position = 0 := by omega
    rw [none, List.take_zero, List.append_nil] at taken
    exact absent (List.mem_of_mem_take taken)

/-- **A torn group can hide any of its rows**: when a page ends inside a group, two queries can order the
group so that a given row of it is on none of their pages. -/
theorem exists_unscanned (distinct : rows.Nodup) (member : row ∈ rows)
    (torn : ¬Whole key rows size row) :
    ∃ orders : Nat → List Row, (∀ index, ListedBy key rows (orders index)) ∧
      ∀ index, row ∉ page size index (orders index) := by
  obtain ⟨front, back, rfl⟩ := List.append_of_mem member
  unfold Whole at torn
  push Not at torn
  obtain ⟨edge, least, most⟩ := torn
  set sorted := Sorting.sortBy key (front ++ back)
  have answered : ListedBy key (front ++ back) sorted :=
    ⟨Sorting.sortBy_perm key _, Sorting.pairwise_sortBy key _⟩
  have absent : row ∉ sorted := by
    intro inside
    exact (List.nodup_cons.mp (List.nodup_middle.mp distinct)).1 (answered.1.mem_iff.mp inside)
  have few : edge * size ≤ sorted.length := by
    have bound : upto key (front ++ row :: back) row ≤ (front ++ row :: back).length :=
      List.countP_le_length
    rw [List.length_append, List.length_cons] at bound
    rw [answered.1.length_eq, List.length_append]
    omega
  let placed (position : Nat) : List Row := sorted.take position ++ row :: sorted.drop position
  -- Before the border the row stands right after it, and from the border on right before it.
  refine ⟨fun index => placed (if index < edge then edge * size else edge * size - 1),
    fun index => listedBy_insert answered ?_ ?_, fun index onPage => ?_⟩
  · split <;> omega
  · split <;> omega
  · dsimp only at onPage
    split at onPage
    · rename_i early
      have bounds := page_of_position absent few onPage
      have border : (index + 1) * size ≤ edge * size := Nat.mul_le_mul_right size early
      omega
    · rename_i late
      have bounds := page_of_position absent (by omega) onPage
      have border : edge * size ≤ index * size := Nat.mul_le_mul_right size (by omega)
      omega

/-- **A scan covers every row, however its queries order rows with one key, exactly when every group of
such rows is on one page.** -/
theorem scan_complete_iff (distinct : rows.Nodup) (positive : 0 < size) :
    (∀ orders : Nat → List Row, (∀ index, ListedBy key rows (orders index)) →
      ∀ row ∈ rows, ∃ index, row ∈ page size index (orders index)) ↔
      ∀ row ∈ rows, Whole key rows size row := by
  constructor
  · intro complete row member
    by_contra torn
    obtain ⟨orders, answered, unscanned⟩ := exists_unscanned distinct member torn
    obtain ⟨index, listed⟩ := complete orders answered row member
    exact unscanned index listed
  · intro whole orders answered row member
    exact ⟨_, (whole row member).mem_page positive member (answered _)⟩

end Scan

end Paging
