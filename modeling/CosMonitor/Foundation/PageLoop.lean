/-
**Loops over pages: a page is read, worked on and followed by the next one, until one is empty.**

The work on a page changes a state, and with it what the next query reads, but not which items stand on
which page.

* `loop`: the loop, with the items that it has handled;
* `PageLaws`: what the reads and the work are like;
* `loop_from`: the loop ends; an item on no page is not handled, an item on one page once;
* `Whole.pageIds`: a row whose group is whole is on one page.
-/

import CosMonitor.Foundation.Paging

namespace Paging

section Loop

variable {State Row Id : Type}

/-- Read pages from `index` on, and work on each of them until one is empty. The answer has the handled
items; `none` is a failure of the work, or too little fuel. -/
def loop (list : State → Nat → List Row) (work : State → List Row → Option (List Id × State)) :
    (fuel index : Nat) → State → Option (List Id × State)
  | 0, _, _ => none
  | fuel + 1, index, state =>
      match list state index with
      | [] => some ([], state)
      | rows =>
          (work state rows).bind fun worked =>
            (loop list work fuel (index + 1) worked.2).map fun rest => (worked.1 ++ rest.1, rest.2)

variable [DecidableEq Id]

/-- The pages have fixed items, and the work handles those of a page that are ready for it. -/
structure PageLaws (list : State → Nat → List Row) (work : State → List Row → Option (List Id × State))
    (id : Row → Id) (pages : Nat → List Id) (inv : State → Prop) (ready : State → Id → Prop) :
    Prop where
  listed : ∀ state index, inv state → (list state index).map id = pages index
  works : ∀ state index, inv state → ∃ handled after,
    work state (list state index) = some (handled, after) ∧ inv after ∧
      (∀ item ∉ pages index, handled.count item = 0 ∧ (ready state item → ready after item)) ∧
      ∀ item, ready state item → handled.count item = (pages index).count item

variable {list : State → Nat → List Row} {work : State → List Row → Option (List Id × State)}
  {id : Row → Id} {pages : Nat → List Id} {inv : State → Prop} {ready : State → Id → Prop} {bound : Nat}

/-- **The loop ends**, and handles an item of one page once. -/
theorem loop_from (laws : PageLaws list work id pages inv ready)
    (past : ∀ index, bound ≤ index → pages index = []) {fuel index : Nat} {state : State}
    (fueled : 0 < fuel) (enough : bound < index + fuel) (start : inv state) :
    ∃ handled after, loop list work fuel index state = some (handled, after) ∧
      (∀ item, (∀ later, index ≤ later → item ∉ pages later) → handled.count item = 0) ∧
      ∀ item own, ready state item → index ≤ own → (pages own).count item = 1 →
        (∀ later, item ∈ pages later → later = own) → (∀ earlier ≤ own, pages earlier ≠ []) →
        handled.count item = 1 := by
  induction fuel generalizing index state with
  | zero => omega
  | succ fuel ih =>
      have ids := laws.listed state index start
      rw [loop]
      split
      · rename_i empty
        rw [empty, List.map_nil] at ids
        refine ⟨[], state, rfl, fun _ _ => rfl, ?_⟩
        intro item own _ before _ _ filled
        exact absurd ids.symm (filled index before)
      · rename_i present
        obtain ⟨worked, after, isWork, kept, others, readies⟩ := laws.works state index start
        have within : index < bound := by
          by_contra beyond
          rw [past index (by omega), List.map_eq_nil_iff] at ids
          exact present ids
        obtain ⟨rest, last, isRest, none, once⟩ :=
          ih (show 0 < fuel by omega) (show bound < index + 1 + fuel by omega) kept
        rw [isWork, Option.bind_some, isRest, Option.map_some]
        refine ⟨worked ++ rest, last, rfl, fun item absent => ?_, ?_⟩
        · rw [List.count_append, (others item (absent index (Nat.le_refl index))).1,
            none item fun later after => absent later (by omega)]
        · intro item own isReady before single only filled
          rw [List.count_append]
          rcases Nat.eq_or_lt_of_le before with rfl | further
          · rw [readies item isReady, single, none item fun later after onPage => by
              have same := only later onPage
              omega]
          · have absent : item ∉ pages index := by
              intro onPage
              have same := only index onPage
              omega
            rw [(others item absent).1,
              once item own ((others item absent).2 isReady) further single only filled]

end Loop

/-! ### Pages of queries with ties -/

section Ties

variable {Row Key Id : Type} [LinearOrder Key] {key : Row → Key} {id : Row → Id}
  {rows : List Row} {size : Nat} {orders : Nat → List Row} {row : Row}

/-- The ids on the pages of some answers. -/
def pageIds (id : Row → Id) (size : Nat) (orders : Nat → List Row) (index : Nat) : List Id :=
  (page size index (orders index)).map id

theorem pageIds_past (answered : ∀ index, ListedBy key rows (orders index)) {index : Nat}
    (beyond : rows.length ≤ index) : pageIds id size orders index = [] := by
  unfold pageIds page
  rw [List.map_eq_nil_iff, List.take_eq_nil_iff]
  rcases Nat.eq_zero_or_pos size with none | positive
  · exact .inl none
  · refine .inr (List.drop_eq_nil_of_le ?_)
    rw [(answered index).1.length_eq]
    exact Nat.le_trans beyond (Nat.le_mul_of_pos_right index positive)

theorem mem_pageIds (answered : ∀ index, ListedBy key rows (orders index))
    (distinct : (rows.map id).Nodup) (member : row ∈ rows) {index : Nat} :
    id row ∈ pageIds id size orders index ↔ row ∈ page size index (orders index) := by
  refine ⟨fun inside => ?_, List.mem_map_of_mem⟩
  obtain ⟨other, onPage, same⟩ := List.mem_map.mp inside
  have otherIn := (answered index).1.mem_iff.mp (List.mem_of_mem_drop (List.mem_of_mem_take onPage))
  rw [← List.inj_on_of_nodup_map distinct otherIn member same]
  exact onPage

theorem nodup_pageIds (answered : ∀ index, ListedBy key rows (orders index))
    (distinct : (rows.map id).Nodup) (index : Nat) : (pageIds id size orders index).Nodup := by
  have all := ((answered index).1.map id).nodup_iff.mpr distinct
  exact all.sublist (((List.take_sublist _ _).trans (List.drop_sublist _ _)).map id)

theorem Whole.pageIds [DecidableEq Id] (positive : 0 < size) (whole : Whole key rows size row) (member : row ∈ rows)
    (answered : ∀ index, ListedBy key rows (orders index)) (distinct : (rows.map id).Nodup) :
    ((pageIds id size orders (below key rows row / size)).count (id row) = 1) ∧
      (∀ index, id row ∈ Paging.pageIds id size orders index → index = below key rows row / size) ∧
      ∀ earlier ≤ below key rows row / size, Paging.pageIds id size orders earlier ≠ [] := by
  have onPage := whole.mem_page positive member (answered (below key rows row / size))
  refine ⟨?_, fun index inside => ?_, fun earlier before empty => ?_⟩
  · exact List.count_eq_one_of_mem (nodup_pageIds answered distinct _)
      ((mem_pageIds answered distinct member).mpr onPage)
  · exact (whole.page_eq (answered index) ((mem_pageIds answered distinct member).mp inside)).symm
  · unfold Paging.pageIds page at empty
    rw [List.map_eq_nil_iff, List.take_eq_nil_iff] at empty
    have ended := List.drop_eq_nil_iff.mp (empty.resolve_left (by omega))
    unfold page at onPage
    have bound := List.length_pos_of_mem (List.mem_of_mem_take onPage)
    rw [List.length_drop] at bound
    rw [(answered earlier).1.length_eq] at ended
    rw [(answered _).1.length_eq] at bound
    have order := Nat.mul_le_mul_right size before
    omega

end Ties

end Paging
