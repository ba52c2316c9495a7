/-
**Sorting by a key, as `sorted(items, key=key)` does: stable, and evaluated by structural recursion.**

* `sortBy`, `sortByDesc`: in ascending and in descending order of the key;
* `sortBy_perm`, `pairwise_sortBy`, `pairwise_sortByDesc`: the same items, in order;
* `pairwise_insertionSort`: sorting by any relation that is the order of a key;
* `sortBy_eq`, `sortBy_congr`: items with different keys have one sorted order.
-/

import Mathlib.Data.List.Sort

namespace Sorting

variable {Item Key : Type}

section Definitions

variable [LE Key] [DecidableLE Key]

/-- `sorted(items, key=key)`. -/
def sortBy (key : Item → Key) (items : List Item) : List Item :=
  items.insertionSort fun first second => key first ≤ key second

/-- `sorted(items, key=key, reverse=True)`. -/
def sortByDesc (key : Item → Key) (items : List Item) : List Item :=
  items.insertionSort fun first second => key second ≤ key first

variable {key : Item → Key} {items : List Item}

theorem sortBy_perm (key : Item → Key) (items : List Item) : (sortBy key items).Perm items :=
  List.perm_insertionSort _ items

@[simp] theorem length_sortBy (key : Item → Key) (items : List Item) :
    (sortBy key items).length = items.length :=
  (sortBy_perm key items).length_eq

@[simp] theorem mem_sortBy {item : Item} : item ∈ sortBy key items ↔ item ∈ items :=
  (sortBy_perm key items).mem_iff

theorem map_sortBy {Other : Type} (change : Other → Item) (others : List Other) :
    (sortBy (fun other => key (change other)) others).map change = sortBy key (others.map change) :=
  List.map_insertionSort (fun first second => key (change first) ≤ key (change second))
    (fun first second => key first ≤ key second) change others fun _ _ _ _ => Iff.rfl

theorem sortByDesc_perm (key : Item → Key) (items : List Item) : (sortByDesc key items).Perm items :=
  List.perm_insertionSort _ items

@[simp] theorem sortByDesc_singleton (key : Item → Key) (item : Item) :
    sortByDesc key [item] = [item] := rfl

end Definitions

variable [LinearOrder Key] {key : Item → Key} {items other : List Item}

theorem pairwise_insertionSort {before : Item → Item → Prop} [DecidableRel before]
    (isKey : ∀ first second, before first second ↔ key first ≤ key second) (items : List Item) :
    (items.insertionSort before).Pairwise fun first second => key first ≤ key second := by
  have total : Std.Total before := ⟨fun first second => by
    rw [isKey, isKey]
    exact le_total _ _⟩
  have transitive : IsTrans Item before := ⟨fun first second third => by
    rw [isKey, isKey, isKey]
    exact le_trans⟩
  exact (List.pairwise_insertionSort before items).imp (isKey _ _).mp

theorem pairwise_sortBy (key : Item → Key) (items : List Item) :
    (sortBy key items).Pairwise fun first second => key first ≤ key second :=
  pairwise_insertionSort (fun _ _ => Iff.rfl) items

theorem pairwise_sortByDesc (key : Item → Key) (items : List Item) :
    (sortByDesc key items).Pairwise fun first second => key second ≤ key first := by
  have isKey : ∀ first second, key second ≤ key first ↔
      OrderDual.toDual (key first) ≤ OrderDual.toDual (key second) := fun _ _ => Iff.rfl
  exact pairwise_insertionSort isKey items

/-- **The first item in descending order**: none before it has its key or a greater one, and none after it
a greater one. -/
theorem head_sortByDesc_iff {item : Item} :
    (sortByDesc key items).head? = some item ↔ ∃ before after, items = before ++ item :: after ∧
      (∀ earlier ∈ before, key earlier < key item) ∧ ∀ later ∈ after, key later ≤ key item := by
  have step : ∀ first rest, (sortByDesc key (first :: rest)).head? =
      (sortByDesc key rest).head?.elim (some first) fun top =>
        if key top ≤ key first then some first else some top := by
    intro first rest
    unfold sortByDesc
    rw [List.insertionSort_cons]
    rcases rest.insertionSort fun first second => key second ≤ key first with _ | ⟨top, others⟩
    · rfl
    · rw [List.orderedInsert_cons, List.head?_cons, Option.elim_some]
      split
      · rfl
      · rfl
  induction items generalizing item with
  | nil => simp [sortByDesc]
  | cons first rest ih =>
      rw [step]
      constructor
      · intro isHead
        rcases found : (sortByDesc key rest).head? with _ | top
        · have empty : rest = [] := by
            rw [List.head?_eq_none_iff] at found
            exact List.Perm.nil_eq (found ▸ (sortByDesc_perm key rest)) |>.symm
          rw [found] at isHead
          obtain rfl := Option.some.inj isHead
          exact ⟨[], rest, rfl, nofun, by rw [empty]; nofun⟩
        · rw [found] at isHead
          obtain ⟨before, after, rfl, less, most⟩ := ih.mp found
          rw [Option.elim_some] at isHead
          split at isHead
          · rename_i atMost
            obtain rfl := Option.some.inj isHead
            refine ⟨[], _, rfl, nofun, fun later member => ?_⟩
            rcases List.mem_append.mp member with inBefore | inAfter
            · exact (less later inBefore).le.trans atMost
            · rcases List.mem_cons.mp inAfter with rfl | inAfter
              · exact atMost
              · exact (most later inAfter).trans atMost
          · rename_i more
            obtain rfl := Option.some.inj isHead
            refine ⟨first :: before, after, rfl, fun earlier member => ?_, most⟩
            rcases List.mem_cons.mp member with rfl | member
            · exact not_le.mp more
            · exact less earlier member
      · rintro ⟨before, after, split, less, most⟩
        rcases before with _ | ⟨other, before⟩
        · obtain ⟨rfl, rfl⟩ := List.cons.inj split
          rcases found : (sortByDesc key rest).head? with _ | top
          · rfl
          · have member := (sortByDesc_perm key rest).mem_iff.mp (List.mem_of_mem_head? found)
            exact if_pos (most top member)
        · obtain ⟨rfl, rfl⟩ := List.cons.inj split
          rw [ih.mpr ⟨before, after, rfl, fun earlier member => less earlier (List.mem_cons_of_mem _ member),
            most⟩]
          exact if_neg (not_le.mpr (less first List.mem_cons_self))

theorem sortBy_of_pairwise (ordered : items.Pairwise fun first second => key first ≤ key second) :
    sortBy key items = items :=
  ordered.insertionSort_eq

/-- **Items with different keys have one sorted order.** -/
theorem sortBy_eq (same : other.Perm items)
    (ordered : items.Pairwise fun first second => key first < key second) :
    sortBy key other = items := by
  have together := (sortBy_perm key other).trans same
  have distinct : (items.map key).Nodup := List.pairwise_map.mpr (ordered.imp fun less => less.ne)
  exact List.Perm.eq_of_pairwise (fun first second firstIn secondIn below above =>
    List.inj_on_of_nodup_map distinct (together.mem_iff.mp firstIn) secondIn (le_antisymm below above))
    (pairwise_sortBy key other) (ordered.imp le_of_lt) together

theorem pairwise_lt_sortBy (distinct : (items.map key).Nodup) :
    (sortBy key items).Pairwise fun first second => key first < key second := by
  have apart : ((sortBy key items).map key).Nodup :=
    (((sortBy_perm key items).map key).nodup_iff).mpr distinct
  refine ((pairwise_sortBy key items).and (List.pairwise_map.mp apart)).imp ?_
  rintro first second ⟨below, different⟩
  exact lt_of_le_of_ne below different

/-- **The order in which items with different keys are given does not matter.** -/
theorem sortBy_congr (same : other.Perm items) (distinct : (items.map key).Nodup) :
    sortBy key other = sortBy key items :=
  sortBy_eq (same.trans (sortBy_perm key items).symm) (pairwise_lt_sortBy distinct)

end Sorting
