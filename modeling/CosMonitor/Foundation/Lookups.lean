/-
**References that are looked up, and when what they find is listed once.**

A lookup finds at most one row for a key. Rows refer to other rows by keys, one key in a field or a list
of them, and a walk collects what the references find.

* `Sound`: what is found for a key has it;
* `nodup_filterMap_iff`: a list of keys finds each row once when no key that finds one repeats;
* `nodup_filterMap_field_iff`, `nodup_flatMap_iff`: the same of references from different rows;
* `filterMap_pointwise`: two lookups that find the same, where the first one finds everything;
* `last`: the last item that a test accepts, which is what a dictionary keeps of several under one key.
-/

import Mathlib.Data.List.Nodup
import Mathlib.Data.List.Pairwise

namespace Lookups

variable {Key Row Item : Type} {key : Row → Key} {find : Key → Option Row}

/-- What is found for a key has that key. -/
def Sound (key : Row → Key) (find : Key → Option Row) : Prop :=
  ∀ wanted row, find wanted = some row → key row = wanted

theorem map_key_filterMap (sound : Sound key find) (keys : List Key) :
    (keys.filterMap find).map key = keys.filter fun wanted => (find wanted).isSome := by
  induction keys with
  | nil => rfl
  | cons wanted rest ih =>
      rcases found : find wanted with - | row
      · simp [found, ih]
      · simp [found, ih, sound wanted row found]

theorem mem_map_filterMap (sound : Sound key find) {keys : List Key} {wanted : Key} :
    wanted ∈ (keys.filterMap find).map key ↔ wanted ∈ keys ∧ find wanted ≠ none := by
  rw [map_key_filterMap sound, List.mem_filter, Option.isSome_iff_ne_none]

theorem filterMap_pointwise {First Second : Type} {inputs : List First} {f g : First → Option Second}
    (total : ∀ input ∈ inputs, (f input).isSome = true)
    (same : inputs.filterMap f = inputs.filterMap g) : ∀ input ∈ inputs, f input = g input := by
  induction inputs with
  | nil => exact fun _ absent => (nomatch absent)
  | cons input rest ih =>
      obtain ⟨here, others⟩ := List.forall_mem_cons.mp total
      obtain ⟨value, isValue⟩ := Option.isSome_iff_exists.mp here
      rw [List.filterMap_cons_some isValue] at same
      rcases other : g input with none | found
      · -- The second one would have fewer values.
        rw [List.filterMap_cons_none other] at same
        have length := congrArg List.length same
        rw [List.length_cons, List.filterMap_length_eq_length.mpr others] at length
        have fewer := List.length_filterMap_le g rest
        omega
      · rw [List.filterMap_cons_some other, List.cons.injEq] at same
        obtain ⟨rfl, rest⟩ := same
        exact List.forall_mem_cons.mpr ⟨isValue.trans other.symm, ih others rest⟩

theorem nodup_filterMap_iff (sound : Sound key find) {keys : List Key} :
    ((keys.filterMap find).map key).Nodup ↔
      keys.Pairwise fun first second => first = second → find first = none := by
  rw [map_key_filterMap sound, List.Nodup, List.pairwise_filter]
  refine List.Pairwise.iff fun first second => ?_
  constructor
  · intro apart same
    subst same
    by_contra found
    exact apart (Option.isSome_iff_ne_none.mpr found) (Option.isSome_iff_ne_none.mpr found) rfl
  · intro missing found _ same
    rw [missing same] at found
    cases found

section Items

variable {items : List Item}

theorem pairwise_iff_forall_ne {relation : Item → Item → Prop} [Std.Symm relation]
    (distinct : items.Nodup) :
    items.Pairwise relation ↔
      ∀ first ∈ items, ∀ second ∈ items, first ≠ second → relation first second :=
  ⟨fun pairwise _ member _ otherIn => pairwise.forall member otherIn,
    fun apart => distinct.pairwise_of_forall_ne apart⟩

theorem nodup_filterMap_field_iff (sound : Sound key find) (distinct : items.Nodup)
    (field : Item → Key) :
    ((items.filterMap fun item => find (field item)).map key).Nodup ↔
      ∀ first ∈ items, ∀ second ∈ items, first ≠ second → field first = field second →
        find (field first) = none := by
  have symmetric : Std.Symm fun first second : Item =>
      field first = field second → find (field first) = none :=
    ⟨fun first second missing same => same ▸ missing same.symm⟩
  have mapped : (items.filterMap fun item => find (field item)) = (items.map field).filterMap find := by
    rw [List.filterMap_map]
    rfl
  rw [mapped, nodup_filterMap_iff sound, List.pairwise_map, pairwise_iff_forall_ne distinct]

theorem nodup_flatMap_iff (sound : Sound key find) (distinct : items.Nodup)
    (fields : Item → List Key) :
    ((items.flatMap fun item => (fields item).filterMap find).map key).Nodup ↔
      (∀ item ∈ items, (fields item).Pairwise fun first second =>
        first = second → find first = none) ∧
      ∀ first ∈ items, ∀ second ∈ items, first ≠ second → ∀ wanted ∈ fields first,
        wanted ∈ fields second → find wanted = none := by
  rw [List.map_flatMap, List.nodup_flatMap]
  have symmetric : Std.Symm (Function.onFun List.Disjoint fun item : Item =>
      ((fields item).filterMap find).map key) :=
    ⟨fun _ _ disjoint _ inSecond inFirst => disjoint inFirst inSecond⟩
  rw [pairwise_iff_forall_ne distinct]
  refine and_congr ?_ ?_
  · exact forall₂_congr fun item _ => nodup_filterMap_iff sound
  · refine forall₂_congr fun first _ => forall₂_congr fun second _ => forall_congr' fun _ => ?_
    constructor
    · intro disjoint wanted named alsoNamed
      by_contra found
      exact disjoint ((mem_map_filterMap sound).mpr ⟨named, found⟩)
        ((mem_map_filterMap sound).mpr ⟨alsoNamed, found⟩)
    · intro missing wanted named alsoNamed
      obtain ⟨inFirst, found⟩ := (mem_map_filterMap sound).mp named
      exact found (missing wanted inFirst ((mem_map_filterMap sound).mp alsoNamed).1)

end Items

/-! ### The last one -/

section Last

variable {accepts : Item → Bool} {items : List Item} {item : Item}

/-- The last item that a test accepts. -/
def last (accepts : Item → Bool) (items : List Item) : Option Item :=
  items.reverse.find? accepts

theorem last_cons : last accepts (item :: items) =
    (last accepts items).or (if accepts item then some item else none) := by
  unfold last
  rw [List.reverse_cons, List.find?_append, List.find?_singleton]

theorem last_spec (found : last accepts items = some item) : item ∈ items ∧ accepts item = true :=
  ⟨List.mem_reverse.mp (List.mem_of_find?_eq_some found), List.find?_some found⟩

theorem last_append {front back : List Item} :
    last accepts (front ++ back) = (last accepts back).or (last accepts front) := by
  unfold last
  rw [List.reverse_append, List.find?_append]

theorem last_eq_none : last accepts items = none ↔ ∀ item ∈ items, accepts item = false := by
  simp [last]

theorem last_filter {keeps : Item → Bool} (kept : ∀ item, accepts item = true → keeps item = true) :
    last accepts (items.filter keeps) = last accepts items := by
  induction items with
  | nil => rfl
  | cons item rest ih =>
      by_cases isKept : keeps item = true
      · rw [List.filter_cons_of_pos isKept, last_cons, last_cons, ih]
      · have refused : ¬ accepts item = true := fun accepted => isKept (kept item accepted)
        rw [List.filter_cons_of_neg isKept, last_cons, ih]
        simp [refused]

theorem last_eq_of_forall (member : item ∈ items) (accepted : accepts item = true)
    (only : ∀ other ∈ items, accepts other = true → other = item) :
    last accepts items = some item := by
  rcases found : last accepts items with - | other
  · exact absurd accepted (by simp [last_eq_none.mp found item member])
  · obtain ⟨otherIn, isOther⟩ := last_spec found
    rw [only other otherIn isOther]

theorem last_partition {keeps : Item → Bool}
    (oneSide : (∀ item, accepts item = true → keeps item = true) ∨
      ∀ item, accepts item = true → keeps item = false) :
    last accepts (items.filter keeps ++ items.filter fun item => !keeps item) = last accepts items := by
  rcases oneSide with kept | dropped
  · have none : last accepts (items.filter fun item => !keeps item) = Option.none :=
      last_eq_none.mpr fun item member => by
        by_contra accepted
        have isKept := kept item (eq_true_of_ne_false accepted)
        simp [isKept] at member
    rw [last_append, none, Option.none_or, last_filter kept]
  · have none : last accepts (items.filter keeps) = Option.none :=
      last_eq_none.mpr fun item member => by
        by_contra accepted
        have isDropped := dropped item (eq_true_of_ne_false accepted)
        simp [isDropped] at member
    rw [last_append, none, Option.or_none,
      last_filter fun item accepted => by simp [dropped item accepted]]

end Last

end Lookups
