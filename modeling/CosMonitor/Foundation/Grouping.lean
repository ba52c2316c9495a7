/-
**Groups of a list by a key, in the order in which the keys appear.**

`groupBy` is the loop that appends each element to the list under its key in a dictionary.

* `firsts`: the distinct elements of a list, each where it appears first;
* `groupBy_eq`: the groups are the elements of each key, under the keys in that order;
* `groupBy_append`, `groupBy_perm`: elements of one key in front, and the groups in another order;
* `groupBy_filter`: keeping the elements of some keys keeps their groups as they are;
* `map_snd_labelled`: elements under several keys each.
-/

import Mathlib.Data.List.Induction
import Mathlib.Data.List.Nodup

namespace Grouping

variable {Element Key : Type} [DecidableEq Key]

/-! ### First appearances -/

/-- The distinct elements of a list, in the order of their first appearance. -/
def firsts : List Key → List Key
  | [] => []
  | first :: rest => first :: (firsts rest).filter fun other => decide (other ≠ first)

@[simp] theorem firsts_nil : firsts ([] : List Key) = [] := rfl

theorem mem_firsts {key : Key} {keys : List Key} : key ∈ firsts keys ↔ key ∈ keys := by
  induction keys with
  | nil => simp
  | cons first rest ih =>
      rw [firsts, List.mem_cons, List.mem_filter, ih, List.mem_cons, decide_eq_true_eq]
      by_cases same : key = first
      · simp [same]
      · simp [same]

theorem firsts_nodup (keys : List Key) : (firsts keys).Nodup := by
  induction keys with
  | nil => exact List.nodup_nil
  | cons first rest ih =>
      refine List.nodup_cons.mpr ⟨?_, ih.filter _⟩
      simp [List.mem_filter]

theorem firsts_append (keys : List Key) (key : Key) :
    firsts (keys ++ [key]) = if key ∈ keys then firsts keys else firsts keys ++ [key] := by
  induction keys with
  | nil => rfl
  | cons first rest ih =>
      rw [List.cons_append, firsts, ih, firsts]
      by_cases same : key = first
      · rw [if_pos (List.mem_cons.mpr (.inl same))]
        by_cases known : key ∈ rest
        · rw [if_pos known]
        · rw [if_neg known, List.filter_append]
          simp [same]
      · by_cases known : key ∈ rest
        · rw [if_pos known, if_pos (List.mem_cons_of_mem _ known)]
        · rw [if_neg known, if_neg (by simp [same, known]), List.filter_append]
          simp [same]

theorem firsts_perm {order keys : List Key} (perm : order.Perm keys) :
    (firsts order).Perm (firsts keys) := by
  refine (List.perm_ext_iff_of_nodup (firsts_nodup _) (firsts_nodup _)).mpr fun found => ?_
  rw [mem_firsts, mem_firsts]
  exact perm.mem_iff

theorem firsts_filter (keep : Key → Bool) (keys : List Key) :
    firsts (keys.filter keep) = (firsts keys).filter keep := by
  induction keys with
  | nil => rfl
  | cons first rest ih =>
      by_cases kept : keep first = true
      · rw [List.filter_cons_of_pos kept, firsts, firsts, List.filter_cons_of_pos kept, ih,
          List.filter_comm]
      · rw [List.filter_cons_of_neg kept, firsts, List.filter_cons_of_neg kept, ih, List.filter_filter]
        refine List.filter_congr fun other _ => ?_
        by_cases same : other = first
        · simp [same, kept]
        · simp [same]

/-! ### Groups -/

/-- `groups[key(element)].append(element)`. -/
def addToGroup (key : Element → Key) (element : Element) :
    List (Key × List Element) → List (Key × List Element)
  | [] => [(key element, [element])]
  | (other, group) :: rest =>
      if other = key element then (other, group ++ [element]) :: rest
      else (other, group) :: addToGroup key element rest

/-- Group the elements by their keys. -/
def groupBy (key : Element → Key) (elements : List Element) : List (Key × List Element) :=
  elements.foldl (fun groups element => addToGroup key element groups) []

variable {key : Element → Key} {element : Element} {elements : List Element}

theorem addToGroup_map {keys : List Key} {group : Key → List Element} (distinct : keys.Nodup) :
    addToGroup key element (keys.map fun found => (found, group found)) =
      if key element ∈ keys then
        keys.map fun found => (found, if found = key element then group found ++ [element]
          else group found)
      else (keys.map fun found => (found, group found)) ++ [(key element, [element])] := by
  induction keys with
  | nil => rfl
  | cons first rest ih =>
      obtain ⟨absent, distinct⟩ := List.nodup_cons.mp distinct
      rw [List.map_cons, addToGroup, List.map_cons]
      by_cases same : first = key element
      · rw [if_pos same, if_pos (List.mem_cons.mpr (.inl same.symm)), if_pos same]
        refine congrArg _ (List.map_congr_left fun other member => ?_)
        have differ : other ≠ key element := by
          rintro rfl
          exact absent (same ▸ member)
        rw [if_neg differ]
      · rw [if_neg same, ih distinct, if_neg same]
        have differ : key element ≠ first := fun isFirst => same isFirst.symm
        by_cases known : key element ∈ rest
        · rw [if_pos known, if_pos (List.mem_cons_of_mem _ known)]
        · rw [if_neg known, if_neg (by simp [differ, known])]
          rfl

/-- **The groups**: the elements of each key, under the keys in the order of their appearance. -/
theorem groupBy_eq (key : Element → Key) (elements : List Element) :
    groupBy key elements = (firsts (elements.map key)).map fun found =>
      (found, elements.filter fun element => decide (key element = found)) := by
  induction elements using List.reverseRecOn with
  | nil => rfl
  | append_singleton rest element ih =>
      have added : groupBy key (rest ++ [element]) = addToGroup key element (groupBy key rest) := by
        unfold groupBy
        rw [List.foldl_append]
        rfl
      rw [added, ih, addToGroup_map (firsts_nodup _), List.map_append, List.map_singleton, firsts_append]
      by_cases known : key element ∈ rest.map key
      · rw [if_pos (mem_firsts.mpr known), if_pos known]
        refine List.map_congr_left fun found _ => Prod.ext rfl ?_
        dsimp only
        rw [List.filter_append]
        by_cases same : found = key element
        · simp [same]
        · simp [same, Ne.symm same]
      · rw [if_neg (mt mem_firsts.mp known), if_neg known, List.map_append, List.map_singleton]
        refine congrArg₂ _ (List.map_congr_left fun found member => Prod.ext rfl ?_) ?_
        · have differ : key element ≠ found := fun same => known (same ▸ mem_firsts.mp member)
          simp [List.filter_append, differ]
        · have none : rest.filter (fun other => decide (key other = key element)) = [] :=
            List.filter_eq_nil_iff.mpr fun other member same =>
              known (List.mem_map.mpr ⟨other, member, of_decide_eq_true same⟩)
          simp [List.filter_append, none]

theorem groupBy_single {found : Key} (present : elements ≠ [])
    (same : ∀ element ∈ elements, key element = found) :
    groupBy key elements = [(found, elements)] := by
  have keys : elements.map key = List.replicate elements.length found :=
    List.eq_replicate_iff.mpr ⟨List.length_map key, by simpa using same⟩
  have once : ∀ count, 0 < count → firsts (List.replicate count found) = [found] := by
    intro count positive
    obtain ⟨less, rfl⟩ := Nat.exists_eq_add_one.mpr positive
    rw [List.replicate_succ, firsts]
    simp only [List.cons.injEq, true_and, List.filter_eq_nil_iff, mem_firsts, List.mem_replicate]
    rintro other ⟨-, rfl⟩
    simp
  rw [groupBy_eq, keys, once _ (List.length_pos_iff.mpr present), List.map_singleton,
    List.filter_eq_self.mpr fun element member => decide_eq_true (same element member)]

theorem mem_groupBy {found : Key} {group : List Element}
    (member : (found, group) ∈ groupBy key elements) :
    group = elements.filter (fun element => decide (key element = found)) ∧ group ≠ [] := by
  rw [groupBy_eq] at member
  obtain ⟨other, known, same⟩ := List.mem_map.mp member
  obtain ⟨rfl, rfl⟩ := Prod.mk.inj same
  refine ⟨rfl, ?_⟩
  obtain ⟨element, inside, isKey⟩ := List.mem_map.mp (mem_firsts.mp known)
  exact List.ne_nil_of_mem (List.mem_filter.mpr ⟨inside, decide_eq_true isKey⟩)

/-- **Keeping the elements of some keys keeps their groups.** -/
theorem groupBy_filter (keep : Element → Bool) (kept : Key → Bool)
    (agree : ∀ element ∈ elements, keep element = kept (key element)) :
    groupBy key (elements.filter keep) = (groupBy key elements).filter fun group => kept group.1 := by
  have keys : (elements.filter keep).map key = (elements.map key).filter kept := by
    rw [List.filter_map]
    exact congrArg _ (List.filter_congr agree)
  rw [groupBy_eq, groupBy_eq, keys, firsts_filter, List.filter_map]
  refine List.map_congr_left fun found member => Prod.ext rfl ?_
  have isKept : kept found = true := (List.mem_filter.mp member).2
  dsimp only
  rw [List.filter_filter]
  refine List.filter_congr fun element inside => ?_
  by_cases same : key element = found
  · simp [same, agree element inside, isKept]
  · simp [same]

theorem groupBy_append {found : Key} {front rest : List Element} (filled : front ≠ [])
    (same : ∀ element ∈ front, key element = found) (apart : ∀ element ∈ rest, key element ≠ found) :
    groupBy key (front ++ rest) = (found, front) :: groupBy key rest := by
  have others : found ∉ rest.map key := fun member => by
    obtain ⟨element, inside, isKey⟩ := List.mem_map.mp member
    exact apart element inside isKey
  have kept : (firsts (rest.map key)).filter (fun other => decide (other ≠ found)) =
      firsts (rest.map key) :=
    List.filter_eq_self.mpr fun other member => decide_eq_true fun isFound =>
      others (isFound ▸ mem_firsts.mp member)
  have once : ∀ keys : List Key, keys ≠ [] → (∀ other ∈ keys, other = found) →
      firsts (keys ++ rest.map key) = found :: firsts (rest.map key) := by
    intro keys
    induction keys with
    | nil => exact fun absent _ => absurd rfl absent
    | cons first later ih =>
        intro _ all
        obtain rfl := all first List.mem_cons_self
        rw [List.cons_append, firsts]
        rcases later with - | ⟨second, later⟩
        · rw [List.nil_append, kept]
        · rw [ih (List.cons_ne_nil _ _) fun other member => all other (List.mem_cons_of_mem _ member),
            List.filter_cons_of_neg (by simp), kept]
  have keys : firsts ((front ++ rest).map key) = found :: firsts (rest.map key) := by
    rw [List.map_append]
    refine once _ (fun empty => filled (List.map_eq_nil_iff.mp empty)) fun other member => ?_
    obtain ⟨element, inside, rfl⟩ := List.mem_map.mp member
    exact same element inside
  have first : (front ++ rest).filter (fun element => decide (key element = found)) = front := by
    rw [List.filter_append, List.filter_eq_self.mpr fun element inside =>
        decide_eq_true (same element inside),
      List.filter_eq_nil_iff.mpr fun element inside => by simpa using apart element inside,
      List.append_nil]
  rw [groupBy_eq, groupBy_eq, keys, List.map_cons, first]
  refine congrArg _ (List.map_congr_left fun other member => Prod.ext rfl ?_)
  have differ : other ≠ found := fun isFound => others (isFound ▸ mem_firsts.mp member)
  have none : front.filter (fun element => decide (key element = other)) = [] :=
    List.filter_eq_nil_iff.mpr fun element inside isOther =>
      differ ((of_decide_eq_true isOther).symm.trans (same element inside))
  rw [List.filter_append, none, List.nil_append]

theorem lookup_keys {Value : Type} [BEq Key] [LawfulBEq Key] (value : Key → Value) (found : Key) (keys : List Key) :
    (keys.map fun key => (key, value key)).lookup found =
      if found ∈ keys then some (value found) else none := by
  induction keys with
  | nil => rfl
  | cons first rest ih =>
      rw [List.map_cons, List.lookup_cons, ih]
      by_cases same : found = first
      · simp [same]
      · have differ : (found == first) = false := beq_false_of_ne same
        simp [differ, same]

theorem lookup_groupBy {Value : Type} [BEq Key] [LawfulBEq Key] (value : List Element → Value) (found : Key) :
    ((groupBy key elements).map fun group => (group.1, value group.2)).lookup found =
      if found ∈ elements.map key then
        some (value (elements.filter fun element => decide (key element = found)))
      else none := by
  rw [groupBy_eq, List.map_map]
  have appears : found ∈ firsts (elements.map key) ↔ found ∈ elements.map key := mem_firsts
  simp only [← appears]
  exact lookup_keys _ found _

theorem mem_groupBy_iff {found : Key} {group : List Element} :
    (found, group) ∈ groupBy key elements ↔
      group = elements.filter (fun element => decide (key element = found)) ∧ group ≠ [] := by
  refine ⟨mem_groupBy, fun ⟨isGroup, filled⟩ => ?_⟩
  obtain ⟨element, inside⟩ := List.exists_mem_of_ne_nil _ filled
  rw [isGroup] at inside
  obtain ⟨inAll, isKey⟩ := List.mem_filter.mp inside
  rw [groupBy_eq]
  refine List.mem_map.mpr ⟨found, mem_firsts.mpr (List.mem_map.mpr ⟨element, inAll, ?_⟩), ?_⟩
  · exact of_decide_eq_true isKey
  · rw [isGroup]

theorem map_fst_groupBy (elements : List Element) :
    (groupBy key elements).map Prod.fst = firsts (elements.map key) := by
  rw [groupBy_eq, List.map_map]
  exact List.map_id _

theorem pairwise_groupBy (elements : List Element) :
    (groupBy key elements).Pairwise fun first second => first.1 ≠ second.1 := by
  rw [← List.pairwise_map, map_fst_groupBy]
  exact firsts_nodup _

/-! ### Elements under several keys -/

/-- Each element under each of its keys. -/
def labelled (keys : Element → List Key) (elements : List Element) : List (Key × Element) :=
  elements.flatMap fun element => (keys element).map fun key => (key, element)

theorem map_snd_labelled {keys : Element → List Key} (once : ∀ element, (keys element).Nodup) (found : Key) :
    ((labelled keys elements).filter fun entry => decide (entry.1 = found)).map Prod.snd =
      elements.filter fun element => decide (found ∈ keys element) := by
  induction elements with
  | nil => rfl
  | cons element rest ih =>
      have head : (((keys element).map fun key => (key, element)).filter fun entry =>
          decide (entry.1 = found)).map Prod.snd = if found ∈ keys element then [element] else [] := by
        have own : (keys element).filter (fun key => decide (key = found)) =
            List.replicate ((keys element).count found) found := List.filter_eq found
        rw [List.filter_map, List.map_map]
        refine (congrArg (List.map fun _ => element) own).trans ?_
        rw [List.map_replicate, (once element).count]
        split
        · rfl
        · rfl
      unfold labelled at ih ⊢
      rw [List.flatMap_cons, List.filter_append, List.map_append, head, ih, List.filter_cons]
      by_cases has : found ∈ keys element
      · rw [if_pos has, if_pos (decide_eq_true has)]
        rfl
      · rw [if_neg has, if_neg fun named => has (of_decide_eq_true named)]
        rfl

section Orders

variable {order : List Element} (perm : order.Perm elements)

include perm

theorem keys_groupBy_perm :
    ((groupBy key order).map Prod.fst).Perm ((groupBy key elements).map Prod.fst) := by
  rw [map_fst_groupBy, map_fst_groupBy]
  exact firsts_perm (perm.map key)

theorem groupBy_perm {found : Key} {group : List Element} (member : (found, group) ∈ groupBy key order) :
    ∃ other, (found, other) ∈ groupBy key elements ∧ group.Perm other := by
  obtain ⟨isGroup, filled⟩ := mem_groupBy member
  have same : group.Perm (elements.filter fun element => decide (key element = found)) := by
    rw [isGroup]
    exact perm.filter _
  exact ⟨_, mem_groupBy_iff.mpr ⟨rfl, fun empty => filled (List.perm_nil.mp (empty ▸ same))⟩, same⟩

end Orders

end Grouping
