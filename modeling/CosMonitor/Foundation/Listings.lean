/-
**Lists that are written out of items in some order.**

* `split_unique`: an item of a list without repetitions stands in one place;
* `Lone`: at most one item writes something;
* `flatMap_of_lone`: then every order of the items writes the same;
* `lone_of_reverse`: where what is written tells its item, and the reversed items write the same, at most one
  item writes;
* `flatMap_pieces`: of two texts with pieces of the same lengths that are equal the pieces are equal.
-/

import Mathlib.Data.List.Perm.Basic

namespace Listings

variable {Item Out : Type} {write : Item → List Out} {items other : List Item}

theorem split_unique {item : Item} {before before' after after' : List Item}
    (same : before ++ item :: after = before' ++ item :: after')
    (distinct : (before ++ item :: after).Nodup) : before = before' ∧ after = after' := by
  induction before generalizing before' with
  | nil =>
      cases before' with
      | nil => exact ⟨rfl, (List.cons.inj same).2⟩
      | cons first rest =>
          obtain ⟨rfl, inside⟩ := List.cons.inj same
          refine absurd ?_ (List.nodup_cons.mp distinct).1
          rw [inside]
          exact List.mem_append_right rest List.mem_cons_self
  | cons first rest ih =>
      obtain ⟨apart, distinct⟩ := List.nodup_cons.mp distinct
      cases before' with
      | nil =>
          obtain ⟨rfl, -⟩ := List.cons.inj same
          exact absurd (List.mem_append_right rest List.mem_cons_self) apart
      | cons first' rest' =>
          obtain ⟨rfl, tails⟩ := List.cons.inj same
          obtain ⟨rfl, rfl⟩ := ih tails distinct
          exact ⟨rfl, rfl⟩

/-- At most one item writes something. -/
def Lone (write : Item → List Out) (items : List Item) : Prop :=
  ∀ first ∈ items, ∀ second ∈ items, write first ≠ [] → write second ≠ [] → first = second

theorem flatMap_filter_writing (write : Item → List Out) (items : List Item) :
    (items.filter fun item => !(write item).isEmpty).flatMap write = items.flatMap write := by
  induction items with
  | nil => rfl
  | cons first rest ih =>
      rw [List.filter_cons]
      split
      · rw [List.flatMap_cons, List.flatMap_cons, ih]
      · rename_i silent
        have nothing : write first = [] := by simpa using silent
        rw [List.flatMap_cons, nothing, List.nil_append, ih]

/-- **Where at most one item writes, every order of the items writes the same.** -/
theorem flatMap_of_lone (lone : Lone write items) (distinct : items.Nodup) (same : other.Perm items) :
    other.flatMap write = items.flatMap write := by
  rw [← flatMap_filter_writing write other, ← flatMap_filter_writing write items]
  have writing := same.filter fun item => !(write item).isEmpty
  have inside : ∀ item ∈ items.filter (fun item => !(write item).isEmpty),
      item ∈ items ∧ write item ≠ [] := by
    intro item member
    simpa using List.mem_filter.mp member
  have apart := distinct.filter fun item => !(write item).isEmpty
  generalize items.filter (fun item => !(write item).isEmpty) = writers at writing inside apart ⊢
  cases writers with
  | nil => rw [writing.eq_nil]
  | cons first rest =>
      cases rest with
      | nil => rw [writing.eq_singleton]
      | cons second others =>
          obtain ⟨firstIn, firstWrites⟩ := inside first List.mem_cons_self
          obtain ⟨secondIn, secondWrites⟩ := inside second (List.mem_cons_of_mem _ List.mem_cons_self)
          refine absurd ?_ (List.nodup_cons.mp apart).1
          rw [lone first firstIn second secondIn firstWrites secondWrites]
          exact List.mem_cons_self

/-- **Where the reversed items write the same, at most one item writes**, should what is written tell its
item. -/
theorem lone_of_reverse (distinct : items.Nodup)
    (tells : ∀ first ∈ items, ∀ second ∈ items, ∀ out ∈ write first, out ∈ write second →
      first = second)
    (same : items.reverse.flatMap write = items.flatMap write) : Lone write items := by
  have heads := congrArg List.head? same
  rw [List.head?_flatMap, List.head?_flatMap] at heads
  cases found : items.findSome? fun item => (write item).head? with
  | none =>
      have silent := List.findSome?_eq_none_iff.mp found
      intro first inside _ _ writes
      exact absurd (List.head?_eq_none_iff.mp (silent first inside)) writes
  | some out =>
      rw [found] at heads
      obtain ⟨before, first, after, isSplit, writes, silent⟩ := List.findSome?_eq_some_iff.mp found
      obtain ⟨after', last, before', isReversed, writes', silent'⟩ :=
        List.findSome?_eq_some_iff.mp heads
      have isSplit' : items = before'.reverse ++ last :: after'.reverse := by
        rw [← List.reverse_reverse items, isReversed]
        simp
      have firstIn : first ∈ items := by
        rw [isSplit]
        exact List.mem_append_right before List.mem_cons_self
      have lastIn : last ∈ items := by
        rw [isSplit']
        exact List.mem_append_right before'.reverse List.mem_cons_self
      -- the first item that writes and the last one write the same, so they are one
      obtain rfl := tells first firstIn last lastIn out (List.mem_of_mem_head? writes)
        (List.mem_of_mem_head? writes')
      obtain ⟨-, rfl⟩ := split_unique (isSplit.symm.trans isSplit') (isSplit ▸ distinct)
      have only : ∀ item ∈ items, write item ≠ [] → item = first := by
        intro item inside writes
        rw [isSplit] at inside
        rcases List.mem_append.mp inside with early | late
        · exact absurd (List.head?_eq_none_iff.mp (silent item early)) writes
        · rcases List.mem_cons.mp late with here | late
          · exact here
          · exact absurd (List.head?_eq_none_iff.mp (silent' item (List.mem_reverse.mp late))) writes
      intro item inside other otherInside writes otherWrites
      rw [only item inside writes, only other otherInside otherWrites]

theorem flatMap_pieces {write other : Item → List Out}
    (lengths : ∀ item ∈ items, (write item).length = (other item).length)
    (same : items.flatMap write = items.flatMap other) : ∀ item ∈ items, write item = other item := by
  induction items with
  | nil => exact fun _ inside => nomatch inside
  | cons first rest ih =>
      rw [List.flatMap_cons, List.flatMap_cons] at same
      obtain ⟨here, there⟩ := List.append_inj same (lengths first List.mem_cons_self)
      refine List.forall_mem_cons.mpr ⟨here, ih (fun item inside => ?_) there⟩
      exact lengths item (List.mem_cons_of_mem first inside)

end Listings
