/-
**Exclusive claims on the rows of a table.**

Workers take rows of a table and work on their copies. `Claims` says that the copies are the rows of
the table, that they are free to be worked on, and that no two copies are of one row.

* `Claims.take`, `Claims.release`: a worker without claims takes free rows that nobody has, and lets
  some of its claims go;
* `Claims.insert`, `Claims.update`: a new row, and a change of a claimed row that its worker lets go;
* `Claims.settled`: what is not free is not claimed, so an update leaves it alone.
-/

import CosMonitor.Foundation.Table

namespace Claims

open Table

variable {Row Key Worker : Type}

/-- The copies that the workers hold are free rows of the table, each held once. -/
structure Exclusive (key : Row → Key) (Free : Row → Prop) (rows : List Row)
    (held : Worker → List Row) : Prop where
  keys : (rows.map key).Nodup
  current : ∀ worker, ∀ row ∈ held worker, row ∈ rows ∧ Free row
  apart : ∀ first second, first ≠ second → ∀ row ∈ held first, ∀ other ∈ held second,
    key row ≠ key other
  once : ∀ worker, ((held worker).map key).Nodup

variable {key : Row → Key} {Free : Row → Prop} {rows : List Row} {held : Worker → List Row}
  {worker : Worker} {row : Row}

theorem Exclusive.unclaimed (keys : (rows.map key).Nodup) :
    Exclusive key Free rows (fun _ : Worker => []) where
  keys := keys
  current := by
    rintro worker row ⟨⟩
  apart := by
    rintro first second differ row ⟨⟩
  once := fun _ => List.nodup_nil

theorem Exclusive.eq_of_key (claims : Exclusive key Free rows held) {other : Row} (rowIn : row ∈ rows)
    (otherIn : other ∈ rows) (same : key row = key other) : row = other :=
  List.inj_on_of_nodup_map claims.keys rowIn otherIn same

theorem Exclusive.insert (claims : Exclusive key Free rows held)
    (fresh : ∀ other ∈ rows, key other ≠ key row) : Exclusive key Free (rows ++ [row]) held where
  keys := by
    rw [List.map_append, List.map_singleton]
    refine claims.keys.append (List.nodup_singleton _) ?_
    intro found old new
    obtain ⟨other, member, rfl⟩ := List.mem_map.mp old
    exact fresh other member (List.mem_singleton.mp new)
  current := fun other claimed member => by
    obtain ⟨inRows, free⟩ := claims.current other claimed member
    exact ⟨List.mem_append_left _ inRows, free⟩
  apart := claims.apart
  once := claims.once

/-- **What is not free stays** when a worker changes the row of a claim. -/
theorem Exclusive.settled [DecidableEq Key] (claims : Exclusive key Free rows held) {claimed : Row}
    {patch : Row → Row} (holds : claimed ∈ held worker) (member : row ∈ rows) (settled : ¬Free row) :
    row ∈ updateWhere (fun row => decide (key row = key claimed)) patch rows := by
  obtain ⟨inRows, free⟩ := claims.current worker claimed holds
  refine mem_updateWhere.mpr (.inr ⟨member, decide_eq_false fun same => settled ?_⟩)
  rw [claims.eq_of_key member inRows same]
  exact free

section Update

variable [DecidableEq Worker]

theorem Exclusive.replace (claims : Exclusive key Free rows held) {claimed : List Row}
    (current : ∀ row ∈ claimed, row ∈ rows ∧ Free row) (once : (claimed.map key).Nodup)
    (apart : ∀ other, other ≠ worker → ∀ row ∈ claimed, ∀ taken ∈ held other, key taken ≠ key row) :
    Exclusive key Free rows (Function.update held worker claimed) where
  keys := claims.keys
  current := by
    intro other row member
    by_cases own : other = worker
    · rw [own, Function.update_self] at member
      exact current row member
    · rw [Function.update_of_ne own] at member
      exact claims.current other row member
  apart := by
    intro first second differ row member other otherIn
    by_cases firstOwn : first = worker
    · have secondOther : second ≠ worker := fun same => differ (firstOwn.trans same.symm)
      rw [firstOwn, Function.update_self] at member
      rw [Function.update_of_ne secondOther] at otherIn
      exact (apart second secondOther row member other otherIn).symm
    · rw [Function.update_of_ne firstOwn] at member
      by_cases secondOwn : second = worker
      · rw [secondOwn, Function.update_self] at otherIn
        exact apart first firstOwn other otherIn row member
      · rw [Function.update_of_ne secondOwn] at otherIn
        exact claims.apart first second differ row member other otherIn
  once := by
    intro other
    by_cases own : other = worker
    · rw [own, Function.update_self]
      exact once
    · rw [Function.update_of_ne own]
      exact claims.once other

theorem Exclusive.release (claims : Exclusive key Free rows held) {kept : List Row}
    (fewer : List.Sublist kept (held worker)) :
    Exclusive key Free rows (Function.update held worker kept) := by
  refine claims.replace (fun row member => claims.current worker row (fewer.subset member)) ?_ ?_
  · exact (claims.once worker).sublist (fewer.map key)
  · intro other differ row member taken takenIn
    exact claims.apart other worker differ taken takenIn row (fewer.subset member)

/-- **A worker changes the row of its first claim and lets it go.** -/
theorem Exclusive.update [DecidableEq Key] (claims : Exclusive key Free rows held) {claimed : Row}
    {rest : List Row} {patch : Row → Row} (holds : held worker = claimed :: rest)
    (sameKey : ∀ row, key (patch row) = key row) :
    Exclusive key Free (updateWhere (fun row => decide (key row = key claimed)) patch rows)
      (Function.update held worker rest) := by
  have once := claims.once worker
  rw [holds, List.map_cons, List.nodup_cons] at once
  have kept : ∀ other, ∀ row ∈ Function.update held worker rest other,
      row ∈ held other ∧ key row ≠ key claimed := by
    intro other row member
    by_cases own : other = worker
    · rw [own, Function.update_self] at member
      rw [own, holds]
      refine ⟨List.mem_cons_of_mem _ member, fun same => once.1 ?_⟩
      rw [← same]
      exact List.mem_map_of_mem member
    · rw [Function.update_of_ne own] at member
      refine ⟨member, claims.apart other worker own row member claimed ?_⟩
      rw [holds]
      exact List.mem_cons_self
  have released : Exclusive key Free rows (Function.update held worker rest) :=
    claims.release (by rw [holds]; exact List.sublist_cons_self _ _)
  refine ⟨?_, ?_, released.apart, released.once⟩
  · rw [updateWhere_map key fun row _ _ => sameKey row]
    exact claims.keys
  · intro other row member
    obtain ⟨claimedBefore, differ⟩ := kept other row member
    obtain ⟨inRows, free⟩ := claims.current other row claimedBefore
    exact ⟨mem_updateWhere.mpr (.inr ⟨inRows, decide_eq_false differ⟩), free⟩

end Update

end Claims
