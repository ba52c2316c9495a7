/-
**The first of the best, and what the order of arrival can bring to the front.**

A computation over a list of arrivals often keeps one of them: the first that a test accepts, or the
first of the highest rank. Which one it keeps depends on the order.

* `stronger`, `best`: the first of the items of the highest rank, as a sum over the list;
* `foldl_best`, `head_mergeSort`: the loop that replaces its best item and the head of a stable sort;
* `Reaches`: what a computation returns on some order of the items;
* `reaches_both`: two computations that read different items are ordered independently;
* `Pick`: a computation that keeps an item or raises, with what some order makes it keep;
* `loopPick`, `Pick.andThen`: the best report of a loop, and a pick behind a pick of other items.
-/

import CosMonitor.Foundation.Result
import Mathlib.Data.Bool.Basic
import Mathlib.Data.List.Perm.Basic
import Mathlib.Order.Lattice

namespace Arrivals

variable {Item Rank Out Other : Type}

/-! ### The first of the best -/

section Best

variable [LinearOrder Rank] {rank : Item → Rank} {items front back : List Item} {item other : Item}

/-- The better one of two items; of two equal ones the first. -/
def stronger (rank : Item → Rank) : Option Item → Option Item → Option Item
  | none, second => second
  | some first, none => some first
  | some first, some second => if rank first < rank second then some second else some first

/-- The first of the items of the highest rank. -/
def best (rank : Item → Rank) : List Item → Option Item
  | [] => none
  | item :: rest => stronger rank (some item) (best rank rest)

@[simp] theorem stronger_none (first : Option Item) : stronger rank first none = first := by
  cases first <;> rfl

theorem stronger_assoc (first second third : Option Item) :
    stronger rank (stronger rank first second) third =
      stronger rank first (stronger rank second third) := by
  rcases first with - | first
  · rfl
  rcases second with - | second
  · rfl
  rcases third with - | third
  · simp
  by_cases low : rank first < rank second
  · by_cases high : rank second < rank third
    · simp [stronger, low, high, low.trans high]
    · simp [stronger, low, high]
  · by_cases high : rank second < rank third
    · simp [stronger, low, high]
    · have neither : ¬ rank first < rank third := fun less =>
        high ((not_lt.mp low).trans_lt less)
      simp [stronger, low, high, neither]

theorem best_append : best rank (front ++ back) = stronger rank (best rank front) (best rank back) := by
  induction front with
  | nil => rfl
  | cons item rest ih => rw [List.cons_append, best, ih, best, stronger_assoc]

theorem best_eq_none : best rank items = none ↔ items = [] := by
  cases items with
  | nil => simp [best]
  | cons item rest =>
      rcases found : best rank rest with - | other
      · simp [best, found]
      · rw [best, found]
        by_cases less : rank item < rank other
        · simp [stronger, less]
        · simp [stronger, less]

theorem stronger_spec {first second : Option Item} (found : stronger rank first second = some item) :
    (first = some item ∨ second = some item) ∧ (∀ other ∈ first, rank other ≤ rank item) ∧
      ∀ other ∈ second, rank other ≤ rank item := by
  rcases first with - | first
  · cases found
    simp
  rcases second with - | second
  · cases found
    simp
  by_cases less : rank first < rank second
  · simp only [stronger, less, if_true, Option.some.injEq] at found
    subst found
    simp [less.le]
  · simp only [stronger, less, if_false, Option.some.injEq] at found
    subst found
    simp [not_lt.mp less]

theorem best_spec (found : best rank items = some item) :
    item ∈ items ∧ ∀ other ∈ items, rank other ≤ rank item := by
  induction items generalizing item with
  | nil => cases found
  | cons first rest ih =>
      obtain ⟨isOne, notFirst, notRest⟩ := stronger_spec found
      refine ⟨?_, fun other member => ?_⟩
      · rcases isOne with isFirst | isRest
        · exact List.mem_cons.mpr (.inl (Option.some.inj isFirst).symm)
        · exact List.mem_cons_of_mem _ (ih isRest).1
      · rcases List.mem_cons.mp member with rfl | later
        · exact notFirst other rfl
        · rcases isBest : best rank rest with - | top
          · rw [best_eq_none.mp isBest] at later
            cases later
          · exact ((ih isBest).2 other later).trans (notRest top isBest)

theorem best_cons_eq_some (top : ∀ other ∈ items, rank other ≤ rank item) :
    best rank (item :: items) = some item := by
  rw [best]
  rcases found : best rank items with - | other
  · rfl
  · have notBetter : ¬ rank item < rank other := not_lt.mpr (top other (best_spec found).1)
    simp [stronger, notBetter]

theorem best_raised {raised : Item → Item → Prop} (grows : ∀ item other, raised item other →
    rank item ≤ rank other) {others : List Item}
    (related : List.Forall₂ (fun item other => other = item ∨ raised item other) items others) :
    (best rank items = none → best rank others = none) ∧ ∀ item, best rank items = some item →
      ∃ other, best rank others = some other ∧ rank item ≤ rank other ∧
        (other = item ∨ ∃ before, raised before other) := by
  induction related with
  | nil =>
      refine ⟨fun _ => rfl, ?_⟩
      rintro item ⟨⟩
  | @cons head head' rest rest' change _ ih =>
      refine ⟨fun none => absurd (best_eq_none.mp none) (List.cons_ne_nil _ _), fun item found => ?_⟩
      have headLe : rank head ≤ rank head' := by
        rcases change with rfl | isRaised
        · exact le_rfl
        · exact grows _ _ isRaised
      have headIs : head' = head ∨ ∃ before, raised before head' := change.imp_right fun r => ⟨_, r⟩
      rw [best] at found ⊢
      rcases top : best rank rest with - | tail
      · rw [top, stronger_none] at found
        rw [ih.1 top, stronger_none, ← Option.some.inj found]
        exact ⟨head', rfl, headLe, headIs⟩
      · obtain ⟨tail', top', tailLe, tailIs⟩ := ih.2 tail top
        rw [top] at found
        rw [top']
        by_cases less : rank head < rank tail
        · simp only [stronger, less, if_true, Option.some.injEq] at found
          subst found
          by_cases less' : rank head' < rank tail'
          · exact ⟨tail', by simp [stronger, less'], tailLe, tailIs⟩
          · refine ⟨head', by simp [stronger, less'], tailLe.trans (not_lt.mp less'), ?_⟩
            rcases headIs with rfl | isRaised
            · exact absurd (less.trans_le tailLe) less'
            · exact .inr isRaised
        · simp only [stronger, less, if_false, Option.some.injEq] at found
          subst found
          by_cases less' : rank head' < rank tail'
          · refine ⟨tail', by simp [stronger, less'], headLe.trans less'.le, ?_⟩
            rcases tailIs with rfl | isRaised
            · exact absurd (headLe.trans_lt less') less
            · exact .inr isRaised
          · exact ⟨head', by simp [stronger, less'], headLe, headIs⟩

theorem best_const (items : List Item) : best (fun _ => ()) items = items.head? := by
  cases items with
  | nil => rfl
  | cons item rest => exact best_cons_eq_some fun _ _ => le_rfl

theorem best_test (test : Item → Bool) (items : List Item) :
    best test items = (items.find? test).or items.head? := by
  induction items with
  | nil => rfl
  | cons item rest ih =>
      rw [best, ih]
      by_cases passed : test item = true
      · rcases (rest.find? test).or rest.head? with - | other
        · simp [stronger, passed]
        · simp [stronger, passed, not_lt.mpr (Bool.le_true _)]
      · rcases found : rest.find? test with - | other
        · rcases rest with - | ⟨next, rest⟩
          · simp [passed]
          · have refused : test next = false := by
              simpa using List.find?_eq_none.mp found next List.mem_cons_self
            simp [stronger, passed, found, refused]
        · have isOther : test other = true := List.find?_some found
          simp [stronger, passed, found, isOther]

theorem foldl_best (item : Item) (rest : List Item) :
    some (rest.foldl (fun kept other => if rank kept < rank other then other else kept) item) =
      best rank (item :: rest) := by
  induction rest generalizing item with
  | nil => rfl
  | cons other others ih =>
      rw [List.foldl_cons, ih, best, best, best, ← stronger_assoc]
      by_cases less : rank item < rank other
      · simp [stronger, less]
      · simp [stronger, less]

theorem head_mergeSort (items : List Item) :
    (items.mergeSort fun first second => decide (rank second ≤ rank first)).head? =
      best rank items := by
  induction items with
  | nil => simp [best]
  | cons item rest ih =>
      have trans : ∀ first second third : Item, decide (rank second ≤ rank first) = true →
          decide (rank third ≤ rank second) = true → decide (rank third ≤ rank first) = true :=
        fun first second third low high =>
          decide_eq_true ((of_decide_eq_true high).trans (of_decide_eq_true low))
      have total : ∀ first second : Item,
          (decide (rank second ≤ rank first) || decide (rank first ≤ rank second)) = true :=
        fun first second => by simpa using le_total (rank second) (rank first)
      obtain ⟨before, after, sorted, others, above⟩ := List.mergeSort_cons trans total item rest
      rw [sorted, best, ← ih, others]
      rcases before with - | ⟨top, before⟩
      · -- Nothing stands before the item, so that none of the rest is better.
        rcases after with - | ⟨next, after⟩
        · rfl
        · have order := List.pairwise_mergeSort trans total (item :: rest)
          rw [sorted] at order
          have notBetter : rank next ≤ rank item :=
            of_decide_eq_true ((List.pairwise_cons.mp order).1 next List.mem_cons_self)
          simp [stronger, not_lt.mpr notBetter]
      · have better : rank item < rank top := by
          have refused := above top List.mem_cons_self
          simpa using refused
        simp [stronger, better]

end Best

/-! ### Orders of arrival -/

section Orders

variable {items : List Item}

/-- What a computation returns on some order of the items. -/
def Reaches (run : List Item → Out) (items : List Item) (out : Out) : Prop :=
  ∃ order, order.Perm items ∧ run order = out

/-- A computation reads only the items that a test accepts. -/
def Reads (accepts : Item → Bool) (run : List Item → Out) : Prop :=
  ∀ items, run (items.filter accepts) = run items

theorem reorder {accepts : Item → Bool} {order : List Item}
    (perm : order.Perm (items.filter accepts)) :
    ∃ whole : List Item, whole.Perm items ∧ whole.filter accepts = order ∧
      ∀ other : Item → Bool, (∀ item, other item = true → accepts item = false) →
        whole.filter other = items.filter other := by
  have accepted : ∀ item ∈ order, accepts item = true := fun item member =>
    (List.mem_filter.mp (perm.mem_iff.mp member)).2
  refine ⟨order ++ items.filter fun item => !accepts item, ?_, ?_, ?_⟩
  · exact (perm.append_right _).trans (List.filter_append_perm _ items)
  · rw [List.filter_append, List.filter_eq_self.mpr accepted, List.filter_filter]
    simp
  · intro other apart
    have none : order.filter other = [] := List.filter_eq_nil_iff.mpr fun item member is =>
      Bool.false_ne_true ((apart item is).symm.trans (accepted item member))
    rw [List.filter_append, none, List.filter_filter, List.nil_append]
    refine List.filter_congr fun item _ => ?_
    by_cases is : other item = true
    · simp [is, apart item is]
    · simp [is]

/-- **Computations that read different items** reach their results together when each reaches its own. -/
theorem reaches_both {first : List Item → Out} {second : List Item → Other}
    {accepts other : Item → Bool} (readsFirst : Reads accepts first) (readsSecond : Reads other second)
    (apart : ∀ item, other item = true → accepts item = false) {out : Out} {result : Other} :
    Reaches (fun items => (first items, second items)) items (out, result) ↔
      Reaches first items out ∧ Reaches second items result := by
  constructor
  · rintro ⟨order, perm, same⟩
    obtain ⟨rfl, rfl⟩ := Prod.mk.inj same
    exact ⟨⟨order, perm, rfl⟩, ⟨order, perm, rfl⟩⟩
  · rintro ⟨⟨order, perm, rfl⟩, ⟨order', perm', rfl⟩⟩
    -- The second order for the items that the second computation reads, and then the first one.
    obtain ⟨middle, permMiddle, isSecond, _⟩ := reorder (perm'.filter other)
    obtain ⟨whole, permWhole, isFirst, kept⟩ :=
      reorder ((perm.trans permMiddle.symm).filter accepts)
    refine ⟨whole, permWhole.trans permMiddle, ?_⟩
    dsimp only
    rw [← readsFirst whole, isFirst, readsFirst, ← readsSecond whole, kept other apart, isSecond,
      readsSecond]

theorem perm_front {item : Item} (member : item ∈ items) :
    ∃ rest, (item :: rest).Perm items := by
  obtain ⟨front, back, rfl⟩ := List.append_of_mem member
  exact ⟨front ++ back, List.perm_middle.symm⟩

end Orders

/-! ### Picks -/

/-- A computation that keeps at most one result or raises, with what some order of the items makes it
keep, and the items that some order makes it raise on. -/
structure Pick (Item Out : Type) where
  run : List Item → Option (Option Out)
  reads : Item → Bool
  run_reads : Reads reads run
  Fails : List Item → Prop
  Leads : List Item → Option Out → Prop
  reaches : ∀ items out, Reaches run items out ↔
    (out = none ∧ Fails items) ∨ ∃ leading, out = some leading ∧ Leads items leading

section Loops

variable {Failure : Type} [LinearOrder Rank]

/-- What leads in some order of a loop: nothing, or a report that none is better than. -/
def LoopLeads (report : Item → Except Failure (Option Out)) (rank : Out → Rank) (items : List Item) :
    Option Out → Prop
  | none => ∀ item ∈ items, report item = .ok none
  | some out => (∀ item ∈ items, ∃ found, report item = .ok found) ∧
      ∃ item ∈ items, report item = .ok (some out) ∧
        ∀ other ∈ items, ∀ found, report other = .ok (some found) → rank found ≤ rank out

variable {report : Item → Except Failure (Option Out)} {rank : Out → Rank} {items order : List Item}

theorem loop_run_cases (report : Item → Except Failure (Option Out)) (rank : Out → Rank)
    (perm : order.Perm items) :
    ((Result.gather report order).toOption.map (best rank) = none ∧
        ∃ item ∈ items, ∃ failure, report item = .error failure) ∨
      ∃ leading, (Result.gather report order).toOption.map (best rank) = some leading ∧
        LoopLeads report rank items leading := by
  rcases gathered : Result.gather report order with failure | outs
  · refine .inl ⟨rfl, ?_⟩
    by_contra returned
    have reads : ∀ item ∈ order, ∃ found, report item = .ok found := by
      intro item member
      rcases reported : report item with failed | found
      · exact absurd ⟨item, perm.mem_iff.mp member, failed, reported⟩ returned
      · exact ⟨found, rfl⟩
    have ran := Result.gather_eq_ok.mpr ⟨reads, rfl⟩
    rw [gathered] at ran
    cases ran
  · obtain ⟨reads, content⟩ := Result.gather_eq_ok.mp gathered
    refine .inr ⟨best rank outs, rfl, ?_⟩
    rcases top : best rank outs with - | out
    · intro item member
      obtain ⟨found, reported⟩ := reads item (perm.mem_iff.mpr member)
      rcases found with - | found
      · exact reported
      · have inOuts := (Result.mem_gather gathered).mpr ⟨item, perm.mem_iff.mpr member, reported⟩
        rw [best_eq_none.mp top] at inOuts
        cases inOuts
    · obtain ⟨inOuts, above⟩ := best_spec top
      obtain ⟨item, member, reported⟩ := (Result.mem_gather gathered).mp inOuts
      refine ⟨fun other otherIn => reads other (perm.mem_iff.mpr otherIn), item,
        perm.mem_iff.mp member, reported, fun other otherIn found isReport => ?_⟩
      exact above found ((Result.mem_gather gathered).mpr ⟨other, perm.mem_iff.mpr otherIn, isReport⟩)

theorem LoopLeads.reaches {leading : Option Out} (leads : LoopLeads report rank items leading) :
    Reaches (fun order => (Result.gather report order).toOption.map (best rank)) items
      (some leading) := by
  rcases leading with - | out
  · refine ⟨items, List.Perm.refl _, ?_⟩
    rcases loop_run_cases report rank (List.Perm.refl items) with
      ⟨_, item, member, failure, failed⟩ | ⟨found, ran, isLead⟩
    · rw [leads item member] at failed
      cases failed
    · rcases found with - | out
      · exact ran
      · obtain ⟨_, item, member, reported, _⟩ := isLead
        rw [leads item member] at reported
        cases reported
  · obtain ⟨reads, item, member, reported, top⟩ := leads
    obtain ⟨rest, perm⟩ := perm_front member
    refine ⟨item :: rest, perm, ?_⟩
    have gathered : Result.gather report (item :: rest) =
        .ok (out :: rest.filterMap fun other => (report other).toOption.join) := by
      refine Result.gather_eq_ok.mpr ⟨fun other otherIn => reads other (perm.mem_iff.mp otherIn), ?_⟩
      rw [List.filterMap_cons, reported]
      rfl
    dsimp only
    rw [gathered]
    refine congrArg some (best_cons_eq_some fun found later => ?_)
    obtain ⟨other, otherIn, isReport⟩ := List.mem_filterMap.mp later
    exact top other (perm.mem_iff.mp (List.mem_cons_of_mem _ otherIn)) found
      (Result.toOption_join isReport)

/-- The best report of a loop that reads some of the items. -/
def loopPick (report : Item → Except Failure (Option Out)) (rank : Out → Rank) (reads : Item → Bool)
    (silent : ∀ item, reads item = false → report item = .ok none) : Pick Item Out where
  run order := (Result.gather report order).toOption.map (best rank)
  reads := reads
  run_reads items := by
    dsimp only
    rw [Result.gather_filter silent]
  Fails items := ∃ item ∈ items, ∃ failure, report item = .error failure
  Leads := LoopLeads report rank
  reaches items out := by
    constructor
    · rintro ⟨order, perm, rfl⟩
      rcases loop_run_cases report rank perm with ⟨raised, failed⟩ | isLead
      · exact .inl ⟨raised, failed⟩
      · exact .inr isLead
    · rintro (⟨rfl, failed⟩ | ⟨leading, rfl, leads⟩)
      · refine ⟨items, List.Perm.refl _, ?_⟩
        obtain ⟨item, member, failure, failed⟩ := failed
        dsimp only
        rcases gathered : Result.gather report items with error | outs
        · rfl
        · obtain ⟨found, reported⟩ := (Result.gather_eq_ok.mp gathered).1 item member
          rw [failed] at reported
          cases reported
      · exact leads.reaches

/-- The best of the items that a test accepts. -/
def Pick.among (accepts : Item → Bool) (rank : Item → Rank) : Pick Item Item :=
  loopPick (fun item => (.ok (if accepts item then some item else none) : Except Unit (Option Item)))
    rank accepts fun item refused => by simp [refused]

section Among

variable {accepts : Item → Bool} {rank : Item → Rank} {item : Item}

theorem Pick.among_run (items : List Item) :
    (Pick.among accepts rank).run items = some (best rank (items.filter accepts)) := by
  have gathered : Result.gather (fun item =>
      (.ok (if accepts item then some item else none) : Except Unit (Option Item))) items =
        .ok (items.filter accepts) := by
    refine Result.gather_eq_ok.mpr ⟨fun item _ => ⟨_, rfl⟩, ?_⟩
    induction items with
    | nil => rfl
    | cons item rest ih =>
        by_cases accepted : accepts item = true
        · simpa [accepted, Except.toOption] using ih
        · simpa [accepted, Except.toOption] using ih
  show (Result.gather _ items).toOption.map (best rank) = _
  rw [gathered]
  rfl

theorem Pick.among_leads_some : (Pick.among accepts rank).Leads items (some item) ↔
    item ∈ items ∧ accepts item = true ∧
      ∀ other ∈ items, accepts other = true → rank other ≤ rank item := by
  have reported : ∀ other found : Item,
      ((.ok (if accepts other then some other else none) : Except Unit (Option Item)) =
        .ok (some found)) ↔ accepts other = true ∧ other = found := by
    intro other found
    by_cases accepted : accepts other = true
    · simp [accepted]
    · simp [accepted]
  constructor
  · rintro ⟨_, other, member, isReport, top⟩
    obtain ⟨accepted, rfl⟩ := (reported other item).mp isReport
    exact ⟨member, accepted, fun another otherIn isAccepted =>
      top another otherIn another ((reported another another).mpr ⟨isAccepted, rfl⟩)⟩
  · rintro ⟨member, accepted, top⟩
    refine ⟨fun other _ => ⟨_, rfl⟩, item, member, (reported item item).mpr ⟨accepted, rfl⟩, ?_⟩
    intro other otherIn found isReport
    obtain ⟨isAccepted, rfl⟩ := (reported other found).mp isReport
    exact top other otherIn isAccepted

end Among

end Loops

namespace Pick

variable {First Second : Type}

theorem run_cases (pick : Pick Item Out) {items order : List Item} (perm : order.Perm items) :
    (pick.run order = none ∧ pick.Fails items) ∨
      ∃ leading, pick.run order = some leading ∧ pick.Leads items leading :=
  (pick.reaches items _).mp ⟨order, perm, rfl⟩

/-- A pick behind a pick of other items, which it may depend on. Both run in any case, and a result that
one of them lacks is lacking. -/
def andThen (first : Pick Item First) (second : Option First → Pick Item Second)
    (sameReads : ∀ kept, (second kept).reads = (second none).reads)
    (apart : ∀ item, (second none).reads item = true → first.reads item = false) :
    Pick Item (First × Second) where
  run order := (first.run order).bind fun kept =>
    ((second kept).run order).map fun next => kept.bind fun one => next.map fun other => (one, other)
  reads item := first.reads item || (second none).reads item
  run_reads items := by
    have left : (items.filter fun item => first.reads item || (second none).reads item).filter
        first.reads = items.filter first.reads := by
      rw [List.filter_filter]
      exact List.filter_congr fun item _ => by cases first.reads item <;> simp
    have right : ∀ kept, (items.filter fun item => first.reads item || (second none).reads item).filter
        (second kept).reads = items.filter (second kept).reads := by
      intro kept
      rw [List.filter_filter, sameReads kept]
      exact List.filter_congr fun item _ => by cases (second none).reads item <;> simp
    have same : first.run (items.filter fun item => first.reads item || (second none).reads item) =
        first.run items := by
      rw [← first.run_reads, left, first.run_reads]
    have sameNext : ∀ kept, (second kept).run
        (items.filter fun item => first.reads item || (second none).reads item) =
          (second kept).run items := by
      intro kept
      rw [← (second kept).run_reads, right, (second kept).run_reads]
    dsimp only
    rw [same]
    simp only [sameNext]
  Fails items := first.Fails items ∨ ∃ kept, first.Leads items kept ∧ (second kept).Fails items
  Leads items
    | none => (first.Leads items none ∧ ∃ next, (second none).Leads items next) ∨
        ∃ one, first.Leads items (some one) ∧ (second (some one)).Leads items none
    | some (one, other) => first.Leads items (some one) ∧ (second (some one)).Leads items (some other)
  reaches items out := by
    -- A result of the first pick and one of the second are reached together.
    have together : ∀ kept found next, Reaches first.run items found →
        Reaches (second kept).run items next →
          ∃ order : List Item, order.Perm items ∧ first.run order = found ∧
            (second kept).run order = next := by
      intro kept found next reachesFirst reachesSecond
      obtain ⟨order, perm, same⟩ := (reaches_both first.run_reads (second kept).run_reads
        (fun item isRead => apart item (sameReads kept ▸ isRead))).mpr ⟨reachesFirst, reachesSecond⟩
      obtain ⟨isFirst, isSecond⟩ := Prod.mk.inj same
      exact ⟨order, perm, isFirst, isSecond⟩
    have leadsReach : ∀ {Kept : Type} (pick : Pick Item Kept) leading, pick.Leads items leading →
        Reaches pick.run items (some leading) := fun pick leading leads =>
      (pick.reaches items _).mpr (.inr ⟨leading, rfl, leads⟩)
    have failsReach : ∀ {Kept : Type} (pick : Pick Item Kept), pick.Fails items →
        Reaches pick.run items none := fun pick fails =>
      (pick.reaches items _).mpr (.inl ⟨rfl, fails⟩)
    constructor
    · rintro ⟨order, perm, rfl⟩
      dsimp only
      rcases first.run_cases perm with ⟨raised, fails⟩ | ⟨kept, ran, leads⟩
      · rw [raised]
        exact .inl ⟨rfl, .inl fails⟩
      · rw [ran, Option.bind_some]
        rcases (second kept).run_cases perm with ⟨raised, fails⟩ | ⟨next, ranNext, leadsNext⟩
        · rw [raised]
          exact .inl ⟨rfl, .inr ⟨kept, leads, fails⟩⟩
        · rw [ranNext, Option.map_some]
          refine .inr ⟨_, rfl, ?_⟩
          rcases kept with - | one
          · exact .inl ⟨leads, next, leadsNext⟩
          · rcases next with - | other
            · exact .inr ⟨one, leads, leadsNext⟩
            · exact ⟨leads, leadsNext⟩
    · rintro (⟨rfl, fails | ⟨kept, leads, fails⟩⟩ | ⟨leading, rfl, leads⟩)
      · obtain ⟨order, perm, raised⟩ := failsReach first fails
        refine ⟨order, perm, ?_⟩
        dsimp only
        rw [raised]
        rfl
      · obtain ⟨order, perm, ran, raised⟩ :=
          together kept _ _ (leadsReach first kept leads) (failsReach _ fails)
        refine ⟨order, perm, ?_⟩
        dsimp only
        rw [ran, Option.bind_some, raised]
        rfl
      · have reached : ∀ kept next, first.Leads items kept → (second kept).Leads items next →
            Reaches (fun order => (first.run order).bind fun kept => ((second kept).run order).map
              fun next => kept.bind fun one => next.map fun other => (one, other)) items
                (some (kept.bind fun one => next.map fun other => (one, other))) := by
          intro kept next leadsFirst leadsSecond
          obtain ⟨order, perm, ran, ranNext⟩ :=
            together kept _ _ (leadsReach first kept leadsFirst) (leadsReach _ next leadsSecond)
          refine ⟨order, perm, ?_⟩
          dsimp only
          rw [ran, Option.bind_some, ranNext]
          rfl
        rcases leading with - | ⟨one, other⟩
        · rcases leads with ⟨leadsFirst, next, leadsNext⟩ | ⟨one, leadsFirst, leadsNext⟩
          · exact reached none next leadsFirst leadsNext
          · exact reached (some one) none leadsFirst leadsNext
        · exact reached (some one) (some other) leads.1 leads.2

theorem andThen_run (first : Pick Item First) (second : Option First → Pick Item Second)
    (sameReads : ∀ kept, (second kept).reads = (second none).reads)
    (apart : ∀ item, (second none).reads item = true → first.reads item = false) (items : List Item) :
    (first.andThen second sameReads apart).run items = (first.run items).bind fun kept =>
      ((second kept).run items).map fun next => kept.bind fun one => next.map fun other => (one, other) :=
  rfl

end Pick

end Arrivals
