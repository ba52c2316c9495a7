/-
**Gauges — what a capacity rule reads of a group, and which reading leads in some order of arrival.**

The memory, the disks, the repositories and the datastores are read in one way: what single observations
report, and behind it what the pairs of free and total readings make.

* `rank`: the order of the floats that are numbers, with `pyMax_eq_best` and `head_pySorted`;
* `Gauge`: the observations that report directly, the pairs and what their percentages are taken for;
* `Gauge.Leads`, `Gauge.Fails`: the readings that some order of arrival puts first, and the groups that
  raise in some order, both said without an order;
* `Gauge.reaches_lead`: that they are exactly these.
-/

import CosMonitor.Collector.ResourcePairs
import CosMonitor.Foundation.Arrivals
import Mathlib.Order.WithBot

namespace CosMonitor

open Arrivals (best Reaches Reads)

/-! ### The order of the numbers -/

namespace PyFloat

/-- Where a float stands among the numbers; `nan` is none. -/
def rank : PyFloat → WithBot (WithTop ℚ)
  | finite value => ((value : WithTop ℚ) : WithBot (WithTop ℚ))
  | infinite true => ⊥
  | infinite false => ((⊤ : WithTop ℚ) : WithBot (WithTop ℚ))
  | nan => ⊥

theorem lt_eq_rank {first second : PyFloat} (isFirst : first ≠ nan) (isSecond : second ≠ nan) :
    first.lt second = decide (first.rank < second.rank) := by
  rcases first with value | (_ | _) | _
  · rcases second with other | (_ | _) | _
    · simp [lt, rank]
    · exact (decide_eq_true (WithBot.coe_lt_coe.mpr (WithTop.coe_lt_top value))).symm
    · simp [lt, rank]
    · exact absurd rfl isSecond
  · rcases second with other | (_ | _) | _
    · simp [lt, rank]
    · simp [lt, rank]
    · simp [lt, rank]
    · exact absurd rfl isSecond
  · rcases second with other | (_ | _) | _
    · simp [lt, rank]
    · simp [lt, rank]
    · simp [lt, rank]
    · exact absurd rfl isSecond
  · exact absurd rfl isFirst

end PyFloat

section Orders

variable {Item : Type} {key : Item → PyFloat}

theorem pyMax_eq_best {item : Item} {rest : List Item}
    (numbers : ∀ other ∈ item :: rest, key other ≠ .nan) :
    some (pyMax key item rest) = best (fun other => (key other).rank) (item :: rest) := by
  rw [← Arrivals.foldl_best]
  unfold pyMax
  refine congrArg some ?_
  induction rest generalizing item with
  | nil => rfl
  | cons other others ih =>
      have isOther := numbers other (List.mem_cons_of_mem _ List.mem_cons_self)
      have later : ∀ kept, key kept ≠ .nan → ∀ found ∈ kept :: others, key found ≠ .nan := by
        intro kept isKept found member
        rcases List.mem_cons.mp member with rfl | inOthers
        · exact isKept
        · exact numbers found (List.mem_cons_of_mem _ (List.mem_cons_of_mem _ inOthers))
      rw [List.foldl_cons, List.foldl_cons, PyFloat.lt_eq_rank (numbers item List.mem_cons_self) isOther]
      simp only [decide_eq_true_eq]
      split
      · exact ih (later other isOther)
      · exact ih (later item (numbers item List.mem_cons_self))

theorem head_pySorted {items : List Item} (numbers : ∀ item ∈ items, key item ≠ .nan) :
    (pySorted key items).head? = best (fun item => OrderDual.toDual (key item).rank) items := by
  rw [← Arrivals.head_mergeSort]
  unfold pySorted
  let below : Item → Item → Bool := fun first second =>
    decide (OrderDual.toDual (key second).rank ≤ OrderDual.toDual (key first).rank)
  have agree : ∀ first ∈ items, ∀ second ∈ items,
      (!(key second).lt (key first)) = below (id first) (id second) := by
    intro first firstIn second secondIn
    rw [PyFloat.lt_eq_rank (numbers second secondIn) (numbers first firstIn), ← decide_not]
    exact decide_eq_decide.mpr (not_lt.trans OrderDual.toDual_le_toDual.symm)
  have sorted : (items.mergeSort fun first second => !(key second).lt (key first)).map id =
      (items.map id).mergeSort below := List.map_mergeSort agree
  rw [List.map_id, List.map_id] at sorted
  rw [sorted]

end Orders

/-! ### What a rule reads of a group -/

/-- What a capacity rule measures: the observations that report it on their own, the pairs of free and
total readings, and the usage that a percentage of free is taken for. -/
structure Gauge where
  factType : String
  freeType : String
  totalType : String
  report : Observation → Except PyError (Option Reading)
  usage : PyFloat → PyFloat
  directFree : factType ≠ freeType
  directTotal : factType ≠ totalType
  freeTotal : freeType ≠ totalType
  silent : ∀ observation, observation.factType ≠ factType → report observation = .ok none

namespace Gauge

variable (gauge : Gauge) (group : List Observation)

/-- The readings of a group, in the order in which the rule looks at them. -/
def readings : Except PyError (List Reading) := do
  let direct ← collectReadings gauge.report group
  let pairs ← pairUsage gauge.freeType gauge.totalType group
  return direct ++ pairs.map fun reading => { reading with value := gauge.usage reading.value }

/-- Two readings of one resource. -/
structure Parts (key : PairKey) (free total : Observation) : Prop where
  free_mem : free ∈ group
  total_mem : total ∈ group
  free_type : free.factType = gauge.freeType
  total_type : total.factType = gauge.totalType
  free_key : pairKey free = .ok key
  total_key : pairKey total = .ok key

/-- The reading of a pair. -/
def pairReading (free total : Observation) : Except PyError (Option Reading) :=
  (percentFree { free := some free, total := some total }).map
    (Option.map fun reading => { reading with value := gauge.usage reading.value })

/-- What can be read of a group in some order. -/
inductive Candidate : Reading → Prop
  | direct {observation : Observation} {reading : Reading} (member : observation ∈ group)
      (reported : gauge.report observation = .ok (some reading)) : Candidate reading
  | pair {key : PairKey} {free total : Observation} {reading : Reading}
      (parts : gauge.Parts group key free total)
      (made : gauge.pairReading free total = .ok (some reading)) : Candidate reading

/-- Every observation can be read. -/
structure Readable : Prop where
  reports : ∀ observation ∈ group, ∃ found, gauge.report observation = .ok found
  named : ∀ observation ∈ group,
    observation.factType = gauge.freeType ∨ observation.factType = gauge.totalType →
      ∃ key, pairKey observation = .ok key

/-- The group raises in some order. -/
def Fails : Prop :=
  ¬ gauge.Readable group ∨ ∃ key free total failure, gauge.Parts group key free total ∧
    gauge.pairReading free total = .error failure

/-- In some order the resource makes only what is allowed: it has no pair, or one that does. -/
def Spares (allows : Reading → Prop) (key : PairKey) : Prop :=
  ∀ free total, gauge.Parts group key free total → ∃ free total made,
    gauge.Parts group key free total ∧ gauge.pairReading free total = .ok made ∧
      ∀ reading ∈ made, allows reading

section Rank

variable {Rank : Type} [LinearOrder Rank] (strength : PyFloat → Rank)

/-- The reading that leads in some order: none, one that an observation reports, or a pair, which comes
behind all that is reported. -/
inductive Leads : Option Reading → Prop
  | nothing (readable : gauge.Readable group)
      (silent : ∀ observation ∈ group, gauge.report observation = .ok none)
      (spares : ∀ key, gauge.Spares group (fun _ => False) key) : Leads none
  | direct {observation : Observation} {reading : Reading} (readable : gauge.Readable group)
      (member : observation ∈ group) (reported : gauge.report observation = .ok (some reading))
      (top : ∀ other ∈ group, ∀ found, gauge.report other = .ok (some found) →
        strength found.value ≤ strength reading.value)
      (spares : ∀ key, gauge.Spares group
        (fun found => strength found.value ≤ strength reading.value) key) : Leads (some reading)
  | pair {key : PairKey} {free total : Observation} {reading : Reading}
      (readable : gauge.Readable group) (parts : gauge.Parts group key free total)
      (made : gauge.pairReading free total = .ok (some reading))
      (top : ∀ other ∈ group, ∀ found, gauge.report other = .ok (some found) →
        strength found.value < strength reading.value)
      (spares : ∀ other, other ≠ key → gauge.Spares group
        (fun found => strength found.value ≤ strength reading.value) other) : Leads (some reading)

/-- The reading that the rule looks at. -/
def lead : Option (Option Reading) :=
  (gauge.readings group).toOption.map (best fun reading => strength reading.value)

end Rank

/-! ### The readings of one order -/

variable {gauge group} {found pairs : List Reading} {key : PairKey} {free total : Observation}
  {reading : Reading} {order : List Observation}

theorem readings_eq_ok : gauge.readings group = .ok found ↔
    ∃ direct pairs, collectReadings gauge.report group = .ok direct ∧
      pairUsage gauge.freeType gauge.totalType group = .ok pairs ∧
      found = direct ++ pairs.map fun reading =>
        { reading with value := gauge.usage reading.value } := by
  unfold readings
  constructor
  · intro read
    obtain ⟨direct, collected, read⟩ := Result.bind_eq_ok.mp read
    obtain ⟨pairs, paired, same⟩ := Result.bind_eq_ok.mp read
    exact ⟨direct, pairs, collected, paired, (Result.pure_eq_ok.mp same).symm⟩
  · rintro ⟨direct, pairs, collected, paired, rfl⟩
    rw [collected, paired]
    rfl

theorem pairReading_eq_some : gauge.pairReading free total = .ok (some reading) ↔
    ∃ made, percentFree { free := some free, total := some total } = .ok (some made) ∧
      { made with value := gauge.usage made.value } = reading := by
  unfold pairReading
  rcases percentFree { free := some free, total := some total } with failure | _ | made
  · simp [Except.map]
  · simp [Except.map]
  · simp [Except.map]

theorem pairReading_returns : (∃ made, gauge.pairReading free total = .ok made) ↔
    ∃ made, percentFree { free := some free, total := some total } = .ok made := by
  unfold pairReading
  rcases percentFree { free := some free, total := some total } with failure | made
  · simp [Except.map]
  · simp [Except.map]

theorem mem_pairs (paired : pairUsage gauge.freeType gauge.totalType group = .ok pairs) :
    reading ∈ pairs.map (fun reading => { reading with value := gauge.usage reading.value }) ↔
      ∃ free total, (∃ key, lastReading gauge.freeType key group = some free ∧
        lastReading gauge.totalType key group = some total) ∧
        gauge.pairReading free total = .ok (some reading) := by
  rw [List.mem_map]
  constructor
  · rintro ⟨made, member, rfl⟩
    obtain ⟨free, total, last, isMade⟩ := (mem_pairUsage gauge.freeTotal paired).mp member
    exact ⟨free, total, last, pairReading_eq_some.mpr ⟨made, isMade, rfl⟩⟩
  · rintro ⟨free, total, last, isMade⟩
    obtain ⟨made, isPercent, same⟩ := pairReading_eq_some.mp isMade
    exact ⟨made, (mem_pairUsage gauge.freeTotal paired).mpr ⟨free, total, last, isPercent⟩, same⟩

theorem readings_returns : (∃ found, gauge.readings group = .ok found) ↔
    gauge.Readable group ∧ ∀ key free total, lastReading gauge.freeType key group = some free →
      lastReading gauge.totalType key group = some total →
        ∃ made, gauge.pairReading free total = .ok made := by
  simp only [pairReading_returns]
  constructor
  · rintro ⟨found, read⟩
    obtain ⟨direct, pairs, collected, paired, _⟩ := readings_eq_ok.mp read
    obtain ⟨named, computes⟩ := (pairUsage_computes gauge.freeTotal).mp ⟨pairs, paired⟩
    rw [collectReadings_eq_gather] at collected
    exact ⟨⟨(Result.gather_eq_ok.mp collected).1, named⟩, computes⟩
  · rintro ⟨⟨reports, named⟩, computes⟩
    obtain ⟨pairs, paired⟩ := (pairUsage_computes gauge.freeTotal).mpr ⟨named, computes⟩
    have collected : collectReadings gauge.report group =
        .ok (group.filterMap fun observation => (gauge.report observation).toOption.join) := by
      rw [collectReadings_eq_gather]
      exact Result.gather_eq_ok.mpr ⟨reports, rfl⟩
    exact ⟨_, readings_eq_ok.mpr ⟨_, pairs, collected, paired, rfl⟩⟩

theorem parts_of_last (isFree : lastReading gauge.freeType key group = some free)
    (isTotal : lastReading gauge.totalType key group = some total) :
    gauge.Parts group key free total := by
  obtain ⟨freeIn, freeType, freeKey⟩ := lastReading_spec isFree
  obtain ⟨totalIn, totalType, totalKey⟩ := lastReading_spec isTotal
  exact ⟨freeIn, totalIn, freeType, totalType, freeKey, totalKey⟩

theorem Parts.last (parts : gauge.Parts group key free total) :
    ∃ free total, lastReading gauge.freeType key group = some free ∧
      lastReading gauge.totalType key group = some total := by
  have found : ∀ (factType : String) (observation : Observation), observation ∈ group →
      observation.factType = factType → pairKey observation = .ok key →
        ∃ last, lastReading factType key group = some last := by
    intro factType observation member isType isKey
    rcases last : lastReading factType key group with - | other
    · have refused := Lookups.last_eq_none.mp last observation member
      simp [isType, isKey, Except.toOption] at refused
    · exact ⟨other, rfl⟩
  obtain ⟨lastFree, isFree⟩ := found _ free parts.free_mem parts.free_type parts.free_key
  obtain ⟨lastTotal, isTotal⟩ := found _ total parts.total_mem parts.total_type parts.total_key
  exact ⟨lastFree, lastTotal, isFree, isTotal⟩

theorem Parts.perm (parts : gauge.Parts order key free total) (perm : order.Perm group) :
    gauge.Parts group key free total :=
  { parts with
    free_mem := perm.mem_iff.mp parts.free_mem
    total_mem := perm.mem_iff.mp parts.total_mem }

theorem Readable.perm (readable : gauge.Readable order) (perm : order.Perm group) :
    gauge.Readable group :=
  ⟨fun observation member => readable.reports observation (perm.mem_iff.mpr member),
    fun observation member => readable.named observation (perm.mem_iff.mpr member)⟩

/-! ### What leads in one order -/

section Lead

variable {Rank : Type} [LinearOrder Rank] {strength : PyFloat → Rank} {leading : Option Reading}

theorem fails_of_lead (perm : order.Perm group) (raised : gauge.lead order strength = none) :
    gauge.Fails group := by
  by_contra returns
  obtain ⟨readable, computes⟩ := not_or.mp returns
  have readable : gauge.Readable order := (not_not.mp readable).perm perm.symm
  have read : ∃ found, gauge.readings order = .ok found := by
    refine readings_returns.mpr ⟨readable, fun key free total isFree isTotal => ?_⟩
    rcases made : gauge.pairReading free total with failure | found
    · exact absurd ⟨key, free, total, failure, (parts_of_last isFree isTotal).perm perm, made⟩ computes
    · exact ⟨found, rfl⟩
  obtain ⟨found, read⟩ := read
  unfold lead at raised
  rw [read] at raised
  cases raised

/-- What an order puts first leads. -/
theorem leads_of_lead (perm : order.Perm group) (isLead : gauge.lead order strength = some leading) :
    gauge.Leads group strength leading := by
  unfold lead at isLead
  obtain ⟨found, read, isLead⟩ := Option.map_eq_some_iff.mp isLead
  have read := Result.toOption_eq_some read
  obtain ⟨readable, computes⟩ := readings_returns.mp ⟨found, read⟩
  obtain ⟨direct, pairs, collected, paired, rfl⟩ := readings_eq_ok.mp read
  have reported : ∀ {found}, found ∈ direct ↔
      ∃ observation ∈ group, gauge.report observation = .ok (some found) := by
    rw [collectReadings_eq_gather] at collected
    intro found
    rw [Result.mem_gather collected]
    exact exists_congr fun observation => and_congr_left fun _ => perm.mem_iff
  -- A resource with two parts has last readings in the order, and their pair is among those found.
  have spares : ∀ (allows : Reading → Prop) key,
      (∀ free total found, lastReading gauge.freeType key order = some free →
        lastReading gauge.totalType key order = some total →
          gauge.pairReading free total = .ok (some found) → allows found) →
      gauge.Spares group allows key := by
    intro allows key allowed free total parts
    obtain ⟨lastFree, lastTotal, isFree, isTotal⟩ := (parts.perm perm.symm).last
    obtain ⟨made, isMade⟩ := computes key lastFree lastTotal isFree isTotal
    refine ⟨lastFree, lastTotal, made, (parts_of_last isFree isTotal).perm perm, isMade, ?_⟩
    intro found member
    exact allowed _ _ found isFree isTotal (isMade.trans (congrArg _ member))
  have inPairs : ∀ {key free total found}, lastReading gauge.freeType key order = some free →
      lastReading gauge.totalType key order = some total →
        gauge.pairReading free total = .ok (some found) →
          found ∈ pairs.map fun reading => { reading with value := gauge.usage reading.value } :=
    fun isFree isTotal made => (mem_pairs paired).mpr ⟨_, _, ⟨_, isFree, isTotal⟩, made⟩
  rw [Arrivals.best_append] at isLead
  rcases leading with - | reading
  · have empty : direct = [] ∧
        (pairs.map fun reading => { reading with value := gauge.usage reading.value }) = [] := by
      rw [← Arrivals.best_append, Arrivals.best_eq_none] at isLead
      exact List.append_eq_nil_iff.mp isLead
    refine .nothing (readable.perm perm) (fun observation member => ?_) fun key => ?_
    · obtain ⟨found, isReport⟩ := (readable.perm perm).reports observation member
      rcases found with - | found
      · exact isReport
      · have present := reported.mpr ⟨observation, member, isReport⟩
        rw [empty.1] at present
        cases present
    · refine spares _ key fun free total found isFree isTotal made => ?_
      have present := inPairs isFree isTotal made
      rw [empty.2] at present
      cases present
  · obtain ⟨isOne, notDirect, notPair⟩ := Arrivals.stronger_spec isLead
    have belowPairs : ∀ key, gauge.Spares group
        (fun found => strength found.value ≤ strength reading.value) key := by
      refine fun key => spares _ key fun free total found isFree isTotal made => ?_
      rcases top : best (fun reading => strength reading.value)
          (pairs.map fun reading => { reading with value := gauge.usage reading.value }) with - | other
      · have present := inPairs isFree isTotal made
        rw [Arrivals.best_eq_none.mp top] at present
        cases present
      · exact ((Arrivals.best_spec top).2 found (inPairs isFree isTotal made)).trans (notPair other top)
    rcases top : best (fun reading => strength reading.value) direct with - | other
    · -- Nothing is reported, so that a pair leads.
      rw [top] at isLead
      obtain ⟨free, total, ⟨key, isFree, isTotal⟩, made⟩ :=
        (mem_pairs paired).mp (Arrivals.best_spec isLead).1
      refine .pair (readable.perm perm) ((parts_of_last isFree isTotal).perm perm) made ?_
        fun key _ => belowPairs key
      intro observation member found isReport
      have present := reported.mpr ⟨observation, member, isReport⟩
      rw [Arrivals.best_eq_none.mp top] at present
      cases present
    · have atMost := notDirect other top
      rcases atMost.lt_or_eq with below | same
      · -- Everything reported is weaker, so that a pair leads.
        have isPair : best (fun reading => strength reading.value)
            (pairs.map fun reading => { reading with value := gauge.usage reading.value }) =
              some reading := by
          rcases isOne with isDirect | isPair
          · rw [Option.some.inj (top.symm.trans isDirect)] at below
            exact absurd below (lt_irrefl _)
          · exact isPair
        obtain ⟨free, total, ⟨key, isFree, isTotal⟩, made⟩ :=
          (mem_pairs paired).mp (Arrivals.best_spec isPair).1
        refine .pair (readable.perm perm) ((parts_of_last isFree isTotal).perm perm) made ?_
          fun key _ => belowPairs key
        intro observation member found isReport
        exact ((Arrivals.best_spec top).2 found (reported.mpr ⟨observation, member, isReport⟩)).trans_lt
          below
      · -- Something reported is as strong, and stands in front of the pairs.
        have isDirect : other = reading := by
          rw [top] at isLead
          rcases second : best (fun reading => strength reading.value)
              (pairs.map fun reading => { reading with value := gauge.usage reading.value }) with - | pair
          · rw [second] at isLead
            exact Option.some.inj isLead
          · rw [second] at isLead
            have notLess : ¬ strength other.value < strength pair.value := by
              rw [same]
              exact not_lt.mpr (notPair pair second)
            simpa [Arrivals.stronger, notLess] using isLead
        subst isDirect
        obtain ⟨member, above⟩ := Arrivals.best_spec top
        obtain ⟨observation, inGroup, isReport⟩ := reported.mp member
        refine .direct (readable.perm perm) inGroup isReport ?_ belowPairs
        intro other member found isReport
        exact above found (reported.mpr ⟨other, member, isReport⟩)

end Lead

/-! ### Arranging an order -/

/-- The resource that a reading is a part for. -/
def IsPart (gauge : Gauge) (key : PairKey) (observation : Observation) : Prop :=
  (observation.factType = gauge.freeType ∨ observation.factType = gauge.totalType) ∧
    pairKey observation = .ok key

theorem isPart_of_accepted {factType : String} {observation : Observation}
    (isType : factType = gauge.freeType ∨ factType = gauge.totalType)
    (accepted : (observation.factType == factType &&
      (pairKey observation).toOption == some key) = true) : gauge.IsPart key observation := by
  obtain ⟨same, isKey⟩ := (Bool.and_eq_true _ _).mp accepted
  rw [← eq_of_beq same] at isType
  exact ⟨isType, Result.toOption_eq_some (eq_of_beq isKey)⟩

/-- **Any pair of a resource can be its last readings**, for all resources at once, and behind any
observations that hold all of the parts of a resource or none. -/
theorem arrange (front : Observation → Bool)
    (sides : ∀ key, (∀ observation, gauge.IsPart key observation → front observation = true) ∨
      ∀ observation, gauge.IsPart key observation → front observation = false)
    (picked : PairKey → Observation → Observation → Prop)
    (picks : ∀ key free total, gauge.Parts group key free total →
      ∃ free total, gauge.Parts group key free total ∧ picked key free total) :
    ∃ others : List Observation, others.Perm group ∧ ∀ key free total,
      lastReading gauge.freeType key (others.filter front ++ others.filter fun other => !front other) =
        some free →
      lastReading gauge.totalType key (others.filter front ++ others.filter fun other => !front other) =
        some total → picked key free total := by
  classical
  -- One pair for each resource that has both parts.
  have selected : ∀ key, ∃ pick : Option (Observation × Observation),
      (∀ pair ∈ pick, gauge.Parts group key pair.1 pair.2 ∧ picked key pair.1 pair.2) ∧
        (pick = none → ∀ free total, ¬ gauge.Parts group key free total) := by
    intro key
    by_cases paired : ∃ free total, gauge.Parts group key free total
    · obtain ⟨free, total, parts⟩ := paired
      obtain ⟨free, total, parts, isPicked⟩ := picks key free total parts
      refine ⟨some (free, total), ?_, fun none => by cases none⟩
      rintro pair ⟨⟩
      exact ⟨parts, isPicked⟩
    · refine ⟨none, ?_, fun _ free total parts => paired ⟨free, total, parts⟩⟩
      rintro pair ⟨⟩
  choose pick isPick noPick using selected
  let chosen : Observation → Bool := fun observation =>
    decide (∃ key, ∃ pair ∈ pick key, observation = pair.1 ∨ observation = pair.2)
  let others := (group.filter fun other => !chosen other) ++ group.filter chosen
  have perm : others.Perm group :=
    List.perm_append_comm.trans (List.filter_append_perm chosen group)
  have arranged : ∀ (factType : String), factType = gauge.freeType ∨ factType = gauge.totalType →
      ∀ key, lastReading factType key
        (others.filter front ++ others.filter fun other => !front other) =
          lastReading factType key others := by
    intro factType isType key
    refine Lookups.last_partition ?_
    rcases sides key with inFront | behind
    · exact .inl fun observation accepted => inFront observation (isPart_of_accepted isType accepted)
    · exact .inr fun observation accepted => behind observation (isPart_of_accepted isType accepted)
  -- The chosen readings stand last, and no other chosen reading names their resource.
  have lastOf : ∀ (factType : String) key, ∀ pair ∈ pick key, ∀ part, part = pair.1 ∨ part = pair.2 →
      part ∈ group → part.factType = factType → pairKey part = .ok key →
        (∀ other ∈ group, chosen other = true → other.factType = factType →
          pairKey other = .ok key → other = part) → lastReading factType key others = some part := by
    intro factType key pair isPair part isOne member isType isKey only
    have isChosen : chosen part = true := decide_eq_true ⟨key, pair, isPair, isOne⟩
    have last : lastReading factType key (group.filter chosen) = some part := by
      refine Lookups.last_eq_of_forall (List.mem_filter.mpr ⟨member, isChosen⟩) ?_ ?_
      · simp [isType, isKey, Except.toOption]
      · intro other inChosen accepted
        obtain ⟨inGroup, isOther⟩ := List.mem_filter.mp inChosen
        obtain ⟨sameType, sameKey⟩ := (Bool.and_eq_true _ _).mp accepted
        exact only other inGroup isOther (eq_of_beq sameType)
          (Result.toOption_eq_some (eq_of_beq sameKey))
    show Lookups.last _ others = some part
    rw [Lookups.last_append]
    unfold lastReading at last
    rw [last, Option.some_or]
  refine ⟨others, perm, fun key free total isFree isTotal => ?_⟩
  rw [arranged _ (.inl rfl)] at isFree
  rw [arranged _ (.inr rfl)] at isTotal
  have parts := (parts_of_last isFree isTotal).perm perm
  rcases isPair : pick key with - | pair
  · exact absurd parts (noPick key isPair free total)
  · obtain ⟨ofPair, isPicked⟩ := isPick key pair isPair
    have sameKey : ∀ {other : Observation} {named}, pairKey other = .ok named →
        pairKey other = .ok key → named = key := fun isNamed isKey =>
      Except.ok.inj (isNamed.symm.trans isKey)
    have lastFree : lastReading gauge.freeType key others = some pair.1 := by
      refine lastOf _ key pair isPair _ (.inl rfl) ofPair.free_mem ofPair.free_type ofPair.free_key ?_
      intro other _ isChosen isType isKey
      obtain ⟨named, found, isFound, rfl | rfl⟩ := of_decide_eq_true isChosen
      · have isParts := (isPick named found isFound).1
        obtain rfl := sameKey isParts.free_key isKey
        rw [Option.some.inj (isFound.symm.trans isPair)]
      · have isParts := (isPick named found isFound).1
        exact absurd (isType.symm.trans isParts.total_type) gauge.freeTotal
    have lastTotal : lastReading gauge.totalType key others = some pair.2 := by
      refine lastOf _ key pair isPair _ (.inr rfl) ofPair.total_mem ofPair.total_type
        ofPair.total_key ?_
      intro other _ isChosen isType isKey
      obtain ⟨named, found, isFound, rfl | rfl⟩ := of_decide_eq_true isChosen
      · have isParts := (isPick named found isFound).1
        exact absurd (isParts.free_type.symm.trans isType) gauge.freeTotal
      · have isParts := (isPick named found isFound).1
        obtain rfl := sameKey isParts.total_key isKey
        rw [Option.some.inj (isFound.symm.trans isPair)]
    rw [Option.some.inj (isFree.symm.trans lastFree), Option.some.inj (isTotal.symm.trans lastTotal)]
    exact isPicked

theorem collectPairs_first {freeType totalType : String} {pair : UsagePair}
    {rest found : List (PairKey × UsagePair)}
    (collected : collectPairs freeType totalType group ((key, pair) :: rest) = .ok found) :
    ∃ pair rest, found = (key, pair) :: rest := by
  induction group generalizing pair rest with
  | nil =>
      cases collected
      exact ⟨pair, rest, rfl⟩
  | cons observation others ih =>
      have changed : ∀ (named : PairKey) (change : UsagePair → UsagePair),
          ∃ pair' rest', setPair named change ((key, pair) :: rest) = (key, pair') :: rest' := by
        intro named change
        unfold setPair
        split
        · exact ⟨_, _, rfl⟩
        · exact ⟨_, _, rfl⟩
      unfold collectPairs at collected
      split at collected
      · obtain ⟨named, _, collected⟩ := Result.bind_eq_ok.mp collected
        obtain ⟨pair', rest', same⟩ := changed named ({ · with free := some observation })
        rw [same] at collected
        exact ih collected
      · split at collected
        · obtain ⟨named, _, collected⟩ := Result.bind_eq_ok.mp collected
          obtain ⟨pair', rest', same⟩ := changed named ({ · with total := some observation })
          rw [same] at collected
          exact ih collected
        · exact ih collected

theorem pairs_first {first : Observation} {rest : List Observation} (isPart : gauge.IsPart key first)
    (paired : pairUsage gauge.freeType gauge.totalType (first :: rest) = .ok pairs)
    (isFree : lastReading gauge.freeType key (first :: rest) = some free)
    (isTotal : lastReading gauge.totalType key (first :: rest) = some total)
    (made : gauge.pairReading free total = .ok (some reading)) :
    ∃ others, pairs.map (fun reading => { reading with value := gauge.usage reading.value }) =
      reading :: others := by
  obtain ⟨found, collected, computed⟩ := Result.bind_eq_ok.mp paired
  have atFront : ∃ pair others, found = (key, pair) :: others := by
    unfold collectPairs at collected
    rcases isPart.1 with freeType | totalType
    · rw [if_pos freeType, isPart.2, Result.ok_bind] at collected
      exact collectPairs_first collected
    · have notFree : first.factType ≠ gauge.freeType := fun same =>
        gauge.freeTotal (same.symm.trans totalType)
      rw [if_neg notFree, if_pos totalType, isPart.2, Result.ok_bind] at collected
      exact collectPairs_first collected
  obtain ⟨distinct, parts⟩ := collectPairs_eq_ok gauge.freeTotal (by simp) collected
  obtain ⟨pair, others, rfl⟩ := atFront
  have isPair : pair = { free := some free, total := some total } := by
    rw [← partsOf_of_mem distinct List.mem_cons_self, parts, isFree, isTotal]
    rfl
  obtain ⟨percent, isPercent, same⟩ := pairReading_eq_some.mp made
  unfold pairReadings at computed
  rw [isPair, isPercent, Result.ok_bind] at computed
  obtain ⟨remaining, _, appended⟩ := Result.bind_eq_ok.mp computed
  rw [← Result.pure_eq_ok.mp appended]
  exact ⟨_, congrArg (· :: _) same⟩

section Reaches

variable {Rank : Type} [LinearOrder Rank] {strength : PyFloat → Rank} {leading : Option Reading}

theorem Fails.reaches (fails : gauge.Fails group) :
    Reaches (fun order => gauge.lead order strength) group none := by
  have raises : ∀ order, (¬ ∃ found, gauge.readings order = .ok found) →
      gauge.lead order strength = none := by
    intro order notRead
    unfold lead
    rcases read : gauge.readings order with failure | found
    · rfl
    · exact absurd ⟨found, read⟩ notRead
  rcases fails with unreadable | ⟨key, free, total, failure, parts, failed⟩
  · exact ⟨group, List.Perm.refl _, raises _ fun read => unreadable (readings_returns.mp read).1⟩
  · have picks : ∀ other first second, gauge.Parts group other first second →
        ∃ first second, gauge.Parts group other first second ∧
          (other = key → first = free ∧ second = total) := by
      intro other first second isParts
      by_cases same : other = key
      · subst same
        exact ⟨free, total, parts, fun _ => ⟨rfl, rfl⟩⟩
      · exact ⟨first, second, isParts, fun isKey => absurd isKey same⟩
    obtain ⟨others, perm, arranged⟩ := arrange (fun _ => false) (fun _ => .inr fun _ _ => rfl) _ picks
    refine ⟨_, (List.filter_append_perm (fun _ => false) others).trans perm, raises _ fun read => ?_⟩
    have inOrder := parts.perm ((List.filter_append_perm (fun _ => false) others).trans perm).symm
    obtain ⟨first, second, isFree, isTotal⟩ := inOrder.last
    obtain ⟨made, isMade⟩ := (readings_returns.mp read).2 key first second isFree isTotal
    obtain ⟨rfl, rfl⟩ := arranged key first second isFree isTotal rfl
    rw [failed] at isMade
    cases isMade

theorem mem_reports {found : Reading} (perm : order.Perm group) :
    found ∈ order.filterMap (fun observation => (gauge.report observation).toOption.join) ↔
      ∃ observation ∈ group, gauge.report observation = .ok (some found) := by
  rw [List.mem_filterMap]
  refine exists_congr fun observation => and_congr perm.mem_iff ⟨Result.toOption_join, fun isReport => ?_⟩
  rw [isReport]
  rfl

theorem arrange_readings (readable : gauge.Readable group) (front : Observation → Bool)
    (sides : ∀ key, (∀ observation, gauge.IsPart key observation → front observation = true) ∨
      ∀ observation, gauge.IsPart key observation → front observation = false)
    (allowed : PairKey → Option Reading → Prop)
    (picks : ∀ key free total, gauge.Parts group key free total → ∃ free total made,
      gauge.Parts group key free total ∧ gauge.pairReading free total = .ok made ∧ allowed key made) :
    ∃ others : List Observation, others.Perm group ∧
      ∃ order, order = others.filter front ++ others.filter (fun other => !front other) ∧
        order.Perm group ∧ ∃ pairs, pairUsage gauge.freeType gauge.totalType order = .ok pairs ∧
          gauge.lead order strength = some (best (fun reading => strength reading.value)
            (order.filterMap (fun observation => (gauge.report observation).toOption.join) ++
              pairs.map fun reading => { reading with value := gauge.usage reading.value })) ∧
          ∀ key free total, lastReading gauge.freeType key order = some free →
            lastReading gauge.totalType key order = some total →
              ∃ made, gauge.pairReading free total = .ok made ∧ allowed key made := by
  obtain ⟨others, perm, arranged⟩ := arrange front sides
    (fun key free total => ∃ made, gauge.pairReading free total = .ok made ∧ allowed key made)
    fun key free total parts => by
      obtain ⟨free, total, made, isParts, isMade, isAllowed⟩ := picks key free total parts
      exact ⟨free, total, isParts, made, isMade, isAllowed⟩
  have whole := (List.filter_append_perm front others).trans perm
  obtain ⟨found, read⟩ := readings_returns.mpr ⟨readable.perm whole.symm,
    fun key free total isFree isTotal => (arranged key free total isFree isTotal).imp fun _ made => made.1⟩
  obtain ⟨direct, pairs, collected, paired, rfl⟩ := readings_eq_ok.mp read
  rw [collectReadings_eq_gather] at collected
  refine ⟨others, perm, _, rfl, whole, pairs, paired, ?_, arranged⟩
  unfold lead
  rw [read, ← (Result.gather_eq_ok.mp collected).2]
  rfl

theorem allowed_of_mem {allowed : PairKey → Option Reading → Prop}
    (paired : pairUsage gauge.freeType gauge.totalType order = .ok pairs)
    (arranged : ∀ key free total, lastReading gauge.freeType key order = some free →
      lastReading gauge.totalType key order = some total →
        ∃ made, gauge.pairReading free total = .ok made ∧ allowed key made) {found : Reading}
    (member : found ∈ pairs.map fun reading =>
      { reading with value := gauge.usage reading.value }) : ∃ key, allowed key (some found) := by
  obtain ⟨free, total, ⟨key, isFree, isTotal⟩, made⟩ := (mem_pairs paired).mp member
  obtain ⟨other, isMade, isAllowed⟩ := arranged key free total isFree isTotal
  rw [Except.ok.inj (isMade.symm.trans made)] at isAllowed
  exact ⟨key, isAllowed⟩

/-- **What leads comes first in some order.** -/
theorem Leads.reaches (leads : gauge.Leads group strength leading) :
    Reaches (fun order => gauge.lead order strength) group (some leading) := by
  cases leads with
  | nothing readable silent spares =>
      obtain ⟨_, _, order, _, perm, pairs, paired, isLead, arranged⟩ := @arrange_readings gauge group _ _
        strength readable (fun _ => false) (fun _ => .inr fun _ _ => rfl)
        (fun _ made => ∀ reading ∈ made, False) spares
      refine ⟨order, perm, isLead.trans (congrArg some (Arrivals.best_eq_none.mpr ?_))⟩
      refine List.append_eq_nil_iff.mpr ⟨?_, ?_⟩
      · refine List.eq_nil_iff_forall_not_mem.mpr fun found member => ?_
        obtain ⟨observation, inGroup, isReport⟩ := (mem_reports perm).mp member
        rw [silent observation inGroup] at isReport
        cases isReport
      · refine List.eq_nil_iff_forall_not_mem.mpr fun found member => ?_
        obtain ⟨_, none⟩ := allowed_of_mem paired arranged member
        exact none found rfl
  | @direct observation reading readable member reported top spares =>
      have notPart : ∀ key, ¬ gauge.IsPart key observation := by
        intro key isPart
        have isType : observation.factType = gauge.factType := by
          by_contra other
          rw [gauge.silent observation other] at reported
          cases reported
        rcases isPart.1 with same | same
        · exact gauge.directFree (isType.symm.trans same)
        · exact gauge.directTotal (isType.symm.trans same)
      obtain ⟨others, permOthers, order, isOrder, perm, pairs, paired, isLead, arranged⟩ :=
        @arrange_readings gauge group _ _ strength readable (fun other => decide (other = observation))
          (fun key => .inr fun other isPart => decide_eq_false fun same => notPart key (same ▸ isPart))
          (fun _ made => ∀ found ∈ made, strength found.value ≤ strength reading.value) spares
      -- The observation stands at the front, and so does its reading.
      have front : ∃ rest, order = observation :: rest := by
        rcases kept : others.filter (fun other => decide (other = observation)) with - | ⟨other, rest⟩
        · have refused := List.filter_eq_nil_iff.mp kept observation (permOthers.mem_iff.mpr member)
          simp at refused
        · have isOther : other ∈ others.filter fun other => decide (other = observation) :=
            kept ▸ List.mem_cons_self
          rw [isOrder, kept, of_decide_eq_true (List.mem_filter.mp isOther).2]
          exact ⟨_, rfl⟩
      obtain ⟨rest, front⟩ := front
      have first : ∃ rest, order.filterMap (fun observation =>
          (gauge.report observation).toOption.join) = reading :: rest := by
        rw [front, List.filterMap_cons, reported]
        exact ⟨_, rfl⟩
      obtain ⟨direct, first⟩ := first
      refine ⟨order, perm, isLead.trans (congrArg some ?_)⟩
      rw [first, List.cons_append]
      refine Arrivals.best_cons_eq_some fun found later => ?_
      rcases List.mem_append.mp later with inDirect | inPairs
      · obtain ⟨other, inGroup, isReport⟩ :=
          (mem_reports perm).mp (first ▸ List.mem_cons_of_mem _ inDirect)
        exact top other inGroup found isReport
      · obtain ⟨_, atMost⟩ := allowed_of_mem paired arranged inPairs
        exact atMost found rfl
  | @pair key free total reading readable parts made top spares =>
      let front : Observation → Bool := fun other =>
        (other.factType == gauge.freeType || other.factType == gauge.totalType) &&
          (pairKey other).toOption == some key
      have isFront : ∀ other, front other = true ↔ gauge.IsPart key other := by
        intro other
        rw [Bool.and_eq_true, Bool.or_eq_true, beq_iff_eq, beq_iff_eq, beq_iff_eq]
        refine and_congr_right fun _ => ⟨Result.toOption_eq_some, fun isKey => ?_⟩
        rw [isKey]
        rfl
      have sides : ∀ other, (∀ observation, gauge.IsPart other observation → front observation = true) ∨
          ∀ observation, gauge.IsPart other observation → front observation = false := by
        intro other
        by_cases same : other = key
        · subst same
          exact .inl fun observation isPart => (isFront observation).mpr isPart
        · refine .inr fun observation isPart => eq_false_of_ne_true fun isTrue => same ?_
          exact Except.ok.inj (isPart.2.symm.trans ((isFront observation).mp isTrue).2)
      have picks : ∀ other free total, gauge.Parts group other free total → ∃ free total found,
          gauge.Parts group other free total ∧ gauge.pairReading free total = .ok found ∧
            (other = key → found = some reading) ∧
              ∀ pair ∈ found, strength pair.value ≤ strength reading.value := by
        intro other first second isParts
        by_cases same : other = key
        · subst same
          refine ⟨free, total, some reading, parts, made, fun _ => rfl, ?_⟩
          rintro pair ⟨⟩
          exact le_rfl
        · obtain ⟨first, second, found, isParts, isMade, atMost⟩ := spares other same first second isParts
          exact ⟨first, second, found, isParts, isMade, fun isKey => absurd isKey same, atMost⟩
      obtain ⟨others, permOthers, order, isOrder, perm, pairs, paired, isLead, arranged⟩ :=
        @arrange_readings gauge group _ _ strength readable front sides _ picks
      -- A part of the resource stands at the front, so that its pair is the first one.
      have atFront : ∃ part rest, order = part :: rest ∧ gauge.IsPart key part := by
        rcases kept : others.filter front with - | ⟨part, rest⟩
        · have refused := List.filter_eq_nil_iff.mp kept free (permOthers.mem_iff.mpr parts.free_mem)
          exact absurd ((isFront free).mpr ⟨.inl parts.free_type, parts.free_key⟩) refused
        · have isOne : part ∈ others.filter front := kept ▸ List.mem_cons_self
          refine ⟨part, _, isOrder.trans (congrArg (· ++ _) kept), ?_⟩
          exact (isFront part).mp (List.mem_filter.mp isOne).2
      obtain ⟨first, second, isFree, isTotal⟩ := (parts.perm perm.symm).last
      obtain ⟨found, isMade, isReading, _⟩ := arranged key first second isFree isTotal
      rw [isReading rfl] at isMade
      have firstPair : ∃ rest, pairs.map (fun reading =>
          { reading with value := gauge.usage reading.value }) = reading :: rest := by
        obtain ⟨part, rest, rfl, isPart⟩ := atFront
        exact pairs_first isPart paired isFree isTotal isMade
      obtain ⟨rest, firstPair⟩ := firstPair
      refine ⟨order, perm, isLead.trans (congrArg some ?_)⟩
      have topPair : best (fun reading => strength reading.value) (reading :: rest) = some reading := by
        refine Arrivals.best_cons_eq_some fun other later => ?_
        obtain ⟨_, _, atMost⟩ :=
          allowed_of_mem paired arranged (firstPair ▸ List.mem_cons_of_mem _ later)
        exact atMost other rfl
      rw [firstPair, Arrivals.best_append, topPair]
      rcases strongest : best (fun reading => strength reading.value) (order.filterMap fun observation =>
          (gauge.report observation).toOption.join) with - | other
      · rw [strongest]
        rfl
      · obtain ⟨observation, inGroup, isReport⟩ :=
          (mem_reports perm).mp (Arrivals.best_spec strongest).1
        rw [strongest]
        simp [Arrivals.stronger, top observation inGroup other isReport]

/-- **The readings that some order of arrival puts first**, and the groups that raise in some order. -/
theorem reaches_lead {outcome : Option (Option Reading)} :
    Reaches (fun order => gauge.lead order strength) group outcome ↔
      (outcome = none ∧ gauge.Fails group) ∨
        ∃ leading, outcome = some leading ∧ gauge.Leads group strength leading := by
  constructor
  · rintro ⟨order, perm, rfl⟩
    dsimp only
    rcases isLead : gauge.lead order strength with - | leading
    · exact .inl ⟨rfl, fails_of_lead perm isLead⟩
    · exact .inr ⟨leading, rfl, leads_of_lead perm isLead⟩
  · rintro (⟨rfl, fails⟩ | ⟨leading, rfl, leads⟩)
    · exact fails.reaches
    · exact leads.reaches

/-! ### The pick of a gauge -/

theorem collectPairs_filter {freeType totalType : String} {keeps : Observation → Bool}
    (kept : ∀ observation, observation.factType = freeType ∨ observation.factType = totalType →
      keeps observation = true) (pairs : List (PairKey × UsagePair)) :
    collectPairs freeType totalType (group.filter keeps) pairs =
      collectPairs freeType totalType group pairs := by
  induction group generalizing pairs with
  | nil => rfl
  | cons observation rest ih =>
      by_cases isKept : keeps observation = true
      · rw [List.filter_cons_of_pos isKept]
        unfold collectPairs
        simp only [ih]
      · have notFree : observation.factType ≠ freeType := fun same => isKept (kept _ (.inl same))
        have notTotal : observation.factType ≠ totalType := fun same => isKept (kept _ (.inr same))
        rw [List.filter_cons_of_neg isKept, ih, collectPairs, if_neg notFree, if_neg notTotal]

theorem readings_filter (gauge : Gauge) (group : List Observation) :
    gauge.readings (group.filter fun observation => observation.factType == gauge.factType ||
      observation.factType == gauge.freeType || observation.factType == gauge.totalType) =
        gauge.readings group := by
  let keeps : Observation → Bool := fun observation => observation.factType == gauge.factType ||
    observation.factType == gauge.freeType || observation.factType == gauge.totalType
  have reported : collectReadings gauge.report (group.filter keeps) =
      collectReadings gauge.report group := by
    rw [collectReadings_eq_gather, collectReadings_eq_gather]
    refine Result.gather_filter fun observation dropped => gauge.silent observation fun same => ?_
    simp [keeps, same] at dropped
  have paired : pairUsage gauge.freeType gauge.totalType (group.filter keeps) =
      pairUsage gauge.freeType gauge.totalType group := by
    unfold pairUsage
    rw [collectPairs_filter fun observation isPart => ?_]
    rcases isPart with same | same
    · simp [keeps, same]
    · simp [keeps, same]
  unfold readings
  rw [reported, paired]

/-- What a gauge picks: the leading reading of the group. -/
def pick (gauge : Gauge) (strength : PyFloat → Rank) : Arrivals.Pick Observation Reading where
  run order := gauge.lead order strength
  reads observation := observation.factType == gauge.factType ||
    observation.factType == gauge.freeType || observation.factType == gauge.totalType
  run_reads group := by
    unfold lead
    dsimp only
    rw [readings_filter]
  Fails := gauge.Fails
  Leads group := gauge.Leads group strength
  reaches _ _ := reaches_lead

theorem candidate_of_mem (read : gauge.readings group = .ok found) (member : reading ∈ found) :
    gauge.Candidate group reading := by
  obtain ⟨direct, pairs, collected, paired, rfl⟩ := readings_eq_ok.mp read
  rcases List.mem_append.mp member with inDirect | inPairs
  · obtain ⟨observation, inGroup, reported⟩ := mem_collectReadings collected inDirect
    exact .direct inGroup reported
  · obtain ⟨free, total, ⟨key, isFree, isTotal⟩, made⟩ := (mem_pairs paired).mp inPairs
    exact .pair (parts_of_last isFree isTotal) made

theorem Leads.candidate (leads : gauge.Leads group strength (some reading)) :
    gauge.Candidate group reading := by
  cases leads with
  | direct _ member reported _ _ => exact .direct member reported
  | pair _ parts made _ _ => exact .pair parts made

theorem Candidate.perm (candidate : gauge.Candidate order reading) (perm : order.Perm group) :
    gauge.Candidate group reading := by
  cases candidate with
  | direct member reported => exact .direct (perm.mem_iff.mp member) reported
  | pair parts made => exact .pair (parts.perm perm) made

variable (gauge group) in
/-- Every reading of the group is a number. -/
def Numbers : Prop :=
  ∀ reading, gauge.Candidate group reading → reading.value ≠ .nan

theorem Numbers.perm (numbers : gauge.Numbers group) (perm : order.Perm group) :
    gauge.Numbers order :=
  fun reading candidate => numbers reading (candidate.perm perm)

theorem lead_rank (numbers : gauge.Numbers group) : gauge.lead group PyFloat.rank =
    (gauge.readings group).toOption.map fun found =>
      match found with
      | [] => none
      | first :: others => some (pyMax Reading.value first others) := by
  unfold lead
  rcases read : gauge.readings group with failure | found
  · rfl
  · rcases found with - | ⟨first, others⟩
    · rfl
    · refine congrArg some (pyMax_eq_best fun reading member => ?_).symm
      exact numbers reading (candidate_of_mem read member)

theorem lead_dual (numbers : gauge.Numbers group) :
    gauge.lead group (fun value => OrderDual.toDual value.rank) =
      (gauge.readings group).toOption.map fun found => (pySorted Reading.value found).head? := by
  unfold lead
  rcases read : gauge.readings group with failure | found
  · rfl
  · refine congrArg some (head_pySorted fun reading member => ?_).symm
    exact numbers reading (candidate_of_mem read member)

theorem not_reads {accepts : Observation → Bool} {observation : Observation}
    (isRead : (gauge.pick strength).reads observation = true)
    (apart : ∀ factType ∈ [gauge.factType, gauge.freeType, gauge.totalType],
      observation.factType = factType → accepts observation = false) : accepts observation = false := by
  have isType : (observation.factType == gauge.factType || observation.factType == gauge.freeType ||
      observation.factType == gauge.totalType) = true := isRead
  simp only [Bool.or_eq_true, beq_iff_eq] at isType
  rcases isType with (same | same) | same
  · exact apart _ (by simp) same
  · exact apart _ (by simp) same
  · exact apart _ (by simp) same

end Reaches

end Gauge

end CosMonitor
