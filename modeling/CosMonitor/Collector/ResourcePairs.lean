/-
**Pairs of free and total readings — which machine the parts of a usage percentage come from.**

Four calls of `_pair_usage` turn readings into percentages. Each pairs the last free and the last total
reading that name one resource, among the observations of a source or, for the datastores, of a tenant.

* `collectPairs_eq_ok`: the pairs of a group are the last readings of each resource;
* `ResourcePairing.Pairs`: the pairs that a window turns into percentages, and `usageReadings_pairs`,
  `freeCandidates_pairs`, which say that the rules read no others;
* `pairs_sound_iff`: the parts of every pair belong to one machine exactly when the last free and the
  last total reading of each resource do.
-/

import CosMonitor.Collector.Engine
import CosMonitor.Collector.Isolation
import CosMonitor.Foundation.Lookups

namespace CosMonitor

open Grouping (groupBy)

/-! ### The loops over a group -/

theorem collectReadings_eq_gather {Item : Type} (report : Observation → Except PyError (Option Item))
    (group : List Observation) : collectReadings report group = Result.gather report group := by
  induction group with
  | nil => rfl
  | cons observation rest ih =>
      unfold collectReadings Result.gather
      rw [ih]

theorem pairReadings_eq_gather (pairs : List (PairKey × UsagePair)) :
    pairReadings pairs = Result.gather (fun entry => percentFree entry.2) pairs := by
  induction pairs with
  | nil => rfl
  | cons entry rest ih =>
      obtain ⟨key, pair⟩ := entry
      unfold pairReadings Result.gather
      rw [ih]

/-! ### The dictionary of pairs -/

section Dictionary

variable {key wanted : PairKey} {change : UsagePair → UsagePair} {pair : UsagePair}
  {pairs : List (PairKey × UsagePair)}

/-- The parts that a dictionary holds for a resource. -/
def partsOf (key : PairKey) (pairs : List (PairKey × UsagePair)) : UsagePair :=
  (pairs.lookup key).getD { free := none, total := none }

theorem partsOf_setPair : partsOf wanted (setPair key change pairs) =
    if wanted = key then change (partsOf key pairs) else partsOf wanted pairs := by
  unfold partsOf
  induction pairs with
  | nil =>
      by_cases same : wanted = key
      · simp [setPair, same]
      · simp [setPair, List.lookup_cons, same, beq_false_of_ne same]
  | cons entry rest ih =>
      obtain ⟨other, held⟩ := entry
      rw [setPair]
      by_cases known : other = key
      · by_cases same : wanted = key
        · simp [known, same]
        · simp [List.lookup_cons, known, same, beq_false_of_ne same]
      · have apart : ¬ key = other := fun same => known same.symm
        rw [if_neg known, List.lookup_cons, List.lookup_cons, beq_false_of_ne apart, List.lookup_cons]
        by_cases first : wanted = other
        · have differs : ¬ wanted = key := fun same => known (first.symm.trans same)
          simp [first, known]
        · simpa [beq_false_of_ne first] using ih

theorem keys_setPair : (setPair key change pairs).map Prod.fst =
    if key ∈ pairs.map Prod.fst then pairs.map Prod.fst else pairs.map Prod.fst ++ [key] := by
  induction pairs with
  | nil => rfl
  | cons entry rest ih =>
      obtain ⟨other, held⟩ := entry
      rw [setPair]
      by_cases known : other = key
      · simp [known]
      · have apart : ¬ key = other := fun same => known same.symm
        rw [if_neg known, List.map_cons, ih, List.map_cons]
        by_cases later : key ∈ rest.map Prod.fst
        · rw [if_pos later, if_pos (List.mem_cons_of_mem _ later)]
        · rw [if_neg later, if_neg (by simpa [apart] using later), List.cons_append]

theorem nodup_setPair (distinct : (pairs.map Prod.fst).Nodup) :
    ((setPair key change pairs).map Prod.fst).Nodup := by
  rw [keys_setPair]
  split
  · exact distinct
  · rename_i new
    refine List.nodup_append.mpr ⟨distinct, List.nodup_singleton _, ?_⟩
    rintro other known _ added rfl
    exact new (List.mem_singleton.mp added ▸ known)

theorem partsOf_of_mem (distinct : (pairs.map Prod.fst).Nodup) (member : (key, pair) ∈ pairs) :
    partsOf key pairs = pair := by
  unfold partsOf
  induction pairs with
  | nil => cases member
  | cons entry rest ih =>
      obtain ⟨other, held⟩ := entry
      obtain ⟨new, distinct⟩ := List.nodup_cons.mp distinct
      rcases List.mem_cons.mp member with same | later
      · obtain ⟨rfl, rfl⟩ := Prod.mk.inj same
        simp
      · have differs : key ≠ other := fun same =>
          new (same ▸ List.mem_map_of_mem later : other ∈ rest.map Prod.fst)
        simpa [List.lookup_cons, beq_false_of_ne differs] using ih distinct later

theorem mem_of_partsOf {free : Observation} (found : (partsOf key pairs).free = some free) :
    (key, partsOf key pairs) ∈ pairs := by
  unfold partsOf at found ⊢
  rcases held : pairs.lookup key with - | pair
  · rw [held] at found
    cases found
  · obtain ⟨first, last, rfl, _⟩ := List.lookup_eq_some_iff.mp held
    simp

end Dictionary

/-! ### The pairs of a group -/

section Group

variable {freeType totalType : String} {group : List Observation}
  {pairs found : List (PairKey × UsagePair)}

/-- The last reading of a type that names a resource. -/
def lastReading (factType : String) (key : PairKey) (group : List Observation) : Option Observation :=
  Lookups.last (fun observation => observation.factType == factType &&
    (pairKey observation).toOption == some key) group

theorem lastReading_spec {factType : String} {key : PairKey} {observation : Observation}
    (last : lastReading factType key group = some observation) :
    observation ∈ group ∧ observation.factType = factType ∧ pairKey observation = .ok key := by
  obtain ⟨member, accepted⟩ := Lookups.last_spec last
  obtain ⟨isType, isKey⟩ := (Bool.and_eq_true _ _).mp accepted
  exact ⟨member, eq_of_beq isType, Result.toOption_eq_some (eq_of_beq isKey)⟩

theorem lastReading_cons {factType : String} {key : PairKey} {observation : Observation} :
    lastReading factType key (observation :: group) = (lastReading factType key group).or
      (if observation.factType = factType ∧ (pairKey observation).toOption = some key then
        some observation else none) := by
  unfold lastReading
  rw [Lookups.last_cons]
  simp only [Bool.and_eq_true, beq_iff_eq]

/-- **The pairs of a group**: for each resource its last free and its last total reading. -/
theorem collectPairs_eq_ok (apart : freeType ≠ totalType) (distinct : (pairs.map Prod.fst).Nodup)
    (collected : collectPairs freeType totalType group pairs = .ok found) :
    (found.map Prod.fst).Nodup ∧ ∀ key, partsOf key found = {
      free := (lastReading freeType key group).or (partsOf key pairs).free
      total := (lastReading totalType key group).or (partsOf key pairs).total } := by
  induction group generalizing pairs with
  | nil =>
      cases collected
      exact ⟨distinct, fun key => rfl⟩
  | cons observation rest ih =>
      unfold collectPairs at collected
      split at collected
      · rename_i isFree
        obtain ⟨named, isNamed, collected⟩ := Result.bind_eq_ok.mp collected
        obtain ⟨distinct, parts⟩ := ih (nodup_setPair distinct) collected
        refine ⟨distinct, fun key => ?_⟩
        rw [parts, partsOf_setPair, lastReading_cons, lastReading_cons, isNamed, Option.or_assoc]
        by_cases same : key = named
        · simp [same, isFree, apart, Except.toOption]
        · simp [same, Ne.symm same, Except.toOption]
      · rename_i notFree
        split at collected
        · rename_i isTotal
          obtain ⟨named, isNamed, collected⟩ := Result.bind_eq_ok.mp collected
          obtain ⟨distinct, parts⟩ := ih (nodup_setPair distinct) collected
          refine ⟨distinct, fun key => ?_⟩
          rw [parts, partsOf_setPair, lastReading_cons, lastReading_cons, isNamed, Option.or_assoc]
          by_cases same : key = named
          · simp [same, isTotal, Ne.symm apart, Except.toOption]
          · simp [same, Ne.symm same, Except.toOption]
        · rename_i notTotal
          obtain ⟨distinct, parts⟩ := ih distinct collected
          refine ⟨distinct, fun key => ?_⟩
          rw [parts, lastReading_cons, lastReading_cons]
          simp [notFree, notTotal]

theorem collectPairs_returns : (∃ found, collectPairs freeType totalType group pairs = .ok found) ↔
    ∀ observation ∈ group, observation.factType = freeType ∨ observation.factType = totalType →
      ∃ key, pairKey observation = .ok key := by
  induction group generalizing pairs with
  | nil => simp [collectPairs]
  | cons observation rest ih =>
      rw [List.forall_mem_cons]
      unfold collectPairs
      split
      · rename_i isFree
        rcases named : pairKey observation with failure | key
        · simp [isFree, Result.error_bind]
        · rw [Result.ok_bind, ih]
          simp
      · rename_i notFree
        split
        · rename_i isTotal
          rcases named : pairKey observation with failure | key
          · simp [isTotal, Result.error_bind]
          · rw [Result.ok_bind, ih]
            simp
        · rename_i notTotal
          rw [ih]
          simp [notFree, notTotal]

/-- What a free reading says. -/
def freeReading (observation : Observation) : Json :=
  (observation.fact "value").or (observation.fact "free_bytes")

/-- What a total reading says. -/
def totalReading (observation : Observation) : Json :=
  (observation.fact "value").or (observation.fact "total_bytes")

theorem percentFree_eq_some {free total : Observation} {reading : Reading} :
    percentFree { free := some free, total := some total } = .ok (some reading) ↔
      ((totalReading total).truthy = true ∧ freeReading free ≠ .null) ∧
        reading.observations = [free, total] ∧
        percentOf (freeReading free).pyFloat (totalReading total).pyFloat = .ok reading.value := by
  obtain ⟨value, observations⟩ := reading
  unfold percentFree freeReading totalReading
  dsimp only
  split
  · rename_i given
    rw [Result.bind_eq_ok]
    simp only [given, ne_eq, not_false_eq_true, and_self, true_and, Result.pure_eq_ok,
      Option.some.injEq, Reading.mk.injEq]
    constructor
    · rintro ⟨_, divided, rfl, rfl⟩
      exact ⟨rfl, divided⟩
    · rintro ⟨rfl, divided⟩
      exact ⟨value, divided, rfl, rfl⟩
  · rename_i missing
    simp only [Result.pure_eq_ok, reduceCtorEq, false_iff]
    exact fun made => missing made.1

/-- Where the pairs of a group are found, and where they have a percentage. -/
structure Pairable (freeType totalType : String) (group : List Observation) : Prop where
  named : ∀ observation ∈ group,
    observation.factType = freeType ∨ observation.factType = totalType →
      ∃ key, pairKey observation = .ok key
  divides : ∀ key free total, lastReading freeType key group = some free →
    lastReading totalType key group = some total → (totalReading total).truthy = true →
      freeReading free ≠ .null →
        ∃ percentage, percentOf (freeReading free).pyFloat (totalReading total).pyFloat = .ok percentage

theorem mem_collectPairs (apart : freeType ≠ totalType)
    (collected : collectPairs freeType totalType group [] = .ok found) {free total : Observation} :
    (∃ key, (key, UsagePair.mk (some free) (some total)) ∈ found) ↔
      ∃ key, lastReading freeType key group = some free ∧
        lastReading totalType key group = some total := by
  obtain ⟨distinct, parts⟩ := collectPairs_eq_ok apart (by simp) collected
  have last : ∀ key, partsOf key found = {
      free := lastReading freeType key group
      total := lastReading totalType key group } := fun key => by
    rw [parts]
    simp [partsOf]
  refine exists_congr fun key => ?_
  constructor
  · intro member
    have same := (last key).symm.trans (partsOf_of_mem distinct member)
    exact ⟨congrArg UsagePair.free same, congrArg UsagePair.total same⟩
  · rintro ⟨isFree, isTotal⟩
    have same : partsOf key found = { free := some free, total := some total } := by
      rw [last, isFree, isTotal]
    rw [← same]
    exact mem_of_partsOf (congrArg UsagePair.free same)

/-- **The readings of the pairs of a group.** -/
theorem mem_pairUsage (apart : freeType ≠ totalType) {readings : List Reading}
    (paired : pairUsage freeType totalType group = .ok readings) {reading : Reading} :
    reading ∈ readings ↔ ∃ free total,
      (∃ key, lastReading freeType key group = some free ∧
        lastReading totalType key group = some total) ∧
      percentFree { free := some free, total := some total } = .ok (some reading) := by
  obtain ⟨found, collected, computed⟩ := Result.bind_eq_ok.mp paired
  rw [pairReadings_eq_gather] at computed
  rw [Result.mem_gather computed]
  constructor
  · rintro ⟨⟨key, pair⟩, member, made⟩
    rcases pair with ⟨_ | free, _ | total⟩
    · cases made
    · cases made
    · cases made
    · exact ⟨free, total, (mem_collectPairs apart collected).mp ⟨key, member⟩, made⟩
  · rintro ⟨free, total, last, made⟩
    obtain ⟨key, member⟩ := (mem_collectPairs apart collected).mpr last
    exact ⟨_, member, made⟩

theorem pairUsage_computes (apart : freeType ≠ totalType) :
    (∃ readings, pairUsage freeType totalType group = .ok readings) ↔
      (∀ observation ∈ group, observation.factType = freeType ∨ observation.factType = totalType →
        ∃ key, pairKey observation = .ok key) ∧
      ∀ key free total, lastReading freeType key group = some free →
        lastReading totalType key group = some total →
          ∃ made, percentFree { free := some free, total := some total } = .ok made := by
  unfold pairUsage
  simp only [Result.bind_eq_ok, pairReadings_eq_gather]
  constructor
  · rintro ⟨readings, found, collected, computed⟩
    refine ⟨collectPairs_returns.mp ⟨found, collected⟩, ?_⟩
    intro key free total isFree isTotal
    obtain ⟨named, member⟩ := (mem_collectPairs apart collected).mpr ⟨key, isFree, isTotal⟩
    exact (Result.gather_eq_ok.mp computed).1 _ member
  · rintro ⟨named, computes⟩
    obtain ⟨found, collected⟩ := collectPairs_returns.mpr named
    refine ⟨_, found, collected, Result.gather_eq_ok.mpr ⟨?_, rfl⟩⟩
    rintro ⟨key, pair⟩ member
    rcases pair with ⟨_ | free, _ | total⟩
    · exact ⟨none, rfl⟩
    · exact ⟨none, rfl⟩
    · exact ⟨none, rfl⟩
    · obtain ⟨other, isFree, isTotal⟩ := (mem_collectPairs apart collected).mp ⟨key, member⟩
      exact computes other free total isFree isTotal

theorem percentFree_returns {free total : Observation} :
    (∃ made, percentFree { free := some free, total := some total } = .ok made) ↔
      ((totalReading total).truthy = true → freeReading free ≠ .null →
        ∃ percentage,
          percentOf (freeReading free).pyFloat (totalReading total).pyFloat = .ok percentage) := by
  by_cases given : (totalReading total).truthy = true ∧ freeReading free ≠ .null
  · constructor
    · rintro ⟨made, isMade⟩ _ _
      unfold percentFree at isMade
      dsimp only at isMade
      rw [if_pos ⟨given.1, given.2⟩] at isMade
      obtain ⟨percentage, divided, _⟩ := Result.bind_eq_ok.mp isMade
      exact ⟨percentage, divided⟩
    · intro divides
      obtain ⟨percentage, divided⟩ := divides given.1 given.2
      have made :=
        @percentFree_eq_some free total { value := percentage, observations := [free, total] }
      exact ⟨_, made.mpr ⟨given, rfl, divided⟩⟩
  · exact ⟨fun _ isTrue present => absurd ⟨isTrue, present⟩ given, fun _ => ⟨none, if_neg given⟩⟩

theorem pairUsage_returns (apart : freeType ≠ totalType) :
    (∃ readings, pairUsage freeType totalType group = .ok readings) ↔
      Pairable freeType totalType group := by
  rw [pairUsage_computes apart]
  simp only [percentFree_returns]
  exact ⟨fun ⟨named, divides⟩ => ⟨named, divides⟩, fun ⟨named, divides⟩ => ⟨named, divides⟩⟩

end Group

/-! ### The calls of `_pair_usage` -/

/-- A call of `_pair_usage`: the rule that makes it and what the rule reads of a group, which is what one
observation reports or the usage that it takes a pair for. -/
structure ResourcePairing where
  rule : OrganizationRule
  freeType : String
  totalType : String
  readings : List Observation → Except PyError (List Reading)
  usage : PyFloat → PyFloat
  apart : freeType ≠ totalType
  reads : ∀ group found, readings group = .ok found → ∀ reading ∈ found,
    (∃ observation ∈ group, reading.observations = [observation]) ∨
      ∃ pairs, pairUsage freeType totalType group = .ok pairs ∧
        ∃ pair ∈ pairs, reading = { pair with value := usage pair.value }

theorem directUsage_observations {factType : String} {observation : Observation} {reading : Reading}
    (reported : directUsage factType observation = .ok (some reading)) :
    reading.observations = [observation] := by
  unfold directUsage at reported
  split at reported
  · obtain ⟨value, _, same⟩ := Result.bind_eq_ok.mp reported
    rw [← Option.some.inj (Except.ok.inj same)]
  · cases reported

theorem usageReadings_pairs (factType freeType totalType : String) (group : List Observation)
    (found : List Reading) (read : usageReadings factType freeType totalType group = .ok found) :
    ∀ reading ∈ found, (∃ observation ∈ group, reading.observations = [observation]) ∨
      ∃ pairs, pairUsage freeType totalType group = .ok pairs ∧
        ∃ pair ∈ pairs, reading = { pair with value := pair.value.complement } := by
  obtain ⟨direct, collected, read⟩ := Result.bind_eq_ok.mp read
  obtain ⟨pairs, paired, same⟩ := Result.bind_eq_ok.mp read
  intro reading member
  rw [← Result.pure_eq_ok.mp same] at member
  rcases List.mem_append.mp member with isDirect | isPair
  · obtain ⟨observation, inGroup, reported⟩ := mem_collectReadings collected isDirect
    exact .inl ⟨observation, inGroup, directUsage_observations reported⟩
  · obtain ⟨pair, inPairs, rfl⟩ := List.mem_map.mp isPair
    exact .inr ⟨pairs, paired, pair, inPairs, rfl⟩

theorem freeCandidates_pairs (factType freeType totalType : String) (group : List Observation)
    (found : List Reading) (read : freeCandidates factType freeType totalType group = .ok found) :
    ∀ reading ∈ found, (∃ observation ∈ group, reading.observations = [observation]) ∨
      ∃ pairs, pairUsage freeType totalType group = .ok pairs ∧
        ∃ pair ∈ pairs, reading = { pair with value := id pair.value } := by
  obtain ⟨direct, collected, read⟩ := Result.bind_eq_ok.mp read
  obtain ⟨pairs, paired, same⟩ := Result.bind_eq_ok.mp read
  intro reading member
  rw [← Result.pure_eq_ok.mp same] at member
  rcases List.mem_append.mp ((List.mergeSort_perm _ _).mem_iff.mp member) with isDirect | isPair
  · obtain ⟨observation, inGroup, reported⟩ := mem_collectReadings collected isDirect
    exact .inl ⟨observation, inGroup, directNumber_observations reported⟩
  · exact .inr ⟨pairs, paired, reading, isPair, rfl⟩

section Pairings

variable (texts : RuleTexts) (config : OrganizerConfig)

/-- The memory of a source. -/
def memoryPairing : ResourcePairing where
  rule := resourceExhaustionEvidence texts config
  freeType := "memory_free_bytes"
  totalType := "memory_total_bytes"
  readings := memoryUsage
  usage := PyFloat.complement
  apart := by decide
  reads := usageReadings_pairs _ _ _

/-- The disks of a source. -/
def diskPairing : ResourcePairing where
  rule := resourceExhaustionEvidence texts config
  freeType := "disk_free_bytes"
  totalType := "disk_total_bytes"
  readings := diskUsage
  usage := PyFloat.complement
  apart := by decide
  reads := usageReadings_pairs _ _ _

/-- The backup repositories of a source. -/
def repoPairing : ResourcePairing where
  rule := backupFailureEvidence texts config
  freeType := "repo_free_bytes"
  totalType := "repo_capacity_bytes"
  readings := repoFreeCandidates
  usage := id
  apart := by decide
  reads := freeCandidates_pairs _ _ _

/-- The datastores of a tenant. -/
def datastorePairing : ResourcePairing where
  rule := vmwareCapacityEvidence texts config
  freeType := "datastore_free_bytes"
  totalType := "datastore_capacity_bytes"
  readings := datastoreFreeCandidates
  usage := id
  apart := by decide
  reads := freeCandidates_pairs _ _ _

/-- All the calls. -/
def resourcePairings : List ResourcePairing :=
  [memoryPairing texts config, diskPairing texts config, repoPairing texts config,
    datastorePairing texts config]

end Pairings

/-! ### The machines of a pair -/

section Machines

variable (window : List Observation) (pairing : ResourcePairing)

/-- The pairing turns two readings of a window into a percentage. -/
def ResourcePairing.Pairs (free total : Observation) (percentage : PyFloat) : Prop :=
  ∃ key group, (key, group) ∈ groupBy pairing.rule.key window ∧
    ∃ readings, pairUsage pairing.freeType pairing.totalType group = .ok readings ∧
      Reading.mk percentage [free, total] ∈ readings

/-- The parts of a percentage are readings of one resource of one machine, and it is theirs. -/
structure ResourcePairing.SoundPair (free total : Observation) (percentage : PyFloat) : Prop where
  inWindow : free ∈ window ∧ total ∈ window
  types : free.factType = pairing.freeType ∧ total.factType = pairing.totalType
  resource : ∃ key, pairKey free = .ok key ∧ pairKey total = .ok key
  tenant : free.tenantId = total.tenantId
  source : free.sourceId = total.sourceId
  divides : percentOf (freeReading free).pyFloat (totalReading total).pyFloat = .ok percentage
  percentage_eq : ∀ part whole : ℚ, (freeReading free).pyFloat = .ok (.finite part) →
    (totalReading total).pyFloat = .ok (.finite whole) → |part / whole| < PyFloat.limit →
      |PyFloat.double (part / whole) * 100| < PyFloat.limit →
        percentage = .finite (PyFloat.double (PyFloat.double (part / whole) * 100))

/-- In the groups whose pairs have percentages, the last free and the last total reading of a resource
are of one machine. -/
def ResourcePairing.OneMachine : Prop :=
  ∀ key group, (key, group) ∈ groupBy pairing.rule.key window →
    Pairable pairing.freeType pairing.totalType group →
      ∀ resource free total, lastReading pairing.freeType resource group = some free →
        lastReading pairing.totalType resource group = some total →
          (totalReading total).truthy = true → freeReading free ≠ .null →
            free.tenantId = total.tenantId ∧ free.sourceId = total.sourceId

variable {window pairing} {free total : Observation} {percentage : PyFloat}

theorem percentOf_finite {part whole : ℚ} (small : |part / whole| < PyFloat.limit)
    (inRange : |PyFloat.double (part / whole) * 100| < PyFloat.limit)
    (divided : percentOf (.ok (.finite part)) (.ok (.finite whole)) = .ok percentage) :
    percentage = .finite (PyFloat.double (PyFloat.double (part / whole) * 100)) := by
  unfold percentOf at divided
  rw [Result.ok_bind, Result.ok_bind] at divided
  by_cases zero : whole = 0
  · simp [PyFloat.div, zero] at divided
  · obtain ⟨quotient, isQuotient, same⟩ := Result.bind_eq_ok.mp divided
    simp only [PyFloat.div, zero, if_false, Except.ok.injEq, PyFloat.ofRat, if_pos small] at isQuotient
    rw [← Result.pure_eq_ok.mp same, ← isQuotient]
    simp only [PyFloat.percent, PyFloat.ofRat, if_pos inRange]

theorem ResourcePairing.Pairs.lastReadings (made : pairing.Pairs window free total percentage) :
    ∃ key group, (key, group) ∈ groupBy pairing.rule.key window ∧
      Pairable pairing.freeType pairing.totalType group ∧
      (∃ resource, lastReading pairing.freeType resource group = some free ∧
        lastReading pairing.totalType resource group = some total) ∧
      ((totalReading total).truthy = true ∧ freeReading free ≠ .null) ∧
      percentOf (freeReading free).pyFloat (totalReading total).pyFloat = .ok percentage := by
  obtain ⟨key, group, isGroup, readings, paired, member⟩ := made
  obtain ⟨first, second, last, made⟩ := (mem_pairUsage pairing.apart paired).mp member
  obtain ⟨given, observations, divided⟩ := percentFree_eq_some.mp made
  obtain ⟨rfl, rest⟩ := List.cons.inj observations
  obtain ⟨rfl, _⟩ := List.cons.inj rest
  exact ⟨key, group, isGroup, (pairUsage_returns pairing.apart).mp ⟨readings, paired⟩, last, given,
    divided⟩

theorem ResourcePairing.OneMachine.soundPair (machine : pairing.OneMachine window)
    (made : pairing.Pairs window free total percentage) :
    pairing.SoundPair window free total percentage := by
  obtain ⟨key, group, isGroup, pairable, ⟨resource, isFree, isTotal⟩, given, divided⟩ :=
    made.lastReadings
  obtain ⟨freeIn, freeType, freeKey⟩ := lastReading_spec isFree
  obtain ⟨totalIn, totalType, totalKey⟩ := lastReading_spec isTotal
  obtain ⟨sameTenant, sameSource⟩ :=
    machine key group isGroup pairable resource free total isFree isTotal given.1 given.2
  have content := (Grouping.mem_groupBy isGroup).1
  refine ⟨⟨?_, ?_⟩, ⟨freeType, totalType⟩, ⟨resource, freeKey, totalKey⟩, sameTenant, sameSource,
    divided, ?_⟩
  · exact (List.mem_filter.mp (content ▸ freeIn)).1
  · exact (List.mem_filter.mp (content ▸ totalIn)).1
  · intro part whole isPart isWhole small inRange
    rw [isPart, isWhole] at divided
    exact percentOf_finite small inRange divided

theorem ResourcePairing.pairs_of_lastReadings {key : Uuid} {group : List Observation}
    (isGroup : (key, group) ∈ groupBy pairing.rule.key window)
    (pairable : Pairable pairing.freeType pairing.totalType group) {resource : PairKey}
    (isFree : lastReading pairing.freeType resource group = some free)
    (isTotal : lastReading pairing.totalType resource group = some total)
    (given : (totalReading total).truthy = true) (present : freeReading free ≠ .null) :
    ∃ percentage, pairing.Pairs window free total percentage := by
  obtain ⟨percentage, divided⟩ := pairable.divides resource free total isFree isTotal given present
  obtain ⟨readings, paired⟩ := (pairUsage_returns pairing.apart).mpr pairable
  refine ⟨percentage, key, group, isGroup, readings, paired, ?_⟩
  have made := @percentFree_eq_some free total { value := percentage, observations := [free, total] }
  exact (mem_pairUsage pairing.apart paired).mpr
    ⟨free, total, ⟨resource, isFree, isTotal⟩, made.mpr ⟨⟨given, present⟩, rfl, divided⟩⟩

end Machines

/-- **The parts of a usage percentage come from one machine** exactly when the last free and the last
total reading of each resource do. Every reading of a rule is reported by one observation or is such a
pair. -/
theorem pairs_sound_iff (texts : RuleTexts) (config : OrganizerConfig) (window : List Observation) :
    (∀ pairing ∈ resourcePairings texts config, ∀ key group,
      (key, group) ∈ groupBy pairing.rule.key window → ∀ found, pairing.readings group = .ok found →
        ∀ reading ∈ found, (∃ observation ∈ group, reading.observations = [observation]) ∨
          ∃ free total percentage, pairing.Pairs window free total percentage ∧
            reading = Reading.mk (pairing.usage percentage) [free, total]) ∧
    ((∀ pairing ∈ resourcePairings texts config, ∀ free total percentage,
      pairing.Pairs window free total percentage →
        pairing.SoundPair window free total percentage) ↔
      ∀ pairing ∈ resourcePairings texts config, pairing.OneMachine window) := by
  constructor
  · intro pairing _ key group isGroup found read reading member
    rcases pairing.reads group found read reading member with direct | ⟨pairs, paired, pair, inPairs, rfl⟩
    · exact .inl direct
    · obtain ⟨free, total, last, made⟩ := (mem_pairUsage pairing.apart paired).mp inPairs
      obtain ⟨value, observations⟩ := pair
      obtain ⟨_, rfl, _⟩ := percentFree_eq_some.mp made
      exact .inr ⟨free, total, value, ⟨key, group, isGroup, pairs, paired, inPairs⟩, rfl⟩
  · refine forall₂_congr fun pairing _ => ?_
    constructor
    · intro sound key group isGroup pairable resource free total isFree isTotal given present
      obtain ⟨percentage, made⟩ :=
        ResourcePairing.pairs_of_lastReadings isGroup pairable isFree isTotal given present
      exact ⟨(sound free total percentage made).tenant, (sound free total percentage made).source⟩
    · intro machine free total percentage made
      exact machine.soundPair made

/-! ### Two machines of one tenant -/

/-- The free bytes of a datastore of one source, under no name. -/
def freeOfFirst : Observation where
  id := 70
  tenantId := 1
  sourceId := 1
  sourceType := "vmware"
  factType := "datastore_free_bytes"
  factValue := [("value", .int 1)]
  unit := "bytes"
  capturedAt := .utc 0
  qualityClass := .q1
  rawPayload := []

/-- The capacity of a datastore of another source of the tenant, under no name. -/
def capacityOfSecond : Observation :=
  { freeOfFirst with
    id := 71
    sourceId := 2
    factType := "datastore_capacity_bytes"
    factValue := [("value", .int 100)] }

/-- **The free reading of one source over the capacity of another**, both under the name `default`. -/
theorem datastores_mixed : ¬ ∀ (texts : RuleTexts) (config : OrganizerConfig)
    (window : List Observation), ∀ pairing ∈ resourcePairings texts config,
      ∀ free total percentage, pairing.Pairs window free total percentage →
        pairing.SoundPair window free total percentage := by
  intro sound
  have isFree : lastReading "datastore_free_bytes" (.text "default") [freeOfFirst, capacityOfSecond] =
      some freeOfFirst := by decide +kernel
  have isTotal : lastReading "datastore_capacity_bytes" (.text "default")
      [freeOfFirst, capacityOfSecond] = some capacityOfSecond := by decide +kernel
  have pairable : Pairable "datastore_free_bytes" "datastore_capacity_bytes"
      [freeOfFirst, capacityOfSecond] := by
    constructor
    · intro observation member _
      refine ⟨.text "default", ?_⟩
      rcases List.mem_pair.mp member with rfl | rfl
      · rfl
      · rfl
    · intro key free total found foundTotal _ _
      obtain ⟨freeIn, freeType, _⟩ := lastReading_spec found
      obtain ⟨totalIn, totalType, _⟩ := lastReading_spec foundTotal
      rcases List.mem_pair.mp freeIn with rfl | rfl
      · rcases List.mem_pair.mp totalIn with rfl | rfl
        · exact absurd totalType (by decide)
        · exact ⟨.finite 1, by decide +kernel⟩
      · exact absurd freeType (by decide)
  obtain ⟨percentage, made⟩ := @ResourcePairing.pairs_of_lastReadings
    [freeOfFirst, capacityOfSecond] (datastorePairing sharedTexts {}) freeOfFirst capacityOfSecond 1
    [freeOfFirst, capacityOfSecond] (by decide +kernel) pairable (.text "default") isFree isTotal
    (by decide) (by decide)
  have same := (sound sharedTexts {} _ _ (by simp [resourcePairings]) _ _ _ made).source
  exact absurd same (by decide)

end CosMonitor
