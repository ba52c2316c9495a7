/-
**Lowered readings — what a gauge reads where a resource has less free space.**

A free reading is replaced by a smaller one that is not negative; the total, the time and the source stay.

* `Replaced`: a list with another observation in the place of one, also as the last reading of a pair;
* `Gauge.Lowering`: what a gauge reads of an observation and of a smaller one;
  `Gauge.Lowering.readings_raised`, `Gauge.Lowering.lead_raised`: the readings stand where they stood, and
  what leads is as before or is of the smaller observation and at least as strong;
* `Lowers`: a free reading and a smaller one in its place, and `Counts`: the smaller one is still read;
* `Lowers.usageLowering`, `Lowers.shareLowering`: the gauges of the capacity rules.
-/

import CosMonitor.Collector.Percentages
import CosMonitor.Collector.RuleChoices

namespace CosMonitor

open Arrivals (best)

/-! ### A reading in the place of another one -/

section Replaced

variable {reading lowered : Observation}

/-- A list with another observation in some places of one. -/
def Replaced (reading lowered : Observation) : List Observation → List Observation → Prop :=
  List.Forall₂ fun before after => after = before ∨ before = reading ∧ after = lowered

theorem Replaced.refl (group : List Observation) : Replaced reading lowered group group :=
  List.forall₂_same.mpr fun _ _ => .inl rfl

theorem replaced_middle (front back : List Observation) :
    Replaced reading lowered (front ++ reading :: back) (front ++ lowered :: back) :=
  List.rel_append (Replaced.refl front) (.cons (.inr ⟨rfl, rfl⟩) (Replaced.refl back))

theorem Replaced.filter_eq {keeps : Observation → Bool} {group other : List Observation}
    (replaced : Replaced reading lowered group other) (notReading : keeps reading = false)
    (notLowered : keeps lowered = false) : other.filter keeps = group.filter keeps := by
  induction replaced with
  | nil => rfl
  | cons change _ ih =>
      rcases change with rfl | ⟨rfl, rfl⟩
      · rw [List.filter_cons, List.filter_cons, ih]
      · rw [List.filter_cons_of_neg (by simp [notLowered]), List.filter_cons_of_neg (by simp [notReading]),
          ih]

theorem Replaced.filter {keeps : Observation → Bool} {group other : List Observation}
    (replaced : Replaced reading lowered group other) (same : keeps lowered = keeps reading) :
    Replaced reading lowered (group.filter keeps) (other.filter keeps) := by
  induction replaced with
  | nil => exact .nil
  | @cons before after _ _ change _ ih =>
      have sameOne : keeps after = keeps before := by
        rcases change with rfl | ⟨rfl, rfl⟩
        · rfl
        · exact same
      by_cases kept : keeps before = true
      · rw [List.filter_cons_of_pos kept, List.filter_cons_of_pos (sameOne.trans kept)]
        exact .cons change ih
      · rw [List.filter_cons_of_neg kept, List.filter_cons_of_neg (sameOne ▸ kept)]
        exact ih

/-- The dictionary entries of the two lists: the observation may stand as a free part. -/
def ReplacedPart (reading lowered : Observation) (before after : UsagePair) : Prop :=
  after.total = before.total ∧
    (after.free = before.free ∨ before.free = some reading ∧ after.free = some lowered)

/-- The dictionaries of the two lists. -/
def ReplacedPairs (reading lowered : Observation) :
    List (PairKey × UsagePair) → List (PairKey × UsagePair) → Prop :=
  List.Forall₂ fun before after => after.1 = before.1 ∧ ReplacedPart reading lowered before.2 after.2

theorem ReplacedPairs.setPair {pairs others : List (PairKey × UsagePair)} {key : PairKey}
    {change changed : UsagePair → UsagePair} (related : ReplacedPairs reading lowered pairs others)
    (changes : ∀ before after, ReplacedPart reading lowered before after →
      ReplacedPart reading lowered (change before) (changed after)) :
    ReplacedPairs reading lowered (setPair key change pairs) (setPair key changed others) := by
  induction related with
  | nil => exact .cons ⟨rfl, changes _ _ ⟨rfl, .inl rfl⟩⟩ .nil
  | @cons before after rest later isRelated isRest ih =>
      obtain ⟨known, pair⟩ := before
      obtain ⟨other, part⟩ := after
      obtain ⟨rfl, parts⟩ := isRelated
      rw [CosMonitor.setPair, CosMonitor.setPair]
      split
      · exact .cons ⟨rfl, changes _ _ parts⟩ isRest
      · exact .cons ⟨rfl, parts⟩ ih

theorem Replaced.collectPairs {freeType totalType : String} {group other : List Observation}
    {pairs others found : List (PairKey × UsagePair)} (sameType : lowered.factType = reading.factType)
    (sameKey : pairKey lowered = pairKey reading) (notTotal : reading.factType ≠ totalType)
    (replaced : Replaced reading lowered group other) (related : ReplacedPairs reading lowered pairs others)
    (collected : collectPairs freeType totalType group pairs = .ok found) :
    ∃ results, collectPairs freeType totalType other others = .ok results ∧
      ReplacedPairs reading lowered found results := by
  induction replaced generalizing pairs others with
  | nil =>
      cases collected
      exact ⟨others, rfl, related⟩
  | @cons before after rest later change _ ih =>
      unfold CosMonitor.collectPairs at collected ⊢
      rcases change with rfl | ⟨rfl, rfl⟩
      · split at collected
        · rename_i isFree
          obtain ⟨key, isKey, collected⟩ := Result.bind_eq_ok.mp collected
          rw [if_pos isFree, isKey, Result.ok_bind]
          refine ih (related.setPair fun _ _ parts => ?_) collected
          exact ⟨parts.1, .inl rfl⟩
        · rename_i notFree
          rw [if_neg notFree]
          split at collected
          · rename_i isTotal
            obtain ⟨key, isKey, collected⟩ := Result.bind_eq_ok.mp collected
            rw [if_pos isTotal, isKey, Result.ok_bind]
            refine ih (related.setPair fun _ _ parts => ?_) collected
            exact ⟨rfl, parts.2⟩
          · rename_i isNeither
            rw [if_neg isNeither]
            exact ih related collected
      · rw [sameType, sameKey]
        split at collected
        · rename_i isFree
          obtain ⟨key, isKey, collected⟩ := Result.bind_eq_ok.mp collected
          rw [if_pos isFree, isKey, Result.ok_bind]
          refine ih (related.setPair fun _ _ parts => ?_) collected
          exact ⟨parts.1, .inr ⟨rfl, rfl⟩⟩
        · rename_i notFree
          rw [if_neg notFree, if_neg notTotal]
          exact ih related collected

end Replaced

/-! ### What a gauge reads of a smaller reading -/

namespace Gauge

variable {Rank : Type} [LinearOrder Rank]

/-- A reading of the smaller observation, and at least as strong as the one before. -/
structure Raised (strength : PyFloat → Rank) (lowered : Observation) (before after : Reading) : Prop where
  stronger : strength before.value ≤ strength after.value
  mem : lowered ∈ after.observations

/-- What a gauge reads of an observation, and of a smaller one in its place. -/
structure Lowering (gauge : Gauge) (strength : PyFloat → Rank) (group : List Observation)
    (reading lowered : Observation) : Prop where
  factType : lowered.factType = reading.factType
  notTotal : reading.factType ≠ gauge.totalType
  key : pairKey lowered = pairKey reading
  report : ∀ found, gauge.report reading = .ok found →
    ∃ next, gauge.report lowered = .ok next ∧ Option.Rel (Raised strength lowered) found next
  pair : ∀ key total, gauge.Parts group key reading total →
    ∀ found, gauge.pairReading reading total = .ok found →
      ∃ next, gauge.pairReading lowered total = .ok next ∧ Option.Rel (Raised strength lowered) found next

variable {gauge : Gauge} {strength : PyFloat → Rank} {group other : List Observation}
  {reading lowered : Observation}

theorem rel_refl {Item : Type} {raised : Item → Item → Prop} (found : Option Item) :
    Option.Rel (fun before after => after = before ∨ raised before after) found found := by
  cases found with
  | none => exact .none
  | some item => exact .some (.inl rfl)

theorem Lowering.entry_raised (lowering : gauge.Lowering strength group reading lowered)
    {before after : UsagePair} (related : ReplacedPart reading lowered before after)
    (parts : ∀ total, before = { free := some reading, total := some total } →
      ∃ key, gauge.Parts group key reading total) {found : Option Reading}
    (made : percentFree before = .ok found) :
    ∃ next, percentFree after = .ok next ∧ Option.Rel (fun before after => after = before ∨
      Raised strength lowered { before with value := gauge.usage before.value }
        { after with value := gauge.usage after.value }) found next := by
  obtain ⟨free, _⟩ := before
  obtain ⟨newFree, whole⟩ := after
  obtain ⟨rfl, rfl | ⟨rfl, rfl⟩⟩ := related
  · exact ⟨found, made, rel_refl found⟩
  · rcases whole with - | total
    · cases made
      exact ⟨none, rfl, .none⟩
    · obtain ⟨key, isParts⟩ := parts total rfl
      have isPair : gauge.pairReading reading total = .ok (found.map fun reading =>
          { reading with value := gauge.usage reading.value }) := by
        unfold pairReading
        rw [made]
        rfl
      obtain ⟨next, isNext, raised⟩ := lowering.pair key total isParts _ isPair
      unfold pairReading at isNext
      rcases ofLowered : percentFree { free := some lowered, total := some total } with
        failure | later
      · rw [ofLowered] at isNext
        cases isNext
      · rw [ofLowered] at isNext
        obtain rfl := Except.ok.inj isNext
        refine ⟨later, rfl, ?_⟩
        rcases found with - | found
        · rcases later with - | later
          · exact .none
          · cases raised
        · rcases later with - | later
          · cases raised
          · cases raised with
            | some isRaised => exact .some (.inr isRaised)

/-- **The readings of a group with a smaller reading**: each stays or is raised, where it stood. -/
theorem Lowering.readings_raised (lowering : gauge.Lowering strength group reading lowered)
    (replaced : Replaced reading lowered group other) {found : List Reading}
    (read : gauge.readings group = .ok found) :
    ∃ results, gauge.readings other = .ok results ∧
      List.Forall₂ (fun before after => after = before ∨ Raised strength lowered before after)
        found results := by
  obtain ⟨direct, pairs, collected, paired, rfl⟩ := readings_eq_ok.mp read
  rw [collectReadings_eq_gather] at collected
  obtain ⟨newDirect, newCollected, raisedDirect⟩ := @Result.gather_related _ _ _ gauge.report _
    (fun before after => after = before ∨ Raised strength lowered before after) _ _ _ replaced
    (by
      rintro input _ next (rfl | ⟨rfl, rfl⟩) found reported
      · exact ⟨found, reported, rel_refl found⟩
      · obtain ⟨next, isNext, raised⟩ := lowering.report found reported
        refine ⟨next, isNext, ?_⟩
        cases raised with
        | none => exact .none
        | some isRaised => exact .some (.inr isRaised)) collected
  obtain ⟨entries, isEntries, computed⟩ := Result.bind_eq_ok.mp paired
  obtain ⟨newEntries, areNew, related⟩ := @Replaced.collectPairs reading lowered gauge.freeType
    gauge.totalType group other [] [] entries lowering.factType lowering.key lowering.notTotal replaced
    .nil isEntries
  rw [pairReadings_eq_gather] at computed
  obtain ⟨newPairs, newComputed, raisedPairs⟩ := @Result.gather_related _ _ _
    (fun entry : PairKey × UsagePair => percentFree entry.2) _
    (fun before after => after = before ∨
      Raised strength lowered { before with value := gauge.usage before.value }
        { after with value := gauge.usage after.value }) _ _ _ related
    (by
      rintro ⟨key, before⟩ member ⟨_, after⟩ ⟨_, parts⟩ found made
      refine lowering.entry_raised parts (fun total isPair => ?_) made
      obtain rfl : before = { free := some reading, total := some total } := isPair
      obtain ⟨resource, isFree, isTotal⟩ :=
        (mem_collectPairs gauge.freeTotal isEntries).mp ⟨key, member⟩
      exact ⟨resource, parts_of_last isFree isTotal⟩) computed
  have newPaired : pairUsage gauge.freeType gauge.totalType other = .ok newPairs := by
    unfold pairUsage
    rw [areNew, Result.ok_bind, pairReadings_eq_gather]
    exact newComputed
  refine ⟨_, readings_eq_ok.mpr ⟨newDirect, newPairs, ?_, newPaired, rfl⟩, ?_⟩
  · rw [collectReadings_eq_gather]
    exact newCollected
  · refine List.rel_append raisedDirect ?_
    rw [List.forall₂_map_left_iff, List.forall₂_map_right_iff]
    refine raisedPairs.imp ?_
    rintro before after (rfl | raised)
    · exact .inl rfl
    · exact .inr raised

/-- **The leading reading of a group with a smaller reading**: the one before, or one of the smaller
observation that is at least as strong. -/
theorem Lowering.lead_raised (lowering : gauge.Lowering strength group reading lowered)
    (replaced : Replaced reading lowered group other) :
    (gauge.lead group strength = some none → gauge.lead other strength = some none) ∧
      ∀ first, gauge.lead group strength = some (some first) → ∃ next,
        gauge.lead other strength = some (some next) ∧ strength first.value ≤ strength next.value ∧
          (next = first ∨ lowered ∈ next.observations) := by
  unfold lead
  rcases read : gauge.readings group with failure | found
  · refine ⟨fun none => ?_, fun first some => ?_⟩
    · cases none
    · cases some
  obtain ⟨results, readOther, raised⟩ := lowering.readings_raised replaced read
  have leads := @Arrivals.best_raised Reading Rank _ (fun reading => strength reading.value) found _
    (fun _ _ isRaised => isRaised.stronger) results raised
  rw [readOther]
  refine ⟨fun none => congrArg some (leads.1 (Option.some.inj none)), fun first isFirst => ?_⟩
  obtain ⟨next, isNext, atLeast, isOne⟩ := leads.2 first (Option.some.inj isFirst)
  refine ⟨next, congrArg some isNext, atLeast, isOne.imp_right ?_⟩
  rintro ⟨_, isRaised⟩
  exact isRaised.mem

theorem lead_number {leading : Reading} (numbers : gauge.Numbers group)
    (isLead : gauge.lead group strength = some (some leading)) : leading.value ≠ .nan := by
  unfold lead at isLead
  rcases read : gauge.readings group with failure | found
  · rw [read] at isLead
    cases isLead
  · rw [read] at isLead
    have top := Arrivals.best_spec (Option.some.inj isLead)
    exact numbers leading (candidate_of_mem read top.1)

end Gauge

/-! ### Free readings -/

/-- The types of the observations that say how many bytes are free. -/
def bytesTypes : List String :=
  ["memory_free_bytes", "disk_free_bytes", "repo_free_bytes", "datastore_free_bytes"]

/-- The types of the observations that say which share is free. -/
def percentTypes : List String :=
  ["repo_free_percent", "datastore_free_percent"]

/-- The types of the observations that say what is used, or what is free of it. -/
def usageTypes : List String :=
  ["memory_usage", "disk_usage"]

/-- The field that a free reading is taken from. -/
def freeField (reading : Observation) : String :=
  if reading.factType ∈ percentTypes then "value"
  else if reading.factType ∈ bytesTypes ∧ (reading.fact "value").truthy = true then "value"
  else "free_bytes"

/-- A free reading, and one in its place that is the same but for a smaller value, not negative. -/
structure Lowers (reading lowered : Observation) : Prop where
  kind : reading.factType ∈ bytesTypes ++ percentTypes ++ usageTypes
  same : lowered = { reading with factValue := lowered.factValue }
  fields : ∀ key, key ≠ freeField reading →
    lowered.factValue.lookup key = reading.factValue.lookup key
  smaller : ∃ before after, (reading.fact (freeField reading)).pyFloat = .ok before ∧
    (lowered.fact (freeField reading)).pyFloat = .ok (.finite after) ∧ 0 ≤ after ∧
      (PyFloat.finite after).le before = true

/-- The smaller value is read in the pairs of a group, as the value before was, the totals that it is compared
with are not negative, and what is used does not fall. -/
structure Counts (gauge : Gauge) (group : List Observation) (reading lowered : Observation) : Prop where
  given : ∀ key total, gauge.Parts group key reading total → freeField reading = "value" →
    (lowered.fact "value").truthy = true
  totals : ∀ key total, gauge.Parts group key reading total → NotNegative (totalReading total)
  own : reading.factType ∈ usageTypes → reading.fact "used_bytes" = .null →
    NotNegative (reading.fact "total_bytes")
  grows : reading.factType ∈ usageTypes → reading.fact "used_bytes" = .null → ∀ difference,
    differenceFloat (reading.fact "total_bytes") (reading.fact "free_bytes") = .ok difference →
      ∃ other, differenceFloat (reading.fact "total_bytes") (lowered.fact "free_bytes") = .ok other ∧
        difference.rank ≤ other.rank

section Free

variable {reading lowered : Observation} {gauge : Gauge} {group : List Observation}

theorem Lowers.fact_eq (lowers : Lowers reading lowered) {key : String}
    (other : key ≠ freeField reading) : lowered.fact key = reading.fact key := by
  unfold Observation.fact Json.get
  exact congrArg (·.getD Json.null) (lowers.fields key other)

theorem Lowers.factType_eq (lowers : Lowers reading lowered) : lowered.factType = reading.factType := by
  rw [lowers.same]

theorem Lowers.pairKey_eq (lowers : Lowers reading lowered) : pairKey lowered = pairKey reading := by
  rw [lowers.same]
  rfl

theorem freeReading_eq (isBytes : reading.factType ∈ bytesTypes) :
    freeReading reading = reading.fact (freeField reading) := by
  have notPercent : reading.factType ∉ percentTypes := by
    have apart : ∀ factType ∈ bytesTypes, factType ∉ percentTypes := by decide
    exact apart _ isBytes
  unfold freeReading freeField Json.or
  rw [if_neg notPercent]
  by_cases truthy : (reading.fact "value").truthy = true
  · rw [if_pos truthy, if_pos ⟨isBytes, truthy⟩]
  · rw [if_neg truthy, if_neg fun both => truthy both.2]

theorem Lowers.freeReading_eq (lowers : Lowers reading lowered)
    (given : freeField reading = "value" → (lowered.fact "value").truthy = true)
    (isBytes : reading.factType ∈ bytesTypes) :
    freeReading lowered = lowered.fact (freeField reading) := by
  have field : freeField reading = "value" ∨
      freeField reading = "free_bytes" ∧ ¬ (reading.fact "value").truthy = true := by
    unfold freeField
    split
    · exact .inl rfl
    · split
      · exact .inl rfl
      · rename_i notGiven
        exact .inr ⟨rfl, fun truthy => notGiven ⟨isBytes, truthy⟩⟩
  unfold freeReading Json.or
  rcases field with isValue | ⟨isFree, falsy⟩
  · rw [isValue, if_pos (given isValue)]
  · rw [lowers.fact_eq (by rw [isFree]; decide), if_neg falsy, isFree]

theorem Lowers.numbers (lowers : Lowers reading lowered) : ∃ before after,
    (reading.fact (freeField reading)).pyFloat = .ok before ∧
      (lowered.fact (freeField reading)).pyFloat = .ok (.finite after) ∧ 0 ≤ after ∧
        before ≠ .nan ∧ (PyFloat.finite after).rank ≤ before.rank := by
  obtain ⟨before, after, isBefore, isAfter, least, atMost⟩ := lowers.smaller
  have isNumber : before ≠ .nan := by
    rintro rfl
    cases atMost
  exact ⟨before, after, isBefore, isAfter, least, isNumber,
    (PyFloat.rank_le_iff (by simp) isNumber).mpr atMost⟩

theorem ne_null_of_pyFloat {value : Json} {number : PyFloat} (isNumber : value.pyFloat = .ok number) :
    value ≠ .null := by
  rintro rfl
  cases isNumber

theorem percentFree_eq_none {free total : Observation} :
    percentFree { free := some free, total := some total } = .ok none ↔
      ¬ ((totalReading total).truthy = true ∧ freeReading free ≠ .null) := by
  unfold percentFree freeReading totalReading
  dsimp only
  split
  · rename_i given
    refine iff_of_false (fun none => ?_) (not_not.mpr given)
    obtain ⟨_, _, same⟩ := Result.bind_eq_ok.mp none
    cases same
  · rename_i missing
    exact iff_of_true rfl missing

variable {Rank : Type} [LinearOrder Rank] {strength : PyFloat → Rank}

/-- **The pair of a smaller reading** has a percentage where the pair before had one. -/
theorem Lowers.pairReading (lowers : Lowers reading lowered)
    (counts : Counts gauge group reading lowered) (isBytes : gauge.freeType ∈ bytesTypes)
    (keepsNan : gauge.usage .nan = .nan)
    (grows : ∀ share other, share ≠ .nan → other ≠ .nan → other.rank ≤ share.rank →
      strength (gauge.usage share) ≤ strength (gauge.usage other))
    (numbers : gauge.Numbers group) {key : PairKey} {total : Observation} (parts : gauge.Parts group key reading total)
    {found : Option Reading} (made : gauge.pairReading reading total = .ok found) :
    ∃ next, gauge.pairReading lowered total = .ok next ∧
      Option.Rel (Gauge.Raised strength lowered) found next := by
  have ofBytes : reading.factType ∈ bytesTypes := parts.free_type ▸ isBytes
  obtain ⟨before, after, isBefore, isAfter, least, isNumber, atMost⟩ := lowers.numbers
  rw [← CosMonitor.freeReading_eq ofBytes] at isBefore
  rw [← lowers.freeReading_eq (counts.given key total parts) ofBytes] at isAfter
  rcases found with - | found
  · have missing : percentFree { free := some lowered, total := some total } = .ok none := by
      refine percentFree_eq_none.mpr fun given => ?_
      have none : percentFree { free := some reading, total := some total } = .ok none := by
        unfold Gauge.pairReading at made
        rcases ofReading : percentFree { free := some reading, total := some total } with
          failure | _ | found
        · rw [ofReading] at made
          cases made
        · rfl
        · rw [ofReading] at made
          cases made
      exact percentFree_eq_none.mp none ⟨given.1, ne_null_of_pyFloat isBefore⟩
    refine ⟨none, ?_, .none⟩
    unfold Gauge.pairReading
    rw [missing]
    rfl
  · have candidate := numbers found (.pair parts made)
    obtain ⟨share, isShare, rfl⟩ := Gauge.pairReading_eq_some.mp made
    obtain ⟨⟨given, _⟩, _, divided⟩ := percentFree_eq_some.mp isShare
    have shareNumber : share.value ≠ .nan := fun isNan => candidate (by
      dsimp only
      rw [isNan, keepsNan])
    rw [isBefore] at divided
    obtain ⟨other, dividedOther, otherNumber⟩ :=
      percentOf_returns divided shareNumber (by simp : PyFloat.finite after ≠ .nan) (.inl ⟨after, rfl⟩)
    have notNegative := counts.totals key total parts
    have less := percentOf_rank (by simp) isNumber atMost notNegative dividedOther divided otherNumber
      shareNumber
    refine ⟨some { value := gauge.usage other, observations := [lowered, total] }, ?_, .some ⟨?_, ?_⟩⟩
    · refine Gauge.pairReading_eq_some.mpr
        ⟨{ value := other, observations := [lowered, total] }, percentFree_eq_some.mpr ?_, rfl⟩
      refine ⟨⟨given, ne_null_of_pyFloat isAfter⟩, rfl, ?_⟩
      rw [isAfter]
      exact dividedOther
    · exact grows share.value other shareNumber otherNumber less
    · exact List.mem_cons_self

theorem freeField_cases (reading : Observation) :
    freeField reading = "value" ∨ freeField reading = "free_bytes" := by
  unfold freeField
  split
  · exact .inl rfl
  · split
    · exact .inl rfl
    · exact .inr rfl

theorem Lowers.fact_other (lowers : Lowers reading lowered) {key : String} (notValue : key ≠ "value")
    (notFree : key ≠ "free_bytes") : lowered.fact key = reading.fact key := by
  refine lowers.fact_eq ?_
  rcases freeField_cases reading with isField | isField
  · rwa [isField]
  · rwa [isField]

/-- **The usage that an observation with a smaller reading reports.** -/
theorem Lowers.directUsage (lowers : Lowers reading lowered)
    (counts : Counts gauge group reading lowered) {factType : String} (isUsage : factType ∈ usageTypes)
    {found : Option Reading} (reported : directUsage factType reading = .ok found)
    (numbers : ∀ read ∈ found, read.value ≠ .nan) :
    ∃ next, directUsage factType lowered = .ok next ∧
      Option.Rel (Gauge.Raised PyFloat.rank lowered) found next := by
  have sameTotal : lowered.fact "total_bytes" = reading.fact "total_bytes" :=
    lowers.fact_other (by decide) (by decide)
  by_cases given : reading.factType = factType ∧ (reading.fact "total_bytes").truthy = true
  · have ofUsage : reading.factType ∈ usageTypes := given.1 ▸ isUsage
    have field : freeField reading = "free_bytes" := by
      have apart : ∀ factType ∈ usageTypes, factType ∉ percentTypes ∧ factType ∉ bytesTypes := by decide
      unfold freeField
      rw [if_neg (apart _ ofUsage).1, if_neg fun both => (apart _ ofUsage).2 both.1]
    have sameUsed : lowered.fact "used_bytes" = reading.fact "used_bytes" :=
      lowers.fact_other (by decide) (by decide)
    unfold CosMonitor.directUsage at reported ⊢
    rw [if_pos given] at reported
    rw [lowers.factType_eq, sameTotal, sameUsed, if_pos given]
    obtain ⟨value, divided, same⟩ := Result.bind_eq_ok.mp reported
    obtain rfl := Except.ok.inj same
    have valueNumber : value ≠ .nan := numbers _ rfl
    dsimp only at divided ⊢
    by_cases used : reading.fact "used_bytes" = .null
    · rw [if_pos used] at divided ⊢
      obtain ⟨before, after, isBefore, isAfter, least, isNumber, atMost⟩ := lowers.numbers
      rw [field] at isBefore isAfter
      have looked : ∀ (observation : Observation) number,
          (observation.fact "free_bytes").pyFloat = .ok number →
            ((Json.obj observation.factValue).lookup "free_bytes").getD (.int 0) =
              observation.fact "free_bytes" := by
        intro observation number isNumber
        unfold Observation.fact Json.get at isNumber ⊢
        rcases found : (Json.obj observation.factValue).lookup "free_bytes" with - | free
        · rw [found] at isNumber
          cases isNumber
        · rfl
      rw [looked reading before isBefore] at divided
      rw [looked lowered _ isAfter]
      obtain ⟨other, dividedOther, less⟩ := usage_grows (counts.own ofUsage used)
        (counts.grows ofUsage used) divided valueNumber
      rw [dividedOther]
      exact ⟨_, rfl, .some ⟨less, List.mem_singleton_self _⟩⟩
    · rw [if_neg used] at divided ⊢
      rw [divided]
      exact ⟨_, rfl, .some ⟨le_rfl, List.mem_singleton_self _⟩⟩
  · unfold CosMonitor.directUsage at reported ⊢
    rw [if_neg given] at reported
    rw [lowers.factType_eq, sameTotal, if_neg given]
    obtain rfl := Except.ok.inj reported
    exact ⟨none, rfl, .none⟩

/-- **The share that an observation with a smaller reading reports.** -/
theorem Lowers.directNumber (lowers : Lowers reading lowered) {factType : String}
    (isPercent : factType ∈ percentTypes) {found : Option Reading}
    (reported : directNumber factType reading = .ok found) :
    ∃ next, directNumber factType lowered = .ok next ∧
      Option.Rel (Gauge.Raised lowest lowered) found next := by
  by_cases given : reading.factType = factType
  · have ofPercent : reading.factType ∈ percentTypes := given ▸ isPercent
    have field : freeField reading = "value" := by
      unfold freeField
      rw [if_pos ofPercent]
    obtain ⟨before, after, isBefore, isAfter, least, isNumber, atMost⟩ := lowers.numbers
    rw [field] at isBefore isAfter
    have read : ∀ (observation : Observation) number, (observation.fact "value").pyFloat = .ok number →
        factNumber observation "value" = .ok (some number) := by
      intro observation number isNumber
      unfold factNumber
      rw [ite_self]
      dsimp only
      rw [isNumber]
    unfold CosMonitor.directNumber at reported ⊢
    rw [if_pos given, read reading before isBefore] at reported
    rw [lowers.factType_eq, if_pos given, read lowered _ isAfter]
    obtain rfl := Except.ok.inj reported
    exact ⟨_, rfl, .some ⟨OrderDual.toDual_le_toDual.mpr atMost, List.mem_singleton_self _⟩⟩
  · have other : lowered.factType ≠ factType := lowers.factType_eq ▸ given
    rw [directNumber_silent reading given] at reported
    obtain rfl := Except.ok.inj reported
    exact ⟨none, directNumber_silent lowered other, .none⟩

theorem Lowers.usageLowering (lowers : Lowers reading lowered)
    (counts : Counts gauge group reading lowered) (reports : gauge.report = CosMonitor.directUsage gauge.factType)
    (takes : gauge.usage = PyFloat.complement) (isUsage : gauge.factType ∈ usageTypes)
    (isBytes : gauge.freeType ∈ bytesTypes) (notTotal : reading.factType ≠ gauge.totalType)
    (numbers : gauge.Numbers group) (member : reading ∈ group) :
    gauge.Lowering PyFloat.rank group reading lowered where
  factType := lowers.factType_eq
  notTotal := notTotal
  key := lowers.pairKey_eq
  report found reported := by
    have areNumbers : ∀ read ∈ found, read.value ≠ .nan := by
      rintro read rfl
      exact numbers read (.direct member reported)
    rw [reports] at reported ⊢
    exact lowers.directUsage counts isUsage reported areNumbers
  pair key total parts found made := by
    refine lowers.pairReading counts isBytes (by rw [takes]; rfl) ?_ numbers parts made
    intro share other isShare isOther less
    rw [takes]
    exact PyFloat.rank_complement isOther isShare less

theorem Lowers.shareLowering (lowers : Lowers reading lowered)
    (counts : Counts gauge group reading lowered)
    (reports : gauge.report = CosMonitor.directNumber gauge.factType)
    (takes : gauge.usage = id) (isPercent : gauge.factType ∈ percentTypes)
    (isBytes : gauge.freeType ∈ bytesTypes) (notTotal : reading.factType ≠ gauge.totalType)
    (numbers : gauge.Numbers group) :
    gauge.Lowering lowest group reading lowered where
  factType := lowers.factType_eq
  notTotal := notTotal
  key := lowers.pairKey_eq
  report found reported := by
    rw [reports] at reported ⊢
    exact lowers.directNumber isPercent reported
  pair key total parts found made := by
    refine lowers.pairReading counts isBytes (by rw [takes]; rfl) ?_ numbers parts made
    intro share other isShare isOther less
    rw [takes]
    exact OrderDual.toDual_le_toDual.mpr less

end Free

end CosMonitor
