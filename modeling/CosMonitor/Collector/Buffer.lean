/-
**The buffer of the consumer: what it keeps, and what saving its evidence does.**

* `prunePending_eq`: what is inside the retention of every buffered observation stays;
* `saveCreations_cons`: one creation of the loop over the evidence;
* `saveCreations_part`: the evidence of a tenant is what its own creations make of it;
* `retainedPart_idem`, `saveCreations_idem`: pruning and saving again change nothing.
-/

import CosMonitor.Collector.Consumer

namespace CosMonitor

/-! ### Pruning -/

section Pruning

/-- The datetimes of the captures are all naive or all aware. -/
def SameAwareness (window : List Observation) : Prop :=
  ∀ first ∈ window, ∀ other ∈ window,
    first.capturedAt.offset.isSome = other.capturedAt.offset.isSome

/-- An observation is inside the retention of every observation of a buffer. -/
def Retained (retention : Timestamp) (window : List Observation) (observation : Observation) : Prop :=
  ∀ other ∈ window, other.capturedAt.instant - retention ≤ observation.capturedAt.instant

instance (retention : Timestamp) (window : List Observation) (observation : Observation) :
    Decidable (Retained retention window observation) :=
  inferInstanceAs (Decidable (∀ other ∈ window, _))

/-- What the pruning keeps. -/
def retainedPart (retention : Timestamp) (window : List Observation) : List Observation :=
  window.filter fun observation => decide (Retained retention window observation)

variable {retention : Timestamp} {window : List Observation} {first latest : PyDatetime}

theorem latestCapture_spec (retention : Timestamp) (found : latestCapture first window = .ok latest) :
    (∀ observation ∈ window, observation.capturedAt.offset.isSome = first.offset.isSome) ∧
      (∀ cutoff, latest.instant - retention ≤ cutoff ↔
        first.instant - retention ≤ cutoff ∧
          ∀ observation ∈ window, observation.capturedAt.instant - retention ≤ cutoff) := by
  induction window generalizing first with
  | nil =>
      cases found
      simp
  | cons observation rest ih =>
      unfold latestCapture at found
      split at found
      · cases found
      · rename_i later compared
        unfold PyDatetime.lt at compared
        split at compared
        · rename_i same
          have isLater : decide (first.instant < observation.capturedAt.instant) = later :=
            Except.ok.inj compared
          obtain ⟨aware, cut⟩ := ih found
          by_cases older : first.instant < observation.capturedAt.instant
          · rw [← isLater, decide_eq_true older, if_pos rfl] at aware cut
            refine ⟨?_, fun cutoff => (cut cutoff).trans ?_⟩
            · simp only [List.forall_mem_cons]
              exact ⟨same.symm, fun other member => (aware other member).trans same.symm⟩
            · simp only [List.forall_mem_cons]
              constructor
              · rintro ⟨own, others⟩
                exact ⟨(sub_le_sub_right older.le retention).trans own, own, others⟩
              · exact fun ⟨_, own, others⟩ => ⟨own, others⟩
          · rw [← isLater, decide_eq_false older, if_neg Bool.false_ne_true] at aware cut
            refine ⟨?_, fun cutoff => (cut cutoff).trans ?_⟩
            · simp only [List.forall_mem_cons]
              exact ⟨same.symm, aware⟩
            · simp only [List.forall_mem_cons]
              constructor
              · rintro ⟨own, others⟩
                exact ⟨own, (sub_le_sub_right (not_lt.mp older) retention).trans own, others⟩
              · exact fun ⟨own, _, others⟩ => ⟨own, others⟩
        · cases compared

theorem latestCapture_returns
    (aware : ∀ observation ∈ window, observation.capturedAt.offset.isSome = first.offset.isSome) :
    ∃ latest, latestCapture first window = .ok latest := by
  induction window generalizing first with
  | nil => exact ⟨first, rfl⟩
  | cons observation rest ih =>
      have same : first.offset.isSome = observation.capturedAt.offset.isSome :=
        (aware observation List.mem_cons_self).symm
      unfold latestCapture PyDatetime.lt
      rw [if_pos same]
      dsimp only
      split
      · refine ih fun other member => ?_
        rw [aware other (List.mem_cons_of_mem _ member), same]
      · exact ih fun other member => aware other (List.mem_cons_of_mem _ member)

/-- **The pruning of a buffer**: it raises on naive and aware captures, and keeps what is inside the
retention of every observation. -/
theorem prunePending_eq (retention : Timestamp) (window : List Observation) :
    (SameAwareness window → prunePending retention window = .ok (retainedPart retention window)) ∧
      (¬SameAwareness window → ∃ failure, prunePending retention window = .error failure) := by
  unfold prunePending
  split
  · exact ⟨fun _ => rfl, fun mixed => (mixed (by simp [SameAwareness])).elim⟩
  · rename_i observation rest
    constructor
    · intro same
      obtain ⟨latest, found⟩ : ∃ latest, latestCapture observation.capturedAt rest = .ok latest :=
        latestCapture_returns fun other member =>
          same other (List.mem_cons_of_mem _ member) observation List.mem_cons_self
      have cut := (latestCapture_spec retention found).2
      rw [found]
      show Except.ok _ = Except.ok _
      refine congrArg _ (List.filter_congr fun other _ => decide_eq_decide.mpr ?_)
      rw [cut]
      simp [Retained]
    · intro mixed
      cases found : latestCapture observation.capturedAt rest with
      | error failure => exact ⟨failure, rfl⟩
      | ok latest =>
          have aware := (latestCapture_spec retention found).1
          refine (mixed fun one oneIn other otherIn => ?_).elim
          have ofFirst : ∀ any ∈ observation :: rest,
              any.capturedAt.offset.isSome = observation.capturedAt.offset.isSome := by
            exact List.forall_mem_cons.mpr ⟨rfl, aware⟩
          rw [ofFirst one oneIn, ofFirst other otherIn]

theorem prunePending_sub {pruned : List Observation}
    (kept : prunePending retention window = .ok pruned) : ∀ observation ∈ pruned, observation ∈ window := by
  by_cases same : SameAwareness window
  · rw [(prunePending_eq retention window).1 same] at kept
    rw [← Except.ok.inj kept]
    exact fun observation member => (List.mem_filter.mp member).1
  · obtain ⟨failure, raised⟩ := (prunePending_eq retention window).2 same
    rw [raised] at kept
    cases kept

theorem retainedPart_idem (retention : Timestamp) (window : List Observation) :
    retainedPart retention (retainedPart retention window) = retainedPart retention window := by
  refine List.filter_eq_self.mpr fun observation member => decide_eq_true fun other otherIn => ?_
  have retained : Retained retention window observation :=
    of_decide_eq_true (List.mem_filter.mp member).2
  exact retained other (List.mem_filter.mp otherIn).1

end Pruning

/-! ### Saving -/

section Saving

/-- An evidence without the time of its organization. -/
def Evidence.undated (evidence : Evidence) : Evidence :=
  { evidence with organizedAt := 0 }

/-- The evidence of a tenant, without the times. -/
def evidenceOf (tenant : Uuid) (rows : List Evidence) : List Evidence :=
  (rows.filter fun row => decide (row.tenantId = tenant)).map Evidence.undated

/-- The id that an evidence of a creation gets. -/
def EvidenceCreate.id (std : Stdlib) (create : EvidenceCreate) : Uuid :=
  evidenceId std create.tenantId create.organizationType create.observationIds

/-- The database takes the evidence of a creation. -/
def EvidenceCreate.Accepted (tenants : List Uuid) (create : EvidenceCreate) : Prop :=
  create.tenantId ∈ tenants ∧ hasNul (.str create.description) = false

variable {std : Stdlib} {tenants : List Uuid} {now : Timestamp} {create : EvidenceCreate}
  {rows saved : List Evidence} {creations : List EvidenceCreate}

theorem insertEvidence_eq (std : Stdlib) (tenants : List Uuid) (now : Timestamp)
    (create : EvidenceCreate) (rows : List Evidence) :
    insertEvidence tenants (buildEvidence std now create) rows =
      if hasNul (.str create.description) = true then .error .nulCharacter
      else if ∃ row ∈ rows, row.id = create.id std then .ok rows
      else if create.tenantId ∈ tenants then .ok (rows ++ [buildEvidence std now create])
      else .error (.foreignKeyViolation "tenant_id") := by
  unfold insertEvidence
  by_cases nul : hasNul (.str create.description) = true
  · rw [if_pos nul]
    exact if_pos nul
  · rw [if_neg nul]
    show (if hasNul (.str create.description) = true then _ else _) = _
    rw [if_neg nul]
    by_cases stored : ∃ row ∈ rows, row.id = create.id std
    · obtain ⟨row, member, same⟩ := stored
      rw [if_pos ⟨row, member, same⟩]
      unfold saveEvidence
      have isNone : Table.insertAbsent Evidence.id (buildEvidence std now create) rows = (none, rows) :=
        Table.insertAbsent_of_mem member same
      rw [isNone]
    · rw [if_neg stored]
      have fresh : ∀ row ∈ rows, row.id ≠ (buildEvidence std now create).id :=
        fun row member same => stored ⟨row, member, same⟩
      unfold saveEvidence
      rw [Table.insertAbsent_of_fresh fresh]
      rfl

theorem saveCreations_cons (std : Stdlib) (tenants : List Uuid) (now : Timestamp)
    (create : EvidenceCreate) (rest : List EvidenceCreate) (rows : List Evidence) :
    saveCreations std tenants now (create :: rest) rows =
      if hasNul (.str create.description) = true then rows
      else if ∃ row ∈ rows, row.id = create.id std then saveCreations std tenants now rest rows
      else if create.tenantId ∈ tenants then
        saveCreations std tenants now rest (rows ++ [buildEvidence std now create])
      else rows := by
  rw [saveCreations, insertEvidence_eq]
  by_cases nul : hasNul (.str create.description) = true
  · rw [if_pos nul, if_pos nul]
  rw [if_neg nul, if_neg nul]
  by_cases found : ∃ row ∈ rows, row.id = create.id std
  · rw [if_pos found, if_pos found]
  rw [if_neg found, if_neg found]
  by_cases known : create.tenantId ∈ tenants
  · rw [if_pos known, if_pos known]
  · rw [if_neg known, if_neg known]

theorem evidenceOf_append (tenant : Uuid) (std : Stdlib) (now : Timestamp) (create : EvidenceCreate)
    (rows : List Evidence) :
    evidenceOf tenant (rows ++ [buildEvidence std now create]) =
      if create.tenantId = tenant then evidenceOf tenant rows ++ [buildEvidence std 0 create]
      else evidenceOf tenant rows := by
  unfold evidenceOf
  rw [List.filter_append, List.map_append]
  by_cases own : create.tenantId = tenant
  · rw [if_pos own]
    simp [buildEvidence, own, Evidence.undated]
  · rw [if_neg own]
    simp [buildEvidence, own]

theorem saveCreations_others {tenant : Uuid} (others : ∀ create ∈ creations, create.tenantId ≠ tenant) :
    evidenceOf tenant (saveCreations std tenants now creations rows) = evidenceOf tenant rows := by
  induction creations generalizing rows with
  | nil => rfl
  | cons create rest ih =>
      have remaining : ∀ rows, evidenceOf tenant (saveCreations std tenants now rest rows) =
          evidenceOf tenant rows := fun rows =>
        ih fun other member => others other (List.mem_cons_of_mem _ member)
      rw [saveCreations_cons]
      split
      · rfl
      split
      · exact remaining rows
      split
      · rw [remaining, evidenceOf_append, if_neg (others create List.mem_cons_self)]
      · rfl

/-- The evidence of a creation is not taken for evidence of another tenant. -/
def IdsApart (std : Stdlib) (tenant : Uuid) (creations : List EvidenceCreate) (rows : List Evidence) :
    Prop :=
  ∀ create ∈ creations, create.tenantId = tenant →
    (∀ row ∈ rows, row.tenantId ≠ tenant → row.id ≠ create.id std) ∧
      ∀ other ∈ creations, other.tenantId ≠ tenant → other.id std ≠ create.id std

/-- **The evidence of a tenant** is what its own creations make of it. -/
theorem saveCreations_part {tenant : Uuid}
    (accepted : ∀ create ∈ creations, create.tenantId ≠ tenant → create.Accepted tenants)
    (apart : IdsApart std tenant creations rows) :
    evidenceOf tenant (saveCreations std tenants now creations rows) =
      saveCreations std tenants 0
        (creations.filter fun create => decide (create.tenantId = tenant)) (evidenceOf tenant rows) := by
  induction creations generalizing rows with
  | nil => rfl
  | cons create rest ih =>
      have restAccepted : ∀ other ∈ rest, other.tenantId ≠ tenant → other.Accepted tenants :=
        fun other member => accepted other (List.mem_cons_of_mem _ member)
      have restApart : IdsApart std tenant rest rows := fun one member own =>
        (apart one (List.mem_cons_of_mem _ member) own).imp_right
          fun others other otherIn => others other (List.mem_cons_of_mem _ otherIn)
      by_cases own : create.tenantId = tenant
      · obtain ⟨stored, _⟩ := apart create List.mem_cons_self own
        have exists_iff : (∃ row ∈ evidenceOf tenant rows, row.id = create.id std) ↔
            ∃ row ∈ rows, row.id = create.id std := by
          constructor
          · rintro ⟨_, member, same⟩
            obtain ⟨row, inRows, rfl⟩ := List.mem_map.mp member
            exact ⟨row, (List.mem_filter.mp inRows).1, same⟩
          · rintro ⟨row, member, same⟩
            have ofTenant : row.tenantId = tenant := by
              by_contra other
              exact stored row member other same
            exact ⟨row.undated, List.mem_map_of_mem
              (List.mem_filter.mpr ⟨member, decide_eq_true ofTenant⟩), same⟩
        rw [List.filter_cons_of_pos (by simpa using own), saveCreations_cons, saveCreations_cons]
        simp only [exists_iff]
        split
        · rfl
        split
        · exact ih restAccepted restApart
        split
        · have added := evidenceOf_append tenant std now create rows
          rw [if_pos own] at added
          rw [← added]
          refine ih restAccepted fun one member isOwn => ?_
          refine ⟨fun row rowIn other => ?_, (restApart one member isOwn).2⟩
          rcases List.mem_append.mp rowIn with old | new
          · exact (restApart one member isOwn).1 row old other
          · rw [List.mem_singleton.mp new] at other
            exact (other own).elim
        · rfl
      · obtain ⟨known, noNul⟩ := accepted create List.mem_cons_self own
        rw [List.filter_cons_of_neg (by simpa using own), saveCreations_cons,
          if_neg (by rw [noNul]; exact Bool.false_ne_true)]
        split
        · exact ih restAccepted restApart
        · have kept := evidenceOf_append tenant std now create rows
          rw [if_neg own] at kept
          rw [← kept]
          refine ih restAccepted fun one member isOwn => ?_
          refine ⟨fun row rowIn other => ?_, (restApart one member isOwn).2⟩
          rcases List.mem_append.mp rowIn with old | new
          · exact (restApart one member isOwn).1 row old other
          · rw [List.mem_singleton.mp new]
            exact (apart one (List.mem_cons_of_mem _ member) isOwn).2 create List.mem_cons_self own

theorem saveCreations_grows {row : Evidence} (member : row ∈ rows) :
    row ∈ saveCreations std tenants now creations rows := by
  induction creations generalizing rows with
  | nil => exact member
  | cons create rest ih =>
      rw [saveCreations_cons]
      split
      · exact member
      split
      · exact ih member
      split
      · exact ih (List.mem_append_left _ member)
      · exact member

theorem saveCreations_idem (std : Stdlib) (tenants : List Uuid) (now later : Timestamp)
    (creations : List EvidenceCreate) (rows : List Evidence) :
    saveCreations std tenants later creations (saveCreations std tenants now creations rows) =
      saveCreations std tenants now creations rows := by
  induction creations generalizing rows with
  | nil => rfl
  | cons create rest ih =>
      rw [saveCreations_cons std tenants now]
      by_cases nul : hasNul (.str create.description) = true
      · rw [if_pos nul, saveCreations_cons, if_pos nul]
      rw [if_neg nul]
      by_cases found : ∃ row ∈ rows, row.id = create.id std
      · obtain ⟨row, member, same⟩ := found
        rw [if_pos ⟨row, member, same⟩, saveCreations_cons, if_neg nul,
          if_pos ⟨row, saveCreations_grows member, same⟩]
        exact ih rows
      rw [if_neg found]
      by_cases known : create.tenantId ∈ tenants
      · have stored : buildEvidence std now create ∈
            saveCreations std tenants now rest (rows ++ [buildEvidence std now create]) :=
          saveCreations_grows (List.mem_append_right _ (List.mem_singleton_self _))
        rw [if_pos known, saveCreations_cons, if_neg nul, if_pos ⟨_, stored, rfl⟩]
        exact ih _
      · rw [if_neg known, saveCreations_cons, if_neg nul, if_neg found, if_neg known]

end Saving

/-! ### Organizing -/

section Organizing

variable {env : ConsumerEnv} {now : Timestamp} {state : ConsumerState}

theorem organizePending_off (off : env.evidenceStore ≠ true) :
    (organizePending env now state).2 = state := by
  unfold organizePending
  rw [if_neg off]

theorem organizePending_mixed (mixed : ¬SameAwareness state.window) :
    (organizePending env now state).2 = state := by
  obtain ⟨failure, raised⟩ := (prunePending_eq env.organizer.retention _).2 mixed
  unfold organizePending
  split
  · rw [raised]
  · rfl

theorem organizePending_eq (store : env.evidenceStore = true) (same : SameAwareness state.window) :
    (organizePending env now state).2 =
      match env.organizer.organize (retainedPart env.organizer.retention state.window) with
      | .error _ => { state with window := retainedPart env.organizer.retention state.window }
      | .ok creations => { state with
          window := retainedPart env.organizer.retention state.window
          evidence := saveCreations env.std env.tenants now creations state.evidence } := by
  unfold organizePending
  rw [if_pos store, (prunePending_eq env.organizer.retention _).1 same]
  dsimp only
  cases env.organizer.organize (retainedPart env.organizer.retention state.window) with
  | error failure => rfl
  | ok creations => rfl

/-- **Organizing again changes nothing.** -/
theorem organizePending_idem (env : ConsumerEnv) (now later : Timestamp) (state : ConsumerState) :
    (organizePending env later (organizePending env now state).2).2 =
      (organizePending env now state).2 := by
  by_cases store : env.evidenceStore = true
  swap
  · rw [organizePending_off store]
  by_cases same : SameAwareness state.window
  swap
  · rw [organizePending_mixed same, organizePending_mixed same]
  have sameAgain : SameAwareness (retainedPart env.organizer.retention state.window) :=
    fun first firstIn other otherIn =>
      same first (List.mem_filter.mp firstIn).1 other (List.mem_filter.mp otherIn).1
  rw [organizePending_eq store same]
  cases organized : env.organizer.organize (retainedPart env.organizer.retention state.window) with
  | error failure =>
      dsimp only
      rw [organizePending_eq store sameAgain]
      dsimp only
      rw [retainedPart_idem, organized]
  | ok creations =>
      dsimp only
      rw [organizePending_eq store sameAgain]
      dsimp only
      rw [retainedPart_idem, organized]
      dsimp only
      rw [saveCreations_idem]

end Organizing

end CosMonitor
