/-
**Two tenants in one collector.**

The buffer, its pruning, the groups of the rules and the loop over a batch are shared by the tenants. What
a tenant sees of a collector are its rows, its evidence and its buffered observations.

* `Isolated`: an action in which the others leave a tenant alone;
* `collectorStep_ofTenant`, `run_ofTenant`: what the tenant then sees is what it sees of a collector that
  receives its observations only;
* `tenant_isolated`: two such runs with the same observations of the tenant in their cycles;
* `tenant_disturbed`: one newer observation of another tenant drops the observations of a tenant.
-/

import CosMonitor.Collector.Buffer
import CosMonitor.Collector.Delivery
import CosMonitor.Collector.Engine

namespace CosMonitor

/-! ### What a tenant sees -/

section View

variable {env : ConsumerEnv} {tenant : Uuid} {state : ConsumerState} {rows : List Observation}
  {observation : Observation} {fault : Option EntryFault}

/-- The observations of a tenant. -/
def ownPart (tenant : Uuid) : List Observation → List Observation :=
  tenantPart fun other => decide (other = tenant)

/-- The observations of the other tenants. -/
def othersPart (tenant : Uuid) : List Observation → List Observation :=
  tenantPart fun other => !decide (other = tenant)

theorem mem_ownPart {window : List Observation} :
    observation ∈ ownPart tenant window ↔ observation ∈ window ∧ observation.tenantId = tenant := by
  simp [ownPart, tenantPart]

/-- What a tenant sees of a collector: its rows, its evidence and its buffered observations. -/
def ConsumerState.ofTenant (tenant : Uuid) (state : ConsumerState) : ConsumerState where
  bus := { stream := [], delivered := 0, pending := [] }
  observations := ownPart tenant state.observations
  evidence := evidenceOf tenant state.evidence
  window := ownPart tenant state.window

/-- The observations that a batch hands to the loop, with what is raised for each. -/
def arrivals (env : ConsumerEnv) :
    List (EntryFields × Nat) → List (Option EntryFault) → List (Observation × Option EntryFault)
  | [], _ => []
  | (fields, _) :: rest, faults =>
      match env.codec.decode fields with
      | .error _ => []
      | .ok observation => (observation, faults.head?.join) :: arrivals env rest faults.tail

/-- The arrivals of a tenant. -/
def ownArrivals (tenant : Uuid) (arrived : List (Observation × Option EntryFault)) :
    List (Observation × Option EntryFault) :=
  arrived.filter fun arrival => decide (arrival.1.tenantId = tenant)

/-- The loop over the arrivals alone. -/
def receive (env : ConsumerEnv) (arrived : List (Observation × Option EntryFault))
    (state : ConsumerState) : ConsumerState :=
  arrived.foldl (fun state arrival => handleEntry env 0 arrival.1 arrival.2 state) state

/-- No row and no arrival of another tenant has the key of an arrival of the tenant. -/
def KeysApart (tenant : Uuid) (rows : List Observation)
    (arrived : List (Observation × Option EntryFault)) : Prop :=
  ∀ arrival ∈ arrived, arrival.1.tenantId = tenant →
    (∀ row ∈ rows, row.tenantId ≠ tenant → row.key ≠ arrival.1.key) ∧
      ∀ other ∈ arrived, other.1.tenantId ≠ tenant → other.1.key ≠ arrival.1.key

theorem saveObservation_fresh (fresh : observationExists observation rows = false) :
    saveObservation env.tenants observation rows =
      (saveObservation env.tenants observation []).map (rows ++ ·) := by
  have empty : observationExists observation [] = false := rfl
  unfold saveObservation
  rw [fresh, empty]
  cases varchar 50 observation.sourceType with
  | error failure => rfl
  | ok sourceType =>
      cases varchar 100 observation.factType with
      | error failure => rfl
      | ok factType =>
          cases varchar 20 observation.unit with
          | error failure => rfl
          | ok unit =>
              cases jsonb (.obj observation.factValue) with
              | error failure => rfl
              | ok factValue =>
                  cases jsonb (.obj observation.rawPayload) with
                  | error failure => rfl
                  | ok rawPayload =>
                      by_cases known : observation.tenantId ∉ env.tenants
                      · simp [bind, Except.bind, known, throw, throwThe, MonadExceptOf.throw, Except.map]
                      · simp [bind, Except.bind, known, pure, Except.pure, Except.map]

theorem persistObservation_adds {after : List Observation}
    (persisted : persistObservation env observation fault rows = some after) :
    after = rows ∨ ∃ row, row.key = observation.key ∧ row.tenantId = observation.tenantId ∧
      after = rows ++ [row] := by
  unfold persistObservation at persisted
  split at persisted
  · cases persisted
  split at persisted
  · exact .inl (Option.some.inj persisted).symm
  · cases saved : saveObservation env.tenants observation rows with
    | error failure =>
        rw [saved] at persisted
        cases persisted
    | ok found =>
        rw [saved] at persisted
        cases persisted
        exact .inr (saveObservation_adds saved)

/-- **Persisting an observation of a tenant** depends on the rows of the tenant alone, where no other
row has its key. -/
theorem persistObservation_own (own : observation.tenantId = tenant)
    (apart : ∀ row ∈ rows, row.tenantId ≠ tenant → row.key ≠ observation.key) :
    persistObservation env observation fault (ownPart tenant rows) =
      (persistObservation env observation fault rows).map (ownPart tenant) := by
  have sameExists : observationExists observation (ownPart tenant rows) =
      observationExists observation rows := by
    rw [Bool.eq_iff_iff]
    simp only [observationExists, List.any_eq_true, decide_eq_true_eq]
    constructor
    · rintro ⟨row, member, same⟩
      exact ⟨row, (mem_ownPart.mp member).1, same⟩
    · rintro ⟨row, member, same⟩
      refine ⟨row, mem_ownPart.mpr ⟨member, ?_⟩, same⟩
      by_contra other
      exact apart row member other same
  unfold persistObservation
  rw [sameExists]
  split
  · rfl
  split
  · rfl
  · rename_i _ absent
    have fresh : observationExists observation rows = false := eq_false_of_ne_true absent
    rw [saveObservation_fresh fresh, saveObservation_fresh (sameExists.trans fresh)]
    cases saved : saveObservation env.tenants observation [] with
    | error failure => rfl
    | ok found =>
        obtain ⟨row, _, sameTenant, rfl⟩ := saveObservation_adds saved
        show some (ownPart tenant rows ++ [row]) = some (ownPart tenant (rows ++ [row]))
        unfold ownPart tenantPart
        rw [List.filter_append]
        simp [sameTenant, own]

theorem handleEntry_other (other : observation.tenantId ≠ tenant) (position : Nat) :
    (handleEntry env position observation fault state).ofTenant tenant = state.ofTenant tenant := by
  unfold handleEntry
  split
  · rfl
  · rename_i after persisted
    have sameRows : ownPart tenant after = ownPart tenant state.observations := by
      rcases persistObservation_adds persisted with rfl | ⟨row, _, sameTenant, rfl⟩
      · rfl
      · unfold ownPart tenantPart
        rw [List.filter_append]
        simp [sameTenant, other]
    split
    · unfold ConsumerState.ofTenant
      rw [sameRows]
    · unfold ConsumerState.ofTenant
      dsimp only
      rw [sameRows]
      unfold ownPart tenantPart
      rw [List.filter_append]
      simp [other]

/-- **The entry of the tenant**, as it is handled on what the tenant sees. -/
theorem handleEntry_own (own : observation.tenantId = tenant) (position : Nat)
    (apart : ∀ row ∈ state.observations, row.tenantId ≠ tenant → row.key ≠ observation.key) :
    (handleEntry env position observation fault state).ofTenant tenant =
      handleEntry env 0 observation fault (state.ofTenant tenant) := by
  have same : persistObservation env observation fault (state.ofTenant tenant).observations =
      (persistObservation env observation fault state.observations).map (ownPart tenant) :=
    persistObservation_own own apart
  unfold handleEntry
  rw [same]
  cases persistObservation env observation fault state.observations with
  | none => rfl
  | some after =>
      rw [Option.map_some]
      dsimp only
      by_cases acknowledged : fault = some .acknowledge
      · rw [if_pos acknowledged, if_pos acknowledged]
        rfl
      · rw [if_neg acknowledged, if_neg acknowledged]
        unfold ConsumerState.ofTenant ownPart tenantPart
        dsimp only
        rw [List.filter_append]
        simp [own, BusState.ack]

/-- **The loop over a batch**, as the tenant sees it: its own arrivals. -/
theorem handleEntries_ofTenant (state : ConsumerState) {entries : List (EntryFields × Nat)}
    {faults : List (Option EntryFault)}
    (apart : KeysApart tenant state.observations (arrivals env entries faults)) :
    (handleEntries env entries faults state).2.ofTenant tenant =
      receive env (ownArrivals tenant (arrivals env entries faults)) (state.ofTenant tenant) := by
  induction entries generalizing faults state with
  | nil => rfl
  | cons entry rest ih =>
      obtain ⟨fields, position⟩ := entry
      unfold handleEntries
      unfold arrivals at apart ⊢
      cases decoded : env.codec.decode fields with
      | error failure => rfl
      | ok observation =>
          rw [decoded] at apart
          dsimp only at apart ⊢
          have restApart : KeysApart tenant
              (handleEntry env position observation faults.head?.join state).observations
              (arrivals env rest faults.tail) := by
            intro arrival member own
            obtain ⟨stored, others⟩ := apart arrival (List.mem_cons_of_mem _ member) own
            refine ⟨fun row rowIn other => ?_, fun one oneIn => others one (List.mem_cons_of_mem _ oneIn)⟩
            unfold handleEntry at rowIn
            split at rowIn
            · exact stored row rowIn other
            · rename_i after persisted
              have inAfter : row ∈ after := by
                split at rowIn
                · exact rowIn
                · exact rowIn
              rcases persistObservation_adds persisted with rfl | ⟨added, sameKey, sameTenant, rfl⟩
              · exact stored row inAfter other
              · rcases List.mem_append.mp inAfter with old | new
                · exact stored row old other
                · rw [List.mem_singleton.mp new] at other ⊢
                  rw [sameTenant] at other
                  rw [sameKey]
                  exact others _ List.mem_cons_self other
          rw [ih _ restApart]
          unfold ownArrivals
          by_cases own : observation.tenantId = tenant
          · rw [List.filter_cons_of_pos (by simpa using own), handleEntry_own own position
              (apart _ List.mem_cons_self own).1]
            rfl
          · rw [List.filter_cons_of_neg (by simpa using own), handleEntry_other own position]

/-! ### Organizing -/

/-- The others leave the organization of the buffer to the tenant: their captures compare with its own
and are not so new that they drop an observation of it, no source is shared, the rules raise nothing on
the observations of the others, and the database takes their evidence under ids of its own. -/
structure BufferApart (env : ConsumerEnv) (tenant : Uuid) (state : ConsumerState) : Prop where
  awareness : ∀ observation ∈ state.window, ∃ own ∈ ownPart tenant state.window,
    own.capturedAt.offset.isSome = observation.capturedAt.offset.isSome
  retained : ∀ own ∈ ownPart tenant state.window,
    Retained env.organizer.retention (ownPart tenant state.window) own →
      Retained env.organizer.retention state.window own
  sources : SourcesApart (fun other => decide (other = tenant))
    (retainedPart env.organizer.retention state.window)
  others : ∃ creations,
    env.organizer.organize (othersPart tenant (retainedPart env.organizer.retention state.window)) =
      .ok creations ∧ ∀ create ∈ creations, create.Accepted env.tenants
  ids : ∀ creations,
    env.organizer.organize (retainedPart env.organizer.retention state.window) = .ok creations →
      IdsApart env.std tenant creations state.evidence

theorem BufferApart.sameAwareness (apart : BufferApart env tenant state) :
    SameAwareness state.window ↔ SameAwareness (ownPart tenant state.window) := by
  constructor
  · exact fun same first firstIn other otherIn =>
      same first (mem_ownPart.mp firstIn).1 other (mem_ownPart.mp otherIn).1
  · intro same first firstIn other otherIn
    obtain ⟨ownFirst, isOwn, sameFirst⟩ := apart.awareness first firstIn
    obtain ⟨ownOther, isOwnOther, sameOther⟩ := apart.awareness other otherIn
    rw [← sameFirst, ← sameOther]
    exact same ownFirst isOwn ownOther isOwnOther

theorem BufferApart.retainedPart_own (apart : BufferApart env tenant state) :
    ownPart tenant (retainedPart env.organizer.retention state.window) =
      retainedPart env.organizer.retention (ownPart tenant state.window) := by
  unfold retainedPart
  show (state.window.filter _).filter _ = _
  rw [List.filter_comm]
  refine List.filter_congr fun observation member => decide_eq_decide.mpr ?_
  constructor
  · exact fun retained other otherIn => retained other (mem_ownPart.mp otherIn).1
  · exact apart.retained observation member

variable {texts : RuleTexts} {config : OrganizerConfig}

theorem organizePending_absent (built : env.organizer = organizerEngine texts config)
    (now : Timestamp) (absent : ownPart tenant state.window = []) :
    (organizePending env now state).2.ofTenant tenant = state.ofTenant tenant := by
  unfold organizePending
  split
  swap
  · rfl
  cases pruned : prunePending env.organizer.retention state.window with
  | error failure => rfl
  | ok window =>
      have emptyToo : ownPart tenant window = [] := by
        refine List.eq_nil_iff_forall_not_mem.mpr fun observation member => ?_
        obtain ⟨inWindow, own⟩ := mem_ownPart.mp member
        have inOwn := mem_ownPart.mpr ⟨prunePending_sub pruned observation inWindow, own⟩
        rw [absent] at inOwn
        cases inOwn
      rw [built]
      dsimp only
      cases organized : (organizerEngine texts config).organize window with
      | error failure =>
          unfold ConsumerState.ofTenant
          dsimp only
          rw [emptyToo, absent]
      | ok creations =>
          have others : ∀ create ∈ creations, create.tenantId ≠ tenant := by
            intro create member own
            obtain ⟨observation, inWindow, same⟩ := organize_tenants organized member
            have inOwn := mem_ownPart.mpr ⟨inWindow, same.trans own⟩
            rw [emptyToo] at inOwn
            cases inOwn
          unfold ConsumerState.ofTenant
          dsimp only
          rw [emptyToo, absent, saveCreations_others others]

theorem organizePending_empty (built : env.organizer = organizerEngine texts config)
    (now : Timestamp) (empty : state.window = []) : (organizePending env now state).2 = state := by
  have pruned : prunePending env.organizer.retention state.window = .ok [] := by
    rw [empty]
    rfl
  have organized : env.organizer.organize [] = .ok [] := by
    rw [built]
    rfl
  unfold organizePending
  split
  · rw [pruned]
    dsimp only
    rw [organized, ← empty]
    rfl
  · rfl

theorem BufferApart.creations (built : env.organizer = organizerEngine texts config)
    (apart : BufferApart env tenant state) :
    let kept := retainedPart env.organizer.retention state.window
    (∃ creations, env.organizer.organize kept = .ok creations ∧
        env.organizer.organize (ownPart tenant kept) =
          .ok (creations.filter fun create => decide (create.tenantId = tenant)) ∧
        ∀ create ∈ creations, create.tenantId ≠ tenant → create.Accepted env.tenants) ∨
      ∃ failure ownFailure, env.organizer.organize kept = .error failure ∧
        env.organizer.organize (ownPart tenant kept) = .error ownFailure := by
  intro kept
  have engine : env.organizer.organize = organize texts config := by
    rw [built]
    rfl
  obtain ⟨others, organizedOthers, accepted⟩ := apart.others
  rw [engine] at organizedOthers ⊢
  cases organized : organize texts config kept with
  | ok creations =>
      have othersApart : SourcesApart (fun other => !decide (other = tenant)) kept :=
        fun first firstIn other otherIn sameSource =>
          congrArg not (apart.sources first firstIn other otherIn sameSource)
      have isOthers : others = creations.filter fun create => !decide (create.tenantId = tenant) :=
        Except.ok.inj (organizedOthers.symm.trans (organize_part othersApart organized))
      refine .inl ⟨creations, rfl, organize_part apart.sources organized, fun create member other => ?_⟩
      refine accepted create ?_
      rw [isOthers]
      exact List.mem_filter.mpr ⟨member, by simpa using other⟩
  | error failure =>
      cases ownOrganized : organize texts config (ownPart tenant kept) with
      | error ownFailure => exact .inr ⟨failure, ownFailure, rfl, rfl⟩
      | ok own =>
          obtain ⟨creations, whole⟩ := organize_whole apart.sources ownOrganized organizedOthers
          rw [whole] at organized
          cases organized

/-- **The organization of the buffer**, as the tenant sees it. -/
theorem organizePending_ofTenant (built : env.organizer = organizerEngine texts config)
    (now : Timestamp)
    (apart : env.evidenceStore = true → ownPart tenant state.window ≠ [] → BufferApart env tenant state) :
    (organizePending env now state).2.ofTenant tenant =
      (organizePending env 0 (state.ofTenant tenant)).2 := by
  by_cases empty : ownPart tenant state.window = []
  · have alone : (organizePending env 0 (state.ofTenant tenant)).2 = state.ofTenant tenant :=
      organizePending_empty built 0 empty
    rw [alone, organizePending_absent built now empty]
  by_cases store : env.evidenceStore = true
  swap
  · rw [organizePending_off store, organizePending_off store]
  have apart := apart store empty
  by_cases same : SameAwareness state.window
  swap
  · have mixed : ¬SameAwareness (state.ofTenant tenant).window := mt apart.sameAwareness.mpr same
    rw [organizePending_mixed same, organizePending_mixed mixed]
  have sameOwn : SameAwareness (state.ofTenant tenant).window := apart.sameAwareness.mp same
  have ownWindow : retainedPart env.organizer.retention (state.ofTenant tenant).window =
      ownPart tenant (retainedPart env.organizer.retention state.window) := apart.retainedPart_own.symm
  rw [organizePending_eq store same, organizePending_eq store sameOwn, ownWindow]
  rcases apart.creations built with ⟨creations, organized, ownOrganized, accepted⟩ |
    ⟨failure, ownFailure, raised, ownRaised⟩
  · have evidence : evidenceOf tenant (saveCreations env.std env.tenants now creations state.evidence) =
        saveCreations env.std env.tenants 0
          (creations.filter fun create => decide (create.tenantId = tenant))
          (state.ofTenant tenant).evidence := saveCreations_part accepted (apart.ids _ organized)
    rw [organized, ownOrganized]
    dsimp only
    rw [← evidence]
    rfl
  · rw [raised, ownRaised]
    rfl

/-! ### Runs -/

/-- What an action hands to the loop of the observations of a tenant. -/
inductive Portion where
  | cycle (arrived : List (Observation × Option EntryFault))
  /-- the process ends after them -/
  | restart (arrived : List (Observation × Option EntryFault))
  deriving DecidableEq

/-- The portion of a tenant; a cycle without an arrival of it is none. -/
def portion (env : ConsumerEnv) (tenant : Uuid) (state : ConsumerState) :
    CollectorAction → Option Portion
  | .publish _ => none
  | .cycle count faults _ =>
      match ownArrivals tenant (arrivals env (state.bus.batch count) faults) with
      | [] => none
      | arrival :: rest => some (.cycle (arrival :: rest))
  | .crash count handled faults =>
      some (.restart (ownArrivals tenant
        (arrivals env ((state.bus.batch count).take handled) faults)))

/-- A portion, on what a tenant sees. -/
def takePortion (env : ConsumerEnv) (view : ConsumerState) : Portion → ConsumerState
  | .cycle arrived => (organizePending env 0 (receive env arrived view)).2
  | .restart arrived => { receive env arrived view with window := [] }

/-- The collector when the rules of a cycle run. -/
def filled (env : ConsumerEnv) (count : Nat) (faults : List (Option EntryFault)) (state : ConsumerState) :
    ConsumerState :=
  (handleEntries env (state.bus.batch count) faults { state with bus := state.bus.read count }).2

/-- An action in which the others leave a tenant alone: the entries of a cycle decode, none has the key
of an observation of the tenant, and the buffer is organized as if the tenant were alone. -/
def Isolated (env : ConsumerEnv) (tenant : Uuid) (state : ConsumerState) : CollectorAction → Prop
  | .publish _ => True
  | .cycle count faults _ =>
      (∀ entry ∈ state.bus.batch count, ∃ observation, env.codec.decode entry.1 = .ok observation) ∧
        KeysApart tenant state.observations (arrivals env (state.bus.batch count) faults) ∧
        (env.evidenceStore = true → ownPart tenant (filled env count faults state).window ≠ [] →
          BufferApart env tenant (filled env count faults state))
  | .crash count handled faults =>
      KeysApart tenant state.observations (arrivals env ((state.bus.batch count).take handled) faults)

theorem handleEntries_decoded {entries : List (EntryFields × Nat)} {faults : List (Option EntryFault)}
    (decodes : ∀ entry ∈ entries, ∃ observation, env.codec.decode entry.1 = .ok observation) :
    (handleEntries env entries faults state).1 = .ok () := by
  induction entries generalizing faults state with
  | nil => rfl
  | cons entry rest ih =>
      obtain ⟨fields, position⟩ := entry
      obtain ⟨observation, decoded⟩ := decodes _ List.mem_cons_self
      unfold handleEntries
      dsimp only at decoded
      rw [decoded]
      exact ih fun other member => decodes other (List.mem_cons_of_mem _ member)

theorem processBatch_decoded {count : Nat} {faults : List (Option EntryFault)} {now : Timestamp}
    (decodes : ∀ entry ∈ state.bus.batch count, ∃ observation,
      env.codec.decode entry.1 = .ok observation) :
    (processBatch env count faults now state).2 =
      (organizePending env now (filled env count faults state)).2 := by
  have returned : (handleEntries env (state.bus.batch count) faults
      { state with bus := state.bus.read count }).1 = .ok () := handleEntries_decoded decodes
  unfold processBatch filled
  split
  · rename_i failure next ran
    rw [ran] at returned
    cases returned
  · rename_i next ran
    rw [ran]

/-- Nothing is left to organize. -/
def Settled (env : ConsumerEnv) (view : ConsumerState) : Prop :=
  (organizePending env 0 view).2 = view

theorem takePortion_settled (built : env.organizer = organizerEngine texts config)
    (view : ConsumerState) (taken : Portion) : Settled env (takePortion env view taken) := by
  cases taken with
  | cycle arrived => exact organizePending_idem env 0 0 _
  | restart arrived => exact organizePending_empty built 0 rfl

/-- **One action, as the tenant sees it**: its portion. -/
theorem collectorStep_ofTenant (built : env.organizer = organizerEngine texts config)
    (settled : Settled env (state.ofTenant tenant)) {action : CollectorAction}
    (isolated : Isolated env tenant state action) :
    (collectorStep env state action).ofTenant tenant =
      (portion env tenant state action).elim (state.ofTenant tenant)
        (takePortion env (state.ofTenant tenant)) := by
  cases action with
  | publish fields => rfl
  | cycle count faults now =>
      obtain ⟨decodes, keys, buffer⟩ := isolated
      have handled : (filled env count faults state).ofTenant tenant =
          receive env (ownArrivals tenant (arrivals env (state.bus.batch count) faults))
            (state.ofTenant tenant) :=
        handleEntries_ofTenant { state with bus := state.bus.read count } keys
      show (processBatch env count faults now state).2.ofTenant tenant = _
      rw [processBatch_decoded decodes, organizePending_ofTenant built now buffer, handled]
      simp only [portion]
      cases ownArrivals tenant (arrivals env (state.bus.batch count) faults) with
      | nil => exact settled
      | cons arrival rest => rfl
  | crash count taken faults =>
      have handled := handleEntries_ofTenant { state with bus := state.bus.read count } isolated
      show { (handleEntries env ((state.bus.batch count).take taken) faults
        { state with bus := state.bus.read count }).2.ofTenant tenant with window := [] } = _
      rw [handled]
      rfl

/-- The portions of a tenant in a run. -/
def portions (env : ConsumerEnv) (tenant : Uuid) : ConsumerState → List CollectorAction → List Portion
  | _, [] => []
  | state, action :: rest =>
      (portion env tenant state action).toList ++ portions env tenant (collectorStep env state action) rest

/-- A run in which the others leave a tenant alone. -/
def IsolatedRun (env : ConsumerEnv) (tenant : Uuid) : ConsumerState → List CollectorAction → Prop
  | _, [] => True
  | state, action :: rest =>
      Isolated env tenant state action ∧ IsolatedRun env tenant (collectorStep env state action) rest

/-- The state after a run. -/
def collectorRun (env : ConsumerEnv) (state : ConsumerState) (actions : List CollectorAction) :
    ConsumerState :=
  actions.foldl (collectorStep env) state

/-- **A run, as the tenant sees it**: its portions, one after the other. -/
theorem run_ofTenant (built : env.organizer = organizerEngine texts config)
    (settled : Settled env (state.ofTenant tenant)) {actions : List CollectorAction}
    (isolated : IsolatedRun env tenant state actions) :
    (collectorRun env state actions).ofTenant tenant =
      (portions env tenant state actions).foldl (takePortion env) (state.ofTenant tenant) := by
  induction actions generalizing state with
  | nil => rfl
  | cons action rest ih =>
      obtain ⟨first, others⟩ := isolated
      have stepped := collectorStep_ofTenant built settled first
      have settledNext : Settled env ((collectorStep env state action).ofTenant tenant) := by
        rw [stepped]
        cases portion env tenant state action with
        | none => exact settled
        | some taken => exact takePortion_settled built _ taken
      show (collectorRun env (collectorStep env state action) rest).ofTenant tenant = _
      have unfolded : portions env tenant state (action :: rest) =
          (portion env tenant state action).toList ++
            portions env tenant (collectorStep env state action) rest := rfl
      rw [ih settledNext others, stepped, unfolded, List.foldl_append]
      cases portion env tenant state action with
      | none => rfl
      | some taken => rfl

/-- **The evidence of a tenant does not depend on the others**, in the runs in which they leave it alone:
two runs of started collectors, in whose cycles the same observations of the tenant arrive, emit the same
evidence for it in the same order. -/
theorem tenant_isolated (env : ConsumerEnv) (texts : RuleTexts) (config : OrganizerConfig)
    (built : env.organizer = organizerEngine texts config) (tenant : Uuid)
    (first second : ConsumerState) (actions others : List CollectorAction)
    (started : first.window = []) (startedToo : second.window = [])
    (same : first.ofTenant tenant = second.ofTenant tenant)
    (isolated : IsolatedRun env tenant first actions)
    (isolatedToo : IsolatedRun env tenant second others)
    (agree : portions env tenant first actions = portions env tenant second others) :
    evidenceOf tenant (collectorRun env first actions).evidence =
      evidenceOf tenant (collectorRun env second others).evidence := by
  have settled : ∀ state : ConsumerState, state.window = [] → Settled env (state.ofTenant tenant) := by
    intro state empty
    refine organizePending_empty built 0 ?_
    show ownPart tenant state.window = []
    rw [empty]
    rfl
  have runFirst := run_ofTenant built (settled first started) isolated
  have runSecond := run_ofTenant built (settled second startedToo) isolatedToo
  rw [agree, same, ← runSecond] at runFirst
  exact congrArg ConsumerState.evidence runFirst

end View

/-! ### A tenant that is disturbed -/

/-- The lockout of an account of the first tenant. -/
def lockoutObservation : Observation where
  id := 80
  tenantId := 1
  sourceId := 12
  sourceType := "windows_agent"
  factType := "ad_account_lockout"
  factValue := []
  unit := "event"
  capturedAt := .utc 0
  qualityClass := .q1
  rawPayload := []

/-- A change of a privileged group of the first tenant. -/
def changeObservation : Observation where
  id := 81
  tenantId := 1
  sourceId := 12
  sourceType := "windows_agent"
  factType := "ad_privileged_group_membership"
  factValue := [("changed", .bool true)]
  unit := "event"
  capturedAt := .utc 0
  qualityClass := .q1
  rawPayload := []

/-- A measurement of the second tenant. -/
def otherObservation (capturedAt : PyDatetime) : Observation where
  id := 90
  tenantId := 2
  sourceId := 22
  sourceType := "linux_agent"
  factType := "cpu_utilization_percent"
  factValue := []
  unit := "percent"
  capturedAt
  qualityClass := .q1
  rawPayload := []

/-- The entry of `lockoutObservation`. -/
def lockoutFields : EntryFields :=
  [("id", "00000000-0000-0000-0000-000000000050"),
    ("tenant_id", "00000000-0000-0000-0000-000000000001"),
    ("source_id", "00000000-0000-0000-0000-00000000000c"), ("source_type", "windows_agent"),
    ("fact_type", "ad_account_lockout"), ("fact_value", "\x7b\x7d"), ("unit", "event"),
    ("captured_at", "1970-01-01T00:00:00Z"), ("quality_class", "Q1"), ("raw_payload", "\x7b\x7d")]

/-- The entry of `changeObservation`. -/
def changeFields : EntryFields :=
  [("id", "00000000-0000-0000-0000-000000000051"),
    ("tenant_id", "00000000-0000-0000-0000-000000000001"),
    ("source_id", "00000000-0000-0000-0000-00000000000c"), ("source_type", "windows_agent"),
    ("fact_type", "ad_privileged_group_membership"), ("fact_value", "\x7b\"changed\": true\x7d"),
    ("unit", "event"), ("captured_at", "1970-01-01T00:00:00Z"), ("quality_class", "Q1"),
    ("raw_payload", "\x7b\x7d")]

/-- The entry of the second tenant, captured with the others or two hours later. -/
def otherFields (late : Bool) : EntryFields :=
  [("id", "00000000-0000-0000-0000-00000000005a"),
    ("tenant_id", "00000000-0000-0000-0000-000000000002"),
    ("source_id", "00000000-0000-0000-0000-000000000016"), ("source_type", "linux_agent"),
    ("fact_type", "cpu_utilization_percent"), ("fact_value", "\x7b\x7d"), ("unit", "percent"),
    ("captured_at", if late then "1970-01-01T02:00:00Z" else "1970-01-01T00:00:00Z"),
    ("quality_class", "Q1"), ("raw_payload", "\x7b\x7d")]

/-- The observations of the entries. -/
def knownEntries : List (EntryFields × Observation) :=
  [(lockoutFields, lockoutObservation), (changeFields, changeObservation),
    (otherFields false, otherObservation (.utc 0)),
    (otherFields true, otherObservation (.utc (7200 * second)))]

/-- The library on the texts of the run. -/
def sharedStd : Stdlib :=
  { Stdlib.constant with
    floatRepr := fun _ => "60.0"
    uuid5 := fun _ _ => 0x914c0132b5f95c219fcd6805eb638f31 }

/-- The texts of the rules in the run. -/
def sharedTexts : RuleTexts where
  std := sharedStd
  lower := String.toLower
  fixed := fun _ _ => ""

/-- A collector of two tenants, with the decoder on the entries. -/
def sharedEnv : ConsumerEnv where
  std := sharedStd
  codec := {
    loads := fun text =>
      if text = "\x7b\x7d" then .ok (.obj [])
      else if text = "\x7b\"changed\": true\x7d" then .ok (.obj [("changed", .bool true)])
      else .error (.valueError "Expecting value")
    validate := fun fields _ _ =>
      match knownEntries.lookup fields with
      | some observation => .ok observation
      | none => .error (.valueError "validation error") }
  tenants := [1, 2]
  organizer := organizerEngine sharedTexts {}
  evidenceStore := true

/-- The observations of a tenant in a stream. -/
def streamOf (env : ConsumerEnv) (tenant : Uuid) (stream : List EntryFields) : List Observation :=
  ownPart tenant (stream.filterMap fun fields => (env.codec.decode fields).toOption)

/-- Publish a stream, and consume it in one cycle. -/
def consume (stream : List EntryFields) : List CollectorAction :=
  stream.map .publish ++ [.cycle 100 [] 0]

/-- **One observation of another tenant silences the evidence of a tenant.** The two streams agree on the
first tenant; in the second one the other tenant reports a measurement of two hours later, and the
account lockout of the first tenant is no longer organized. -/
theorem tenant_disturbed : ∃ first second : List EntryFields,
    streamOf sharedEnv 1 first = streamOf sharedEnv 1 second ∧
      evidenceOf 1 (collectorRun sharedEnv newGroup (consume first)).evidence ≠
        evidenceOf 1 (collectorRun sharedEnv newGroup (consume second)).evidence := by
  refine ⟨[lockoutFields, changeFields], [otherFields true, lockoutFields, changeFields], ?_, ?_⟩
  · decide +kernel
  · have kept : (evidenceOf 1 (collectorRun sharedEnv newGroup
        (consume [lockoutFields, changeFields])).evidence).length = 1 := by decide +kernel
    have dropped : (evidenceOf 1 (collectorRun sharedEnv newGroup
        (consume [otherFields true, lockoutFields, changeFields])).evidence).length = 0 := by
      decide +kernel
    intro same
    rw [same, dropped] at kept
    exact absurd kept (by decide)

instance (keep : Uuid → Bool) (observations : List Observation) :
    Decidable (SourcesApart keep observations) :=
  inferInstanceAs (Decidable (∀ first ∈ observations, ∀ other ∈ observations, _ → _))

instance (tenant : Uuid) (rows : List Observation) (arrived : List (Observation × Option EntryFault)) :
    Decidable (KeysApart tenant rows arrived) :=
  inferInstanceAs (Decidable (∀ arrival ∈ arrived, _ → _ ∧ _))

theorem decodes_of_isSome {env : ConsumerEnv} {fields : EntryFields}
    (decodes : (env.codec.decode fields).toOption.isSome = true) :
    ∃ observation, env.codec.decode fields = .ok observation := by
  cases decoded : env.codec.decode fields with
  | error failure =>
      rw [decoded] at decodes
      cases decodes
  | ok observation => exact ⟨observation, rfl⟩

theorem idsApart_of_own {std : Stdlib} {tenant : Uuid} {organized : Except PyError (List EvidenceCreate)}
    (own : organized.toOption.map (List.all · fun create => decide (create.tenantId = tenant)) = some true)
    {creations : List EvidenceCreate} (isOrganized : organized = .ok creations) :
    IdsApart std tenant creations [] := by
  rw [isOrganized] at own
  have all : creations.all (fun create => decide (create.tenantId = tenant)) = true := Option.some.inj own
  refine fun create _ _ => ⟨?_, fun other member isOther => ?_⟩
  · rintro row ⟨⟩
  · exact (isOther (of_decide_eq_true (List.all_eq_true.mp all other member))).elim

/-- A run of the two tenants in which the captures are of one time. -/
theorem tenant_isolated_shared :
    evidenceOf 1 (collectorRun sharedEnv newGroup (consume [lockoutFields, changeFields])).evidence =
      evidenceOf 1 (collectorRun sharedEnv newGroup
        (consume [otherFields false, lockoutFields, changeFields])).evidence := by
  refine tenant_isolated sharedEnv sharedTexts {} rfl 1 newGroup newGroup _ _ rfl rfl rfl ?_ ?_ ?_
  · refine ⟨trivial, trivial, ⟨?_, ?_, fun _ _ => ⟨?_, ?_, ?_, ⟨[], ?_, ?_⟩, ?_⟩⟩, trivial⟩
    · have all : ∀ entry ∈ (collectorRun sharedEnv newGroup
          ([lockoutFields, changeFields].map .publish)).bus.batch 100,
          (sharedEnv.codec.decode entry.1).toOption.isSome = true := by decide +kernel
      exact fun entry member => decodes_of_isSome (all entry member)
    · decide +kernel
    · decide +kernel
    · decide +kernel
    · decide +kernel
    · decide +kernel
    · rintro create ⟨⟩
    · exact fun creations => idsApart_of_own (by decide +kernel)
  · refine ⟨trivial, trivial, trivial, ⟨?_, ?_, fun _ _ => ⟨?_, ?_, ?_, ⟨[], ?_, ?_⟩, ?_⟩⟩, trivial⟩
    · have all : ∀ entry ∈ (collectorRun sharedEnv newGroup
          ([otherFields false, lockoutFields, changeFields].map .publish)).bus.batch 100,
          (sharedEnv.codec.decode entry.1).toOption.isSome = true := by decide +kernel
      exact fun entry member => decodes_of_isSome (all entry member)
    · decide +kernel
    · decide +kernel
    · decide +kernel
    · decide +kernel
    · decide +kernel
    · rintro create ⟨⟩
    · exact fun creations => idsApart_of_own (by decide +kernel)
  · decide +kernel

end CosMonitor
