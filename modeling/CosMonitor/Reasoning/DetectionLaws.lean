/-
**The laws of the pattern detector — what one pass over the stream conserves.**

The detector filters the stream, groups it for every definition, sorts each group and measures it. Only
the activations of the tenant in the window matter, and of these only which of them a scope has.

* `detect_relevant`: the other activations are not read;
* `scopes`, `outcome`: the scopes that a definition evaluates, and what it says of each;
* `detectedKeys_eq`: the candidates, one for each scope that supports its definition;
* `detect_perm`: activations at different times may come in any order;
* `detection_laws`: these together, with the conservation of the evaluated groups.
-/

import CosMonitor.Reasoning.PatternDetector

namespace CosMonitor

namespace PatternDetector

open Sorting

/-! ### The activations that matter -/

/-- The activation is one of the tenant, within the window. -/
def Relevant (tenantId : Option Uuid) (windowDays : ℚ) (now : Timestamp) (context : Context) : Bool :=
  (tenantId.all fun id => decide (context.tenantId = id)) &&
    decide (now - daysSpan windowDays ≤ context.activatedAt ∧ context.activatedAt ≤ now)

/-- The activations of the tenant within the window. -/
def relevant (tenantId : Option Uuid) (windowDays : ℚ) (now : Timestamp) (contexts : List Context) :
    List Context :=
  contexts.filter (Relevant tenantId windowDays now)

/-- The number of activations of a scope. -/
def occurrencesOf (activations : List Context) (scope : String × String) : Nat :=
  activations.countP fun context => decide (context.scope = scope)

/-! ### One definition -/

/-- The scopes that a definition evaluates, in the order of their first activation. -/
def scopes (activations : List Context) (definition : PatternDefinition) : List (String × String) :=
  Grouping.firsts ((activations.filter fun context => Covers definition context.scope).map
    Context.scope)

/-- What a definition says of a scope. -/
def outcome (formats : DetectorFormats) (windowDays : ℚ) (activations : List Context)
    (definition : PatternDefinition) (scope : String × String) :
    Except PyError (Option CandidatePattern) :=
  measureGroup formats windowDays definition
    (scope, activations.filter fun context => decide (context.scope = scope))

/-- The definition and the scope of a candidate. -/
def CandidatePattern.key (candidate : CandidatePattern) : String × String × String :=
  (candidate.libraryPatternId, candidate.mentalModelId, candidate.purpose)

section Definition

variable {formats : DetectorFormats} {windowDays : ℚ} {now : Timestamp} {tenantId : Option Uuid}
  {activations order : List Context} {definition : PatternDefinition} {scope : String × String}

theorem mem_scopes :
    scope ∈ scopes activations definition ↔
      Covers definition scope = true ∧ 0 < occurrencesOf activations scope := by
  unfold scopes occurrencesOf
  rw [Grouping.mem_firsts, List.mem_map, List.countP_pos_iff]
  constructor
  · rintro ⟨context, member, rfl⟩
    obtain ⟨inside, covers⟩ := List.mem_filter.mp member
    exact ⟨covers, context, inside, decide_eq_true rfl⟩
  · rintro ⟨covers, context, inside, same⟩
    obtain rfl := of_decide_eq_true same
    exact ⟨context, List.mem_filter.mpr ⟨inside, covers⟩, rfl⟩

theorem groups_outcome :
    (groups definition activations).mapM (measureGroup formats windowDays definition) =
      (scopes activations definition).mapM (outcome formats windowDays activations definition) := by
  have listed : groups definition activations = (scopes activations definition).map fun scope =>
      (scope, activations.filter fun context => decide (context.scope = scope)) := by
    unfold groups scopes
    rw [Grouping.groupBy_eq]
    refine List.map_congr_left fun scope member => Prod.ext rfl ?_
    obtain ⟨covers, -⟩ := mem_scopes.mp member
    dsimp only
    rw [List.filter_filter]
    refine List.filter_congr fun context _ => ?_
    by_cases same : context.scope = scope
    · simp [same, covers]
    · simp [same]
  rw [listed, List.mapM_map]
  rfl

/-- **What a definition says of a scope**: a candidate exactly when its activations support it. -/
theorem outcome_spec {answer : Option CandidatePattern}
    (measured : outcome formats windowDays activations definition scope = .ok answer)
    (evaluated : scope ∈ scopes activations definition) :
    answer.map CandidatePattern.key =
        (if Supports definition scope (occurrencesOf activations scope) then
          some (definition.patternId, scope) else none) ∧
      ∀ candidate ∈ answer, 0 ≤ candidate.strengthMeasure ∧ candidate.strengthMeasure ≤ 1 := by
  obtain ⟨covers, present⟩ := mem_scopes.mp evaluated
  have count : (activations.filter fun context => decide (context.scope = scope)).length =
      occurrencesOf activations scope := List.countP_eq_length_filter.symm
  have unit : 0 ≤ strength definition (occurrencesOf activations scope) ∧
      strength definition (occurrencesOf activations scope) ≤ 1 := by
    unfold strength
    refine ⟨le_min ?_ zero_le_one, min_le_right _ _⟩
    have ratio : (0 : ℚ) ≤ occurrencesOf activations scope / (max definition.minOccurrences 1 : Nat) :=
      div_nonneg (Nat.cast_nonneg _) (Nat.cast_nonneg _)
    have rounded := PyFloat.double_mono ratio
    rwa [PyFloat.double_zero] at rounded
  unfold outcome measureGroup at measured
  simp only [length_sortBy, count] at measured
  split at measured
  · rename_i weak
    cases Result.pure_eq_ok.mp measured
    rw [if_neg fun supports : Supports _ _ _ => absurd supports.2.2 (not_le.mpr weak)]
    exact ⟨rfl, fun candidate member => by cases member⟩
  · rename_i strong
    obtain ⟨description, -, built⟩ := Result.bind_eq_ok.mp measured
    rw [if_pos ⟨covers, present, not_lt.mp strong⟩, ← Result.pure_eq_ok.mp built]
    obtain ⟨anchor, last⟩ : ∃ anchor, (sortBy Context.activatedAt
        (activations.filter fun context => decide (context.scope = scope))).getLast? = some anchor := by
      refine Option.isSome_iff_exists.mp (List.getLast?_isSome.mpr fun empty => ?_)
      have none := congrArg List.length empty
      rw [length_sortBy, count, List.length_nil] at none
      exact absurd none present.ne'
    rw [last]
    refine ⟨rfl, fun candidate member => ?_⟩
    obtain rfl := Option.some.inj member
    have rounded := roundHalfEven_unit 4 unit.1 unit.2
    exact PyFloat.double_unit rounded.1 rounded.2

theorem keys_outcomes {evaluated : List (String × String)} {outcomes : List (Option CandidatePattern)}
    (known : ∀ scope ∈ evaluated, scope ∈ scopes activations definition)
    (measured : List.Forall₂ (fun scope answer =>
      outcome formats windowDays activations definition scope = .ok answer) evaluated outcomes) :
    outcomes.reduceOption.map CandidatePattern.key = (evaluated.filter fun scope =>
      Supports definition scope (occurrencesOf activations scope)).map fun scope =>
        (definition.patternId, scope) := by
  induction measured with
  | nil => rfl
  | @cons scope answer rest answers measures _ ih =>
      have later := ih fun other member => known other (List.mem_cons_of_mem _ member)
      have own := (outcome_spec measures (known scope List.mem_cons_self)).1
      by_cases supports : Supports definition scope (occurrencesOf activations scope)
      · rw [if_pos supports] at own
        obtain ⟨candidate, rfl, isKey⟩ := Option.map_eq_some_iff.mp own
        rw [List.reduceOption_cons_of_some, List.map_cons, later, isKey]
        simp [supports]
      · rw [if_neg supports] at own
        rw [Option.map_eq_none_iff.mp own, List.reduceOption_cons_of_none, later]
        simp [supports]

theorem outcome_perm (same : order.Perm activations)
    (distinct : (activations.map Context.activatedAt).Nodup) :
    outcome formats windowDays order definition scope =
      outcome formats windowDays activations definition scope := by
  have sorted : sortBy Context.activatedAt (order.filter fun context =>
        decide (context.scope = scope)) =
      sortBy Context.activatedAt (activations.filter fun context =>
        decide (context.scope = scope)) :=
    sortBy_congr (same.filter _) (distinct.sublist (List.filter_sublist.map _))
  unfold outcome measureGroup
  simp only [sorted]

theorem scopes_perm (same : order.Perm activations) :
    (scopes order definition).Perm (scopes activations definition) :=
  Grouping.firsts_perm ((same.filter _).map _)

end Definition

/-! ### The pass over the library -/

section Pass

variable {formats : DetectorFormats} {library : List PatternDefinition} {windowDays : ℚ}
  {now : Timestamp} {tenantId : Option Uuid} {contexts other : List Context}
  {result : DetectionResult}

theorem windowed_ofTenant (tenantId : Option Uuid) (windowDays : ℚ) (now : Timestamp)
    (contexts : List Context) :
    windowed (contexts.filter fun context => tenantId.all fun id => decide (context.tenantId = id))
        windowDays now =
      relevant tenantId windowDays now contexts := by
  unfold windowed relevant Relevant
  rw [List.filter_filter]
  exact List.filter_congr fun context _ => Bool.and_comm _ _

/-- **Only the activations of the tenant in the window are read.** -/
theorem detect_relevant
    (same : relevant tenantId windowDays now other = relevant tenantId windowDays now contexts) :
    detect formats other library windowDays now tenantId =
      detect formats contexts library windowDays now tenantId := by
  unfold detect
  dsimp only
  rw [windowed_ofTenant, windowed_ofTenant, same]

theorem detect_eq_ok :
    detect formats contexts library windowDays now tenantId = .ok result ↔
      ∃ measured : List (List (Option CandidatePattern)),
        library.mapM (fun definition =>
          (scopes (relevant tenantId windowDays now contexts) definition).mapM
            (outcome formats windowDays (relevant tenantId windowDays now contexts) definition)) =
              .ok measured ∧
          result = { candidates := measured.flatten.reduceOption
                     evaluated := measured.flatten.length
                     belowThreshold := measured.flatten.countP Option.isNone } := by
  unfold detect
  dsimp only
  rw [windowed_ofTenant]
  simp only [groups_outcome]
  rw [Result.bind_eq_ok]
  refine exists_congr fun measured => and_congr_right fun _ => ?_
  rw [Result.pure_eq_ok]
  exact eq_comm

/-- **The candidates of a run**: one for each scope that supports its definition, in this order. -/
theorem detectedKeys_eq
    (detected : detect formats contexts library windowDays now tenantId = .ok result) :
    result.candidates.map CandidatePattern.key = library.flatMap fun definition =>
      ((scopes (relevant tenantId windowDays now contexts) definition).filter fun scope =>
        Supports definition scope
          (occurrencesOf (relevant tenantId windowDays now contexts) scope)).map fun scope =>
            (definition.patternId, scope) := by
  obtain ⟨measured, mapped, rfl⟩ := detect_eq_ok.mp detected
  clear detected
  dsimp only
  rw [Result.mapM_eq_ok] at mapped
  induction mapped with
  | nil => rfl
  | @cons definition outcomes rest others measures _ ih =>
      rw [List.flatten_cons, List.reduceOption_append, List.map_append, ih, List.flatMap_cons,
        keys_outcomes (fun _ member => member) (Result.mapM_eq_ok.mp measures)]

theorem count_supported (activations : List Context) (definition : PatternDefinition)
    (id : String) (scope : String × String) :
    ((((scopes activations definition).filter fun scope => Supports definition scope
        (occurrencesOf activations scope)).map fun scope => (definition.patternId, scope)).count
          (id, scope)) =
      if definition.patternId = id ∧ Supports definition scope (occurrencesOf activations scope) then 1
      else 0 := by
  by_cases own : definition.patternId = id
  · subst own
    have injective : Function.Injective fun scope : String × String => (definition.patternId, scope) :=
      fun first second same => (Prod.mk.inj same).2
    rw [List.count_map_of_injective _ _ injective]
    by_cases supports : Supports definition scope (occurrencesOf activations scope)
    · rw [if_pos ⟨rfl, supports⟩]
      refine List.count_eq_one_of_mem ((Grouping.firsts_nodup _).filter _) ?_
      exact List.mem_filter.mpr ⟨mem_scopes.mpr ⟨supports.1, supports.2.1⟩, decide_eq_true supports⟩
    · rw [if_neg fun both => supports both.2]
      exact List.count_eq_zero_of_not_mem fun member =>
        supports (of_decide_eq_true (List.mem_filter.mp member).2)
  · rw [if_neg fun both => own both.1]
    refine List.count_eq_zero_of_not_mem fun member => ?_
    obtain ⟨other, -, same⟩ := List.mem_map.mp member
    exact own (Prod.mk.inj same).1

/-- **How many candidates a definition and a scope have**: one for each entry of the library that the
activations of the scope support. -/
theorem count_candidates
    (detected : detect formats contexts library windowDays now tenantId = .ok result) (id : String)
    (scope : String × String) :
    (result.candidates.map CandidatePattern.key).count (id, scope) =
      library.countP fun definition => decide (definition.patternId = id ∧
        Supports definition scope
          (occurrencesOf (relevant tenantId windowDays now contexts) scope)) := by
  rw [detectedKeys_eq detected]
  clear detected
  induction library with
  | nil => rfl
  | cons definition rest ih =>
      rw [List.flatMap_cons, List.count_append, ih, count_supported, List.countP_cons, add_comm]
      simp only [decide_eq_true_eq]

theorem mem_candidates_key
    (detected : detect formats contexts library windowDays now tenantId = .ok result) {id : String}
    {scope : String × String} :
    (∃ candidate ∈ result.candidates, candidate.key = (id, scope)) ↔
      ∃ definition ∈ library, definition.patternId = id ∧ Supports definition scope
        (occurrencesOf (relevant tenantId windowDays now contexts) scope) := by
  have counted := count_candidates detected id scope
  have found : (∃ candidate ∈ result.candidates, candidate.key = (id, scope)) ↔
      0 < (result.candidates.map CandidatePattern.key).count (id, scope) := by
    rw [List.count_pos_iff, List.mem_map]
  rw [found, counted, List.countP_pos_iff]
  simp only [decide_eq_true_eq]

theorem Supports.mono {definition : PatternDefinition} {scope : String × String} {few many : Nat}
    (supports : Supports definition scope few) (less : few ≤ many) :
    Supports definition scope many := by
  obtain ⟨covers, present, strong⟩ := supports
  refine ⟨covers, lt_of_lt_of_le present less, strong.trans ?_⟩
  unfold strength
  have more : (few : ℚ) ≤ many := by exact_mod_cast less
  refine min_le_min_right _ (PyFloat.double_mono ?_)
  gcongr

/-- **One more activation removes no candidate.** -/
theorem detect_added {activation : Context} {added : List Context} {more : DetectionResult}
    (grows : added.Perm (activation :: contexts))
    (detected : detect formats contexts library windowDays now tenantId = .ok result)
    (detectedToo : detect formats added library windowDays now tenantId = .ok more) :
    ∀ candidate ∈ result.candidates, ∃ kept ∈ more.candidates, kept.key = candidate.key := by
  intro candidate member
  obtain ⟨definition, known, isName, supports⟩ := (mem_candidates_key detected).mp
    ⟨candidate, member, rfl⟩
  refine (mem_candidates_key detectedToo).mpr ⟨definition, known, isName, supports.mono ?_⟩
  have perm : (relevant tenantId windowDays now added).Perm
      (relevant tenantId windowDays now (activation :: contexts)) := grows.filter _
  have sub : (relevant tenantId windowDays now contexts).Sublist
      (relevant tenantId windowDays now (activation :: contexts)) :=
    (List.sublist_cons_self activation contexts).filter _
  unfold occurrencesOf
  rw [perm.countP_eq]
  exact sub.countP_le

/-- **Activations at different times may come in any order.** -/
theorem detect_perm (same : other.Perm contexts)
    (distinct : (contexts.map Context.activatedAt).Nodup)
    (detected : detect formats contexts library windowDays now tenantId = .ok result) :
    ∃ again, detect formats other library windowDays now tenantId = .ok again ∧
      again.candidates.Perm result.candidates ∧ again.evaluated = result.evaluated ∧
      again.belowThreshold = result.belowThreshold := by
  obtain ⟨measured, mapped, rfl⟩ := detect_eq_ok.mp detected
  have kept : (relevant tenantId windowDays now other).Perm
      (relevant tenantId windowDays now contexts) := same.filter _
  have distinctKept : ((relevant tenantId windowDays now contexts).map Context.activatedAt).Nodup :=
    distinct.sublist (List.filter_sublist.map _)
  have related : ∀ definition ∈ library, ∀ outcomes,
      (scopes (relevant tenantId windowDays now contexts) definition).mapM
        (outcome formats windowDays (relevant tenantId windowDays now contexts) definition) =
          .ok outcomes →
      ∃ again, (scopes (relevant tenantId windowDays now other) definition).mapM
          (outcome formats windowDays (relevant tenantId windowDays now other) definition) =
            .ok again ∧ again.Perm outcomes := by
    intro definition _ outcomes returned
    obtain ⟨again, returnedToo, permuted⟩ := Result.mapM_perm (scopes_perm kept) returned
    refine ⟨again, ?_, permuted⟩
    rw [← returnedToo]
    congr 1
    funext scope
    exact outcome_perm kept distinctKept
  obtain ⟨others, mappedToo, perms⟩ := Result.mapM_related related mapped
  have flat : others.flatten.Perm measured.flatten := List.Perm.flatten_congr perms
  exact ⟨_, detect_eq_ok.mpr ⟨others, mappedToo, rfl⟩, flat.filterMap _, flat.length_eq,
    flat.countP_eq _⟩

theorem detect_returns
    (fillable : ∀ definition ∈ library, ∀ facts, ∃ text,
      formats.template definition.descriptionTemplate facts = .ok text) :
    ∃ result, detect formats contexts library windowDays now tenantId = .ok result := by
  have returns : ∀ definition ∈ library, ∀ scope, ∃ answer, outcome formats windowDays
      (relevant tenantId windowDays now contexts) definition scope = .ok answer := by
    intro definition known scope
    unfold outcome measureGroup
    dsimp only
    split
    · exact ⟨none, rfl⟩
    · obtain ⟨text, filled⟩ := fillable definition known _
      unfold buildDescription
      rw [filled]
      exact ⟨_, rfl⟩
  obtain ⟨measured, mapped⟩ := Result.mapM_returned_iff.mpr fun definition known =>
    Result.mapM_returned_iff.mpr fun scope
      (_ : scope ∈ scopes (relevant tenantId windowDays now contexts) definition) =>
        returns definition known scope
  exact ⟨_, detect_eq_ok.mpr ⟨measured, mapped, rfl⟩⟩

end Pass

end PatternDetector

end CosMonitor
