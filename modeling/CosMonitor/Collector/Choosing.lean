/-
**Rules that choose — when what a rule says about a window is a matter of what the window holds.**

A rule of the organizer chooses one observation or one reading of each kind, and only then looks at the
thresholds and at the times. What it chooses depends on the order of arrival.

* `Choosing`: a rule with what some order of arrival makes it choose, said without an order;
* `Choosing.OrderFree`: in every order the rule emits the same organizations, and one for a group exactly
  when the group holds a combination that qualifies;
* `Choosing.Settled`: no order of a group raises, and either no combination qualifies or every choice does
  and says the same;
* `Choosing.orderFree_iff`: the windows where a rule does what it is for.
-/

import CosMonitor.Collector.Engine
import CosMonitor.Foundation.Arrivals

namespace CosMonitor

open Grouping (groupBy)
open Arrivals (Reaches)

/-! ### What a rule emits -/

section Emission

variable (rule : OrganizationRule) (window : List Observation)

/-- The organizations of a window; a rule that raises has none. -/
def OrganizationRule.emitted : List Organization :=
  (rule.run window).toOption.getD []

/-- The rule emits an organization for the group of a key. -/
def OrganizationRule.Emits (key : Uuid) : Prop :=
  ∃ organizations, rule.run window = .ok organizations ∧ ∃ group organization,
    (key, group) ∈ groupBy rule.key window ∧ rule.describe key group = .ok (some organization)

variable {rule window}

theorem organizeGroups_eq_gather (describe : Uuid → List Observation → Except PyError (Option Organization))
    (groups : List (Uuid × List Observation)) :
    organizeGroups describe groups = Result.gather (fun group => describe group.1 group.2) groups := by
  induction groups with
  | nil => rfl
  | cons group rest ih =>
      obtain ⟨key, group⟩ := group
      unfold organizeGroups Result.gather
      rw [ih]

theorem OrganizationRule.run_eq_ok {organizations : List Organization} :
    rule.run window = .ok organizations ↔
      (∀ group ∈ groupBy rule.key window, ∃ found, rule.describe group.1 group.2 = .ok found) ∧
        organizations = (groupBy rule.key window).filterMap (described rule.describe) := by
  unfold OrganizationRule.run
  rw [organizeGroups_eq_gather, Result.gather_eq_ok]
  rfl

theorem OrganizationRule.emitted_eq_nil (silent : ∀ key group organization,
    (key, group) ∈ groupBy rule.key window → rule.describe key group ≠ .ok (some organization)) :
    rule.emitted window = [] := by
  unfold OrganizationRule.emitted
  rcases ran : rule.run window with failure | organizations
  · rfl
  · obtain ⟨_, rfl⟩ := OrganizationRule.run_eq_ok.mp ran
    refine List.filterMap_eq_nil_iff.mpr fun group member => ?_
    rcases said : described rule.describe group with - | organization
    · rfl
    · exact absurd (Result.toOption_join said) (silent group.1 group.2 organization member)

end Emission

/-! ### What a rule chooses -/

/-- What is said of a choice: nothing when it does not pass or its observations lie too far apart. -/
def judged (minutes : ℚ) (passes : Bool) (matched : List Observation) (item : Organization) :
    Option (Option Organization) :=
  if passes then (withinWindow minutes matched).toOption.map fun within =>
    if within then some item else none
  else some none

/-- A rule with its choices: what a choice is tested for, the observations whose times are compared, what
is said about it, the choices that a group holds, and those that some order of arrival brings about. In
some order a kind can lack a reading, or the rule raise before it has chosen. -/
structure Choosing where
  rule : OrganizationRule
  minutes : ℚ
  Choice : Type
  passes : Choice → Bool
  matched : Choice → List Observation
  item : Uuid → Choice → Organization
  Candidate : List Observation → Choice → Prop
  Chosen : List Observation → Choice → Prop
  Lacks : List Observation → Prop
  Fails : List Observation → Prop
  Numbers : List Observation → Prop
  reaches : ∀ key group, Numbers group → ∀ out,
    Reaches (fun order => (rule.describe key order).toOption) group out ↔
      (out = none ∧ Fails group) ∨ (out = some none ∧ Lacks group) ∨
        ∃ choice, Chosen group choice ∧
          out = judged minutes (passes choice) (matched choice) (item key choice)
  chosen_candidate : ∀ group choice, Chosen group choice → Candidate group choice
  candidate_perm : ∀ group order choice, order.Perm group → Candidate order choice →
    Candidate group choice

namespace Choosing

/-- A rule that judges what it picks. -/
def ofPick (rule : OrganizationRule) (minutes : ℚ) {Choice : Type}
    (pick : Arrivals.Pick Observation Choice) (passes : Choice → Bool)
    (matched : Choice → List Observation) (item : Uuid → Choice → Organization)
    (Candidate : List Observation → Choice → Prop) (Numbers : List Observation → Prop)
    (numbers_perm : ∀ group order, order.Perm group → Numbers group → Numbers order)
    (describes : ∀ key order, Numbers order → (rule.describe key order).toOption =
      (pick.run order).bind fun kept => kept.elim (some none) fun choice =>
        judged minutes (passes choice) (matched choice) (item key choice))
    (chosen_candidate : ∀ group choice, pick.Leads group (some choice) → Candidate group choice)
    (candidate_perm : ∀ group order choice, order.Perm group → Candidate order choice →
      Candidate group choice) : Choosing where
  rule := rule
  minutes := minutes
  Choice := Choice
  passes := passes
  matched := matched
  item := item
  Candidate := Candidate
  Chosen group choice := pick.Leads group (some choice)
  Lacks group := pick.Leads group none
  Fails := pick.Fails
  Numbers := Numbers
  reaches key group numbers out := by
    constructor
    · rintro ⟨order, perm, rfl⟩
      dsimp only
      rw [describes key order (numbers_perm group order perm numbers)]
      rcases pick.run_cases perm with ⟨raised, fails⟩ | ⟨kept, ran, leads⟩
      · rw [raised]
        exact .inl ⟨rfl, fails⟩
      · rw [ran]
        rcases kept with - | choice
        · exact .inr (.inl ⟨rfl, leads⟩)
        · exact .inr (.inr ⟨choice, leads, rfl⟩)
    · have reached : ∀ result, Arrivals.Reaches pick.run group result →
          Reaches (fun order => (rule.describe key order).toOption) group (result.bind fun kept =>
            kept.elim (some none) fun choice =>
              judged minutes (passes choice) (matched choice) (item key choice)) := by
        rintro result ⟨order, perm, rfl⟩
        exact ⟨order, perm, describes key order (numbers_perm group order perm numbers)⟩
      rintro (⟨rfl, fails⟩ | ⟨rfl, lacks⟩ | ⟨choice, leads, rfl⟩)
      · exact reached none ((pick.reaches group none).mpr (.inl ⟨rfl, fails⟩))
      · exact reached (some none) ((pick.reaches group _).mpr (.inr ⟨none, rfl, lacks⟩))
      · exact reached (some (some choice))
          ((pick.reaches group _).mpr (.inr ⟨some choice, rfl, leads⟩))
  chosen_candidate := chosen_candidate
  candidate_perm := candidate_perm

variable (choosing : Choosing)

/-- A combination satisfies the condition of the rule within its time limit. -/
def Qualifying (choice : choosing.Choice) : Prop :=
  choosing.passes choice = true ∧ withinWindow choosing.minutes (choosing.matched choice) = .ok true

/-- The group holds a combination that qualifies. -/
def Qualifies (group : List Observation) : Prop :=
  ∃ choice, choosing.Candidate group choice ∧ choosing.Qualifying choice

/-- In every order of arrival the rule emits the same organizations, and one for a group exactly when the
group holds a combination that qualifies. -/
def OrderFree (window : List Observation) : Prop :=
  ∀ order : List Observation, order.Perm window →
    (choosing.rule.emitted order).Perm (choosing.rule.emitted window) ∧
      ∀ key group, (key, group) ∈ groupBy choosing.rule.key order →
        (choosing.rule.Emits order key ↔ choosing.Qualifies group)

/-- No order of the group raises, and either no combination qualifies or every choice does and says the
same. -/
def Settled (key : Uuid) (group : List Observation) : Prop :=
  ¬ choosing.Fails group ∧
    ((¬ choosing.Qualifies group ∧ ∀ choice, choosing.Chosen group choice →
        choosing.passes choice = true →
          ∃ within, withinWindow choosing.minutes (choosing.matched choice) = .ok within) ∨
      (¬ choosing.Lacks group ∧ ∃ item, ∀ choice, choosing.Chosen group choice →
        choosing.Qualifying choice ∧ choosing.item key choice = item))

/-- No group holds a combination that qualifies, or every group is settled. -/
def Decided (window : List Observation) : Prop :=
  (∀ key group, (key, group) ∈ groupBy choosing.rule.key window → ¬ choosing.Qualifies group) ∨
    ∀ key group, (key, group) ∈ groupBy choosing.rule.key window → choosing.Settled key group

/-- What the rule says of a choice. -/
def outcome (key : Uuid) (choice : choosing.Choice) : Option (Option Organization) :=
  judged choosing.minutes (choosing.passes choice) (choosing.matched choice) (choosing.item key choice)

variable {choosing} {key : Uuid} {group order window : List Observation} {choice : choosing.Choice}

theorem Qualifies.perm (qualifies : choosing.Qualifies order) (perm : order.Perm group) :
    choosing.Qualifies group := by
  obtain ⟨choice, candidate, qualifying⟩ := qualifies
  exact ⟨choice, choosing.candidate_perm group order choice perm candidate, qualifying⟩

theorem describe_cases (numbers : choosing.Numbers group) (perm : order.Perm group) :
    ((choosing.rule.describe key order).toOption = none ∧ choosing.Fails group) ∨
      (choosing.rule.describe key order = .ok none ∧ choosing.Lacks group) ∨
        ∃ choice, choosing.Chosen group choice ∧
          (choosing.rule.describe key order).toOption = choosing.outcome key choice := by
  rcases (choosing.reaches key group numbers _).mp ⟨order, perm, rfl⟩ with failed | lacks | chosen
  · exact .inl failed
  · exact .inr (.inl ⟨Result.toOption_eq_some lacks.1, lacks.2⟩)
  · exact .inr (.inr chosen)

theorem qualifying_of_item {organization : Organization}
    (said : some (some organization) = choosing.outcome key choice) :
    choosing.Qualifying choice ∧ organization = choosing.item key choice := by
  unfold outcome judged at said
  split at said
  · rename_i passed
    obtain ⟨within, isWithin, isItem⟩ := Option.map_eq_some_iff.mp said.symm
    cases within with
    | true => exact ⟨⟨passed, Result.toOption_eq_some isWithin⟩, (Option.some.inj isItem).symm⟩
    | false => cases isItem
  · cases said

theorem qualifies_of_described (numbers : choosing.Numbers group) (perm : order.Perm group)
    {organization : Organization}
    (said : choosing.rule.describe key order = .ok (some organization)) :
    choosing.Qualifies group := by
  rcases describe_cases numbers perm with ⟨failed, _⟩ | ⟨none, _⟩ | ⟨choice, chosen, outcome⟩
  · rw [said] at failed
    cases failed
  · rw [said] at none
    cases none
  · rw [said] at outcome
    exact ⟨choice, choosing.chosen_candidate group choice chosen, (qualifying_of_item outcome).1⟩

/-- **A settled group**: every order says the same, and something exactly when a combination qualifies. -/
theorem Settled.described (settled : choosing.Settled key group) (numbers : choosing.Numbers group) :
    ∃ found, (∀ order : List Observation, order.Perm group →
      choosing.rule.describe key order = .ok found) ∧
        (found.isSome = true ↔ choosing.Qualifies group) := by
  obtain ⟨returns, ⟨refused, timed⟩ | ⟨complete, item, same⟩⟩ := settled
  · refine ⟨none, fun order perm => ?_, by simpa using refused⟩
    rcases describe_cases numbers perm with ⟨_, fails⟩ | ⟨none, _⟩ | ⟨choice, chosen, outcome⟩
    · exact absurd fails returns
    · exact none
    · unfold Choosing.outcome judged at outcome
      split at outcome
      · rename_i passed
        obtain ⟨within, isWithin⟩ := timed choice chosen passed
        cases within with
        | true =>
            exact absurd ⟨choice, choosing.chosen_candidate group choice chosen, passed, isWithin⟩ refused
        | false =>
            rw [isWithin] at outcome
            exact Result.toOption_eq_some outcome
      · exact Result.toOption_eq_some outcome
  · have said : ∀ order : List Observation, order.Perm group →
        choosing.rule.describe key order = .ok (some item) := by
      intro order perm
      rcases describe_cases numbers perm with ⟨_, fails⟩ | ⟨_, lacks⟩ | ⟨choice, chosen, outcome⟩
      · exact absurd fails returns
      · exact absurd lacks complete
      · obtain ⟨⟨passed, isWithin⟩, rfl⟩ := same choice chosen
        unfold Choosing.outcome judged at outcome
        rw [if_pos passed, isWithin] at outcome
        exact Result.toOption_eq_some outcome
    refine ⟨some item, said, iff_of_true rfl ?_⟩
    exact qualifies_of_described numbers (List.Perm.refl _) (said group (List.Perm.refl _))

theorem orderFree_of_silent
    (numbers : ∀ key group, (key, group) ∈ groupBy choosing.rule.key window → choosing.Numbers group)
    (refused : ∀ key group, (key, group) ∈ groupBy choosing.rule.key window →
      ¬ choosing.Qualifies group) : choosing.OrderFree window := by
  have silent : ∀ order : List Observation, order.Perm window → ∀ key group organization,
      (key, group) ∈ groupBy choosing.rule.key order →
        choosing.rule.describe key group ≠ .ok (some organization) := by
    intro order perm key group organization member said
    obtain ⟨other, isGroup, same⟩ := Grouping.groupBy_perm perm member
    exact refused key other isGroup (qualifies_of_described (numbers key other isGroup) same said)
  intro order perm
  refine ⟨?_, fun key group member => iff_of_false ?_ fun qualifies => ?_⟩
  · rw [OrganizationRule.emitted_eq_nil (silent order perm),
      OrganizationRule.emitted_eq_nil (silent window (List.Perm.refl _))]
  · rintro ⟨_, _, found, organization, inGroups, said⟩
    exact silent order perm key found organization inGroups said
  · obtain ⟨other, isGroup, same⟩ := Grouping.groupBy_perm perm member
    exact refused key other isGroup (qualifies.perm same)

theorem orderFree_of_settled
    (numbers : ∀ key group, (key, group) ∈ groupBy choosing.rule.key window → choosing.Numbers group)
    (settled : ∀ key group, (key, group) ∈ groupBy choosing.rule.key window →
      choosing.Settled key group) : choosing.OrderFree window := by
  -- What is said about a key is what is said about its group in the window.
  have saidOf : ∀ order : List Observation, order.Perm window → ∀ key group,
      (key, group) ∈ groupBy choosing.rule.key order → ∃ found,
        choosing.rule.describe key group = .ok found ∧ (found.isSome = true ↔ choosing.Qualifies group) ∧
          ∀ other, (key, other) ∈ groupBy choosing.rule.key window →
            choosing.rule.describe key other = .ok found := by
    intro order perm key group member
    obtain ⟨other, isGroup, same⟩ := Grouping.groupBy_perm perm member
    obtain ⟨found, said, isSome⟩ := (settled key other isGroup).described (numbers key other isGroup)
    refine ⟨found, said group same, isSome.trans ⟨fun q => q.perm same.symm, fun q => q.perm same⟩, ?_⟩
    intro another isAnother
    rw [(Grouping.mem_groupBy isAnother).1, ← (Grouping.mem_groupBy isGroup).1]
    exact said other (List.Perm.refl _)
  have ran : ∀ order : List Observation, order.Perm window → choosing.rule.run order =
      .ok ((groupBy choosing.rule.key order).filterMap (described choosing.rule.describe)) := by
    intro order perm
    refine OrganizationRule.run_eq_ok.mpr ⟨fun group member => ?_, rfl⟩
    obtain ⟨found, said, _⟩ := saidOf order perm group.1 group.2 member
    exact ⟨found, said⟩
  let ofKey : Uuid → Option Organization := fun key =>
    described choosing.rule.describe
      (key, window.filter fun observation => decide (choosing.rule.key observation = key))
  have emitted : ∀ order : List Observation, order.Perm window → choosing.rule.emitted order =
      ((groupBy choosing.rule.key order).map Prod.fst).filterMap ofKey := by
    intro order perm
    unfold OrganizationRule.emitted
    rw [ran order perm, List.filterMap_map]
    refine List.filterMap_congr fun group member => ?_
    obtain ⟨found, said, _, inWindow⟩ := saidOf order perm group.1 group.2 member
    obtain ⟨other, isGroup, _⟩ := Grouping.groupBy_perm perm member
    have whole := inWindow other isGroup
    rw [(Grouping.mem_groupBy isGroup).1] at whole
    show (choosing.rule.describe group.1 group.2).toOption.join =
      (choosing.rule.describe group.1 _).toOption.join
    rw [said, whole]
  intro order perm
  refine ⟨?_, fun key group member => ?_⟩
  · rw [emitted order perm, emitted window (List.Perm.refl _)]
    exact (Grouping.keys_groupBy_perm perm).filterMap _
  · obtain ⟨found, said, isSome, _⟩ := saidOf order perm key group member
    rw [← isSome]
    constructor
    · rintro ⟨_, _, other, organization, inGroups, saidOther⟩
      rw [(Grouping.mem_groupBy inGroups).1, ← (Grouping.mem_groupBy member).1, said] at saidOther
      rw [Except.ok.inj saidOther]
      rfl
    · intro isSome
      obtain ⟨organization, rfl⟩ := Option.isSome_iff_exists.mp isSome
      exact ⟨_, ran order perm, group, organization, member, said⟩

theorem window_front (isGroup : (key, group) ∈ groupBy choosing.rule.key window)
    (perm : order.Perm group) :
    ∃ rest : List Observation, (order ++ rest).Perm window ∧
      groupBy choosing.rule.key (order ++ rest) = (key, order) :: groupBy choosing.rule.key rest ∧
        rest = window.filter fun observation => !decide (choosing.rule.key observation = key) := by
  obtain ⟨content, filled⟩ := Grouping.mem_groupBy isGroup
  refine ⟨_, ?_, Grouping.groupBy_append ?_ ?_ ?_, rfl⟩
  · rw [content] at perm
    exact (perm.append_right _).trans (List.filter_append_perm _ window)
  · rintro rfl
    exact filled (List.nil_perm.mp perm)
  · intro observation member
    have inGroup := perm.mem_iff.mp member
    rw [content] at inGroup
    exact of_decide_eq_true (List.mem_filter.mp inGroup).2
  · intro observation member
    simpa using (List.mem_filter.mp member).2

/-- Where one group qualifies and the rule is free of the order, every group is settled. -/
theorem settled_of_orderFree
    (numbers : ∀ key group, (key, group) ∈ groupBy choosing.rule.key window → choosing.Numbers group)
    (free : choosing.OrderFree window) {someKey : Uuid} {someGroup : List Observation}
    (isSome : (someKey, someGroup) ∈ groupBy choosing.rule.key window)
    (someQualifies : choosing.Qualifies someGroup)
    (isGroup : (key, group) ∈ groupBy choosing.rule.key window) : choosing.Settled key group := by
  -- Every order of the window returns, since the one group has its organization in it.
  have returns : ∀ order : List Observation, order.Perm window →
      ∃ organizations, choosing.rule.run order = .ok organizations := by
    intro order perm
    obtain ⟨other, inOrder, same⟩ := Grouping.groupBy_perm perm.symm isSome
    obtain ⟨organizations, ran, _⟩ := ((free order perm).2 _ _ inOrder).mpr (someQualifies.perm same)
    exact ⟨organizations, ran⟩
  -- So every order of the group does, with an organization when a combination qualifies.
  have saidOf : ∀ order : List Observation, order.Perm group → ∃ found,
      choosing.rule.describe key order = .ok found ∧
        (found.isSome = true ↔ choosing.Qualifies group) := by
    intro order perm
    obtain ⟨rest, permWindow, groups, _⟩ := window_front isGroup perm
    obtain ⟨organizations, ran⟩ := returns _ permWindow
    have first : (key, order) ∈ groupBy choosing.rule.key (order ++ rest) := by
      rw [groups]
      exact List.mem_cons_self
    obtain ⟨found, said⟩ := (OrganizationRule.run_eq_ok.mp ran).1 _ first
    refine ⟨found, said, ?_⟩
    have emits := (free _ permWindow).2 key order first
    constructor
    · intro isSome
      obtain ⟨organization, rfl⟩ := Option.isSome_iff_exists.mp isSome
      exact (emits.mp ⟨organizations, ran, order, organization, first, said⟩).perm perm
    · intro qualifies
      obtain ⟨_, _, other, organization, inGroups, saidOther⟩ := emits.mpr (qualifies.perm perm.symm)
      rw [(Grouping.mem_groupBy inGroups).1, ← (Grouping.mem_groupBy first).1, said] at saidOther
      rw [Except.ok.inj saidOther]
      rfl
  -- Two orders of the group emit the same beside the same organizations of the other groups.
  have agree : ∀ first second : List Observation, first.Perm group → second.Perm group →
      ∀ organization other, choosing.rule.describe key first = .ok (some organization) →
        choosing.rule.describe key second = .ok (some other) → organization = other := by
    intro first second permFirst permSecond organization other saidFirst saidSecond
    let others := window.filter fun observation => !decide (choosing.rule.key observation = key)
    have emitted : ∀ order organization, order.Perm group →
        choosing.rule.describe key order = .ok (some organization) →
          (choosing.rule.emitted window).Perm (organization ::
            (groupBy choosing.rule.key others).filterMap (described choosing.rule.describe)) := by
      intro order organization perm said
      obtain ⟨_, permWindow, groups, rfl⟩ := window_front isGroup perm
      obtain ⟨organizations, ran⟩ := returns _ permWindow
      have isSaid : described choosing.rule.describe (key, order) = some organization := by
        unfold described
        dsimp only
        rw [said]
        rfl
      have whole := (OrganizationRule.run_eq_ok.mp ran).2
      rw [groups, List.filterMap_cons_some isSaid] at whole
      have isEmitted : choosing.rule.emitted (order ++ others) = organizations := by
        unfold OrganizationRule.emitted
        rw [ran]
        rfl
      rw [← whole, ← isEmitted]
      exact (free _ permWindow).1.symm
    have ofFirst := emitted first organization permFirst saidFirst
    have ofSecond := emitted second other permSecond saidSecond
    have single : ([organization] : List Organization).Perm [other] :=
      (List.perm_append_right_iff _).mp (ofFirst.symm.trans ofSecond)
    exact List.singleton_perm_singleton.mp single
  have reached : ∀ out, Reaches (fun order => (choosing.rule.describe key order).toOption) group out →
      ∃ order : List Observation, order.Perm group ∧ ∃ found,
        choosing.rule.describe key order = .ok found ∧ out = some found ∧
          (found.isSome = true ↔ choosing.Qualifies group) := by
    rintro out ⟨order, perm, rfl⟩
    obtain ⟨found, said, isSome⟩ := saidOf order perm
    refine ⟨order, perm, found, said, ?_, isSome⟩
    dsimp only
    rw [said]
    rfl
  have laws := choosing.reaches key group (numbers key group isGroup)
  have ofChoice : ∀ choice, choosing.Chosen group choice → ∃ order : List Observation,
      order.Perm group ∧ ∃ found, choosing.rule.describe key order = .ok found ∧
        choosing.outcome key choice = some found ∧ (found.isSome = true ↔ choosing.Qualifies group) :=
    fun choice chosen => reached _ ((laws _).mpr (.inr (.inr ⟨choice, chosen, rfl⟩)))
  refine ⟨fun fails => ?_, ?_⟩
  · obtain ⟨_, _, _, _, none, _⟩ := reached none ((laws none).mpr (.inl ⟨rfl, fails⟩))
    cases none
  by_cases qualifies : choosing.Qualifies group
  · refine .inr ⟨fun lacks => ?_, ?_⟩
    · obtain ⟨_, _, found, _, same, isSome⟩ :=
        reached (some none) ((laws _).mpr (.inr (.inl ⟨rfl, lacks⟩)))
      rw [← Option.some.inj same] at isSome
      cases isSome.mpr qualifies
    · obtain ⟨found, said, isSome⟩ := saidOf group (List.Perm.refl _)
      obtain ⟨item, rfl⟩ := Option.isSome_iff_exists.mp (isSome.mpr qualifies)
      refine ⟨item, fun choice chosen => ?_⟩
      obtain ⟨order, perm, found, saidOrder, outcome, isSome⟩ := ofChoice choice chosen
      obtain ⟨organization, rfl⟩ := Option.isSome_iff_exists.mp (isSome.mpr qualifies)
      obtain ⟨qualifying, isItem⟩ := qualifying_of_item outcome.symm
      refine ⟨qualifying, isItem.symm.trans ?_⟩
      exact agree order group perm (List.Perm.refl _) organization item saidOrder said
  · refine .inl ⟨qualifies, fun choice chosen passed => ?_⟩
    obtain ⟨_, _, _, _, outcome, _⟩ := ofChoice choice chosen
    unfold Choosing.outcome judged at outcome
    rw [if_pos passed] at outcome
    obtain ⟨within, isWithin, _⟩ := Option.map_eq_some_iff.mp outcome
    exact ⟨within, Result.toOption_eq_some isWithin⟩

/-- **What a rule emits is a matter of what the window holds** exactly when no group holds a combination
that qualifies, or every group is settled. -/
theorem orderFree_iff
    (numbers : ∀ key group, (key, group) ∈ groupBy choosing.rule.key window → choosing.Numbers group) :
    choosing.OrderFree window ↔ choosing.Decided window := by
  constructor
  · intro free
    by_cases refused : ∀ key group, (key, group) ∈ groupBy choosing.rule.key window →
        ¬ choosing.Qualifies group
    · exact .inl refused
    · simp only [not_forall, not_not] at refused
      obtain ⟨someKey, someGroup, isSome, someQualifies⟩ := refused
      exact .inr fun key group isGroup =>
        settled_of_orderFree numbers free isSome someQualifies isGroup
  · rintro (refused | settled)
    · exact orderFree_of_silent numbers refused
    · exact orderFree_of_settled numbers settled

end Choosing

end CosMonitor
