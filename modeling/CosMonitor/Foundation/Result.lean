/-
**Peeling computations that may raise.**

* `bind_eq_ok`, `pure_eq_ok`, `throw_eq_ok`: what a computation that returned has done;
* `bind_eq_error`: where a computation that raised has failed;
* `mapM_eq_ok`, `mapM_returned_iff`, `mapM_replicate`: a list of computations that returned, result by
  result;
* `gather`: a loop that appends what its body finds;
* `collect`: a loop that ends at the first error, with what it returned before;
* `Effect`: computations on a state that keep what they wrote when they raise, with the same rules;
* `Effect.Keeps`: a relation between the states before and after a computation, with its frame rule;
* `Effect.Matches`: two computations that return the same, with the rules of their parts.
-/

import Mathlib.Data.List.Forall2
import Mathlib.Data.List.Perm.Basic

namespace Result

variable {Failure First Second : Type}

theorem pure_eq_ok {value other : First} :
    (pure value : Except Failure First) = .ok other ↔ value = other := by
  simp [pure, Except.pure]

theorem throw_eq_ok {failure : Failure} {value : First} :
    (throw failure : Except Failure First) = .ok value ↔ False := by
  simp [throw, throwThe, MonadExceptOf.throw]

theorem bind_eq_ok {first : Except Failure First} {next : First → Except Failure Second}
    {value : Second} :
    first >>= next = .ok value ↔ ∃ middle, first = .ok middle ∧ next middle = .ok value := by
  cases first with
  | error failure => simp [bind, Except.bind]
  | ok middle => simp [bind, Except.bind]

theorem bind_eq_error {first : Except Failure First} {next : First → Except Failure Second}
    {failure : Failure} :
    first >>= next = .error failure ↔
      first = .error failure ∨ ∃ middle, first = .ok middle ∧ next middle = .error failure := by
  cases first with
  | error other => simp [bind, Except.bind]
  | ok middle => simp [bind, Except.bind]

theorem ok_bind {value : First} {next : First → Except Failure Second} :
    ((.ok value : Except Failure First) >>= next) = next value :=
  rfl

theorem error_bind {failure : Failure} {next : First → Except Failure Second} :
    ((.error failure : Except Failure First) >>= next) = .error failure :=
  rfl

theorem mapError_eq_ok {Other : Type} {called : Except Failure First} {wrap : Failure → Other}
    {value : First} : called.mapError wrap = .ok value ↔ called = .ok value := by
  cases called <;> simp [Except.mapError]

theorem toOption_eq_some {ran : Except Failure First} {value : First}
    (found : ran.toOption = some value) : ran = .ok value := by
  rcases ran with failure | answer
  · cases found
  · exact congrArg Except.ok (Option.some.inj found)

theorem toOption_join {ran : Except Failure (Option First)} {value : First}
    (found : ran.toOption.join = some value) : ran = .ok (some value) := by
  rcases ran with failure | answer
  · cases found
  · exact congrArg Except.ok found

theorem forall₂_left {Left Right : Type} {relation : Left → Right → Prop} {lefts : List Left}
    {rights : List Right} (related : List.Forall₂ relation lefts rights) {left : Left}
    (member : left ∈ lefts) : ∃ right ∈ rights, relation left right := by
  induction related with
  | nil => cases member
  | cons head _ ih =>
      rcases List.mem_cons.mp member with rfl | later
      · exact ⟨_, List.mem_cons_self, head⟩
      · obtain ⟨right, rightIn, holds⟩ := ih later
        exact ⟨right, List.mem_cons_of_mem _ rightIn, holds⟩

theorem forall₂_right {Left Right : Type} {relation : Left → Right → Prop} {lefts : List Left}
    {rights : List Right} (related : List.Forall₂ relation lefts rights) {right : Right}
    (member : right ∈ rights) : ∃ left ∈ lefts, relation left right :=
  forall₂_left related.flip member

theorem mapM_eq_ok {convert : First → Except Failure Second} {inputs : List First}
    {outputs : List Second} :
    inputs.mapM convert = .ok outputs ↔
      List.Forall₂ (fun input output => convert input = .ok output) inputs outputs := by
  induction inputs generalizing outputs with
  | nil =>
      rw [List.mapM_nil, pure_eq_ok, List.forall₂_nil_left_iff]
      exact eq_comm
  | cons input rest ih =>
      rw [List.mapM_cons, bind_eq_ok, List.forall₂_cons_left_iff]
      constructor
      · rintro ⟨output, converted, remaining⟩
        obtain ⟨others, mapped, same⟩ := bind_eq_ok.mp remaining
        exact ⟨output, others, converted, ih.mp mapped, (pure_eq_ok.mp same).symm⟩
      · rintro ⟨output, others, converted, mapped, rfl⟩
        exact ⟨output, converted, bind_eq_ok.mpr ⟨others, ih.mpr mapped, rfl⟩⟩

theorem mem_mapM {convert : First → Except Failure Second} {inputs : List First}
    {outputs : List Second} (mapped : inputs.mapM convert = .ok outputs) {output : Second} :
    output ∈ outputs ↔ ∃ input ∈ inputs, convert input = .ok output := by
  rw [mapM_eq_ok] at mapped
  induction mapped with
  | nil => simp
  | cons converted rest ih =>
      rw [List.mem_cons, ih, List.exists_mem_cons_iff, converted, Except.ok.injEq]
      exact or_congr_left eq_comm

theorem mapM_returns {convert : First → Except Failure Second} {inputs : List First}
    {outputs : List Second} (mapped : inputs.mapM convert = .ok outputs) {input : First}
    (member : input ∈ inputs) : ∃ output, convert input = .ok output := by
  rw [mapM_eq_ok] at mapped
  induction mapped with
  | nil => cases member
  | cons converted rest ih =>
      rcases List.mem_cons.mp member with rfl | later
      · exact ⟨_, converted⟩
      · exact ih later

theorem mapM_raises {convert : First → Except Failure Second} {inputs : List First} :
    (∃ failure, inputs.mapM convert = .error failure) ↔
      ∃ input ∈ inputs, ∃ failure, convert input = .error failure := by
  induction inputs with
  | nil => simp [List.mapM_nil, pure, Except.pure]
  | cons input rest ih =>
      rw [List.mapM_cons, List.exists_mem_cons_iff, ← ih]
      rcases convert input with failure | output
      · simp [bind, Except.bind]
      · rcases rest.mapM convert with failure | outputs
        · simp [bind, Except.bind]
        · simp [bind, Except.bind, pure, Except.pure]

theorem mapM_returned_iff {convert : First → Except Failure Second} {inputs : List First} :
    (∃ outputs, inputs.mapM convert = .ok outputs) ↔
      ∀ input ∈ inputs, ∃ output, convert input = .ok output := by
  constructor
  · rintro ⟨outputs, mapped⟩ input member
    exact mapM_returns mapped member
  · intro returns
    rcases mapped : inputs.mapM convert with failure | outputs
    · obtain ⟨input, member, failed, raised⟩ := mapM_raises.mp ⟨failure, mapped⟩
      obtain ⟨output, returned⟩ := returns input member
      rw [returned] at raised
      cases raised
    · exact ⟨outputs, rfl⟩

theorem mapM_perm {convert : First → Except Failure Second} {inputs order : List First}
    {outputs : List Second} (perm : order.Perm inputs) (mapped : inputs.mapM convert = .ok outputs) :
    ∃ others, order.mapM convert = .ok others ∧ others.Perm outputs := by
  obtain ⟨others, converted, same⟩ := List.perm_comp_forall₂ perm (mapM_eq_ok.mp mapped)
  exact ⟨others, mapM_eq_ok.mpr converted, same⟩

theorem mapM_related {Third : Type} {relation : Third → Second → Prop}
    {convert : First → Except Failure Second} {other : First → Except Failure Third}
    {inputs : List First} {outputs : List Second}
    (related : ∀ input ∈ inputs, ∀ output, convert input = .ok output →
      ∃ again, other input = .ok again ∧ relation again output)
    (mapped : inputs.mapM convert = .ok outputs) :
    ∃ others, inputs.mapM other = .ok others ∧ List.Forall₂ relation others outputs := by
  rw [mapM_eq_ok] at mapped
  induction mapped with
  | nil => exact ⟨[], rfl, .nil⟩
  | @cons input output rest outputs converted _ ih =>
      obtain ⟨again, returned, relates⟩ := related input List.mem_cons_self output converted
      obtain ⟨others, mappedToo, relate⟩ := ih fun later member =>
        related later (List.mem_cons_of_mem _ member)
      refine ⟨again :: others, ?_, .cons relates relate⟩
      rw [mapM_eq_ok] at mappedToo ⊢
      exact .cons returned mappedToo

theorem mapM_replicate {convert : First → Except Failure Second} {inputs : List First} {value : Second}
    (converts : ∀ input ∈ inputs, convert input = .ok value) :
    inputs.mapM convert = .ok (List.replicate inputs.length value) := by
  induction inputs with
  | nil => rfl
  | cons input rest ih =>
      have others := ih fun other member => converts other (List.mem_cons_of_mem _ member)
      rw [List.mapM_cons, bind_eq_ok]
      refine ⟨value, converts input List.mem_cons_self, ?_⟩
      rw [bind_eq_ok]
      exact ⟨_, others, rfl⟩

/-! ### Loops that append what they find -/

/-- A loop that appends what its body finds, and that raises what its body raises. -/
def gather (body : First → Except Failure (Option Second)) : List First → Except Failure (List Second)
  | [] => .ok []
  | input :: rest => do
      let found ← body input
      let others ← gather body rest
      return found.toList ++ others

theorem gather_eq_ok {body : First → Except Failure (Option Second)} {inputs : List First}
    {outputs : List Second} :
    gather body inputs = .ok outputs ↔ (∀ input ∈ inputs, ∃ found, body input = .ok found) ∧
      outputs = inputs.filterMap fun input => (body input).toOption.join := by
  induction inputs generalizing outputs with
  | nil => simp [gather, eq_comm]
  | cons input rest ih =>
      rw [gather, bind_eq_ok, List.forall_mem_cons]
      constructor
      · rintro ⟨found, isFound, ran⟩
        obtain ⟨others, remaining, same⟩ := bind_eq_ok.mp ran
        obtain ⟨returns, rfl⟩ := ih.mp remaining
        refine ⟨⟨⟨found, isFound⟩, returns⟩, ?_⟩
        rw [← pure_eq_ok.mp same, List.filterMap_cons, isFound]
        cases found with
        | none => rfl
        | some output => rfl
      · rintro ⟨⟨⟨found, isFound⟩, returns⟩, rfl⟩
        refine ⟨found, isFound, bind_eq_ok.mpr ⟨_, ih.mpr ⟨returns, rfl⟩, ?_⟩⟩
        rw [List.filterMap_cons, isFound]
        cases found with
        | none => rfl
        | some output => rfl

theorem mem_gather {body : First → Except Failure (Option Second)} {inputs : List First}
    {outputs : List Second} (gathered : gather body inputs = .ok outputs) {output : Second} :
    output ∈ outputs ↔ ∃ input ∈ inputs, body input = .ok (some output) := by
  obtain ⟨_, rfl⟩ := gather_eq_ok.mp gathered
  rw [List.mem_filterMap]
  refine exists_congr fun input => and_congr_right fun _ => ?_
  constructor
  · exact toOption_join
  · intro found
    rw [found]
    rfl

theorem gather_filter {body : First → Except Failure (Option Second)} {inputs : List First}
    {keeps : First → Bool} (silent : ∀ input, keeps input = false → body input = .ok none) :
    gather body (inputs.filter keeps) = gather body inputs := by
  induction inputs with
  | nil => rfl
  | cons input rest ih =>
      by_cases isKept : keeps input = true
      · rw [List.filter_cons_of_pos isKept, gather, gather, ih]
      · rw [List.filter_cons_of_neg isKept, ih, gather, silent input (eq_false_of_ne_true isKept),
          ok_bind]
        rcases gather body rest with failure | outputs
        · rfl
        · rfl

theorem gather_related {body : First → Except Failure (Option Second)}
    {related : First → First → Prop} {raised : Second → Second → Prop}
    {inputs others : List First} {outputs : List Second} (pairs : List.Forall₂ related inputs others)
    (follows : ∀ input ∈ inputs, ∀ other, related input other → ∀ found, body input = .ok found →
      ∃ next, body other = .ok next ∧ Option.Rel raised found next)
    (gathered : gather body inputs = .ok outputs) :
    ∃ results, gather body others = .ok results ∧ List.Forall₂ raised outputs results := by
  induction pairs generalizing outputs with
  | nil =>
      cases gathered
      exact ⟨[], rfl, .nil⟩
  | @cons input other rest later isRelated _ ih =>
      obtain ⟨found, isFound, ran⟩ := bind_eq_ok.mp gathered
      obtain ⟨remaining, ranRest, same⟩ := bind_eq_ok.mp ran
      obtain ⟨next, isNext, raisedOne⟩ := follows input List.mem_cons_self other isRelated found isFound
      obtain ⟨results, ranLater, raisedRest⟩ :=
        ih (fun input member => follows input (List.mem_cons_of_mem _ member)) ranRest
      refine ⟨next.toList ++ results, ?_, ?_⟩
      · rw [gather, isNext, ok_bind, ranLater]
        rfl
      · rw [← pure_eq_ok.mp same]
        cases raisedOne with
        | none => exact raisedRest
        | some isRaised => exact .cons isRaised raisedRest

/-! ### Loops that end at the first error -/

/-- A loop over a list of inputs: what its body returned, and the error that ended it. -/
def collect (body : First → Except Failure (Option Second)) :
    List First → List Second × Option Failure
  | [] => ([], none)
  | input :: rest =>
      match body input with
      | .error failure => ([], some failure)
      | .ok none => collect body rest
      | .ok (some output) =>
          let (outputs, raised) := collect body rest
          (output :: outputs, raised)

section Collect

variable {body : First → Except Failure (Option Second)} {inputs : List First}

theorem mem_collect {output : Second} (collected : output ∈ (collect body inputs).1) :
    ∃ input ∈ inputs, body input = .ok (some output) := by
  induction inputs with
  | nil => cases collected
  | cons input rest ih =>
      rw [collect] at collected
      split at collected
      · cases collected
      · obtain ⟨other, otherIn, returned⟩ := ih collected
        exact ⟨other, List.mem_cons_of_mem _ otherIn, returned⟩
      · rename_i returned
        rcases List.mem_cons.mp collected with rfl | later
        · exact ⟨input, List.mem_cons_self, returned⟩
        · obtain ⟨other, otherIn, returnedToo⟩ := ih later
          exact ⟨other, List.mem_cons_of_mem _ otherIn, returnedToo⟩

/-- **A loop that raised nothing** ran its body for every input and has collected what it returned. -/
theorem collect_finished (finished : (collect body inputs).2 = none) {input : First}
    (member : input ∈ inputs) :
    body input = .ok none ∨ ∃ output ∈ (collect body inputs).1, body input = .ok (some output) := by
  induction inputs with
  | nil => cases member
  | cons first rest ih =>
      rw [collect] at finished ⊢
      split at finished
      · cases finished
      · rename_i skipped
        rcases List.mem_cons.mp member with rfl | later
        · exact .inl skipped
        · exact ih finished later
      · rename_i output returned
        rcases List.mem_cons.mp member with rfl | later
        · exact .inr ⟨output, List.mem_cons_self, returned⟩
        · rcases ih finished later with skipped | ⟨other, otherIn, returnedToo⟩
          · exact .inl skipped
          · exact .inr ⟨other, List.mem_cons_of_mem _ otherIn, returnedToo⟩

theorem collect_total (returns : ∀ input ∈ inputs, ∃ output, body input = .ok output) :
    (collect body inputs).2 = none := by
  induction inputs with
  | nil => rfl
  | cons input rest ih =>
      obtain ⟨output, returned⟩ := returns input List.mem_cons_self
      have finished := ih fun other member => returns other (List.mem_cons_of_mem _ member)
      rw [collect, returned]
      cases output with
      | none => exact finished
      | some _ => exact finished

end Collect

/-! ### Computations on a state -/

/-- A computation on a state that may raise. What it wrote before it raised stays written. -/
def Effect (State Failure Value : Type) : Type :=
  State → Except Failure Value × State

namespace Effect

variable {State Failure First Second : Type}

instance : Monad (Effect State Failure) where
  pure value := fun state => (.ok value, state)
  bind first next := fun state =>
    match first state with
    | (.ok middle, between) => next middle between
    | (.error failure, between) => (.error failure, between)

/-- Raise an error. -/
def raise (failure : Failure) : Effect State Failure First :=
  fun state => (.error failure, state)

/-- Read the state. -/
def read (view : State → First) : Effect State Failure First :=
  fun state => (.ok (view state), state)

/-- Change the state. -/
def write (change : State → State) : Effect State Failure Unit :=
  fun state => (.ok (), change state)

/-- A computation that does not touch the state. -/
def lift (called : Except Failure First) : Effect State Failure First :=
  fun state => (called, state)

variable {before after : State} {value : First}

theorem pure_returned {other : First} :
    (pure value : Effect State Failure First) before = (.ok other, after) ↔
      value = other ∧ before = after := by
  show ((Except.ok value : Except Failure First), before) = _ ↔ _
  simp

theorem raise_returned {failure : Failure} :
    (raise failure : Effect State Failure First) before = (.ok value, after) ↔ False := by
  simp [raise]

theorem lift_returned {called : Except Failure First} :
    (lift called : Effect State Failure First) before = (.ok value, after) ↔
      called = .ok value ∧ before = after := by
  simp [lift]

section Run

variable {next : First → Effect State Failure Second}

theorem read_bind {view : State → First} :
    (read view >>= next) before = next (view before) before :=
  rfl

theorem lift_ok_bind : (lift (.ok value) >>= next) before = next value before :=
  rfl

theorem write_bind {change : State → State} {next : Unit → Effect State Failure Second} :
    (write change >>= next) before = next () (change before) :=
  rfl

end Run

theorem bind_returned {first : Effect State Failure First}
    {next : First → Effect State Failure Second} {value : Second} :
    (first >>= next) before = (.ok value, after) ↔
      ∃ middle between, first before = (.ok middle, between) ∧
        next middle between = (.ok value, after) := by
  show (match first before with
    | (.ok middle, between) => next middle between
    | (.error failure, between) => (.error failure, between)) = _ ↔ _
  rcases first before with ⟨failure | middle, between⟩
  · simp
  · constructor
    · exact fun ran => ⟨middle, between, rfl, ran⟩
    · rintro ⟨_, _, same, ran⟩
      cases same
      exact ran

theorem bind_ran {first : Effect State Failure First} {next : First → Effect State Failure Second}
    (ran : first before = (.ok value, after)) : (first >>= next) before = next value after := by
  show (match first before with
    | (.ok middle, between) => next middle between
    | (.error failure, between) => (.error failure, between)) = _
  rw [ran]

theorem bind_raised {first : Effect State Failure First}
    {next : First → Effect State Failure Second} {failure : Failure}
    (raised : first before = (.error failure, after)) :
    (first >>= next) before = (.error failure, after) := by
  show (match first before with
    | (.ok middle, between) => next middle between
    | (.error failure, between) => (.error failure, between)) = _
  rw [raised]

/-- Whatever a computation does, a relation holds between the states before and after it. -/
def Keeps (relation : State → State → Prop) (computation : Effect State Failure First) : Prop :=
  ∀ before, relation before (computation before).2

section Keeps

variable {relation : State → State → Prop}

theorem Keeps.pure [Std.Refl relation] :
    Keeps relation (Pure.pure value : Effect State Failure First) :=
  fun before => Std.Refl.refl before

theorem Keeps.raise [Std.Refl relation] {failure : Failure} :
    Keeps relation (Effect.raise failure : Effect State Failure First) :=
  fun before => Std.Refl.refl before

theorem Keeps.read [Std.Refl relation] {view : State → First} :
    Keeps relation (Effect.read view : Effect State Failure First) :=
  fun before => Std.Refl.refl before

theorem Keeps.lift [Std.Refl relation] {called : Except Failure First} :
    Keeps relation (Effect.lift called : Effect State Failure First) :=
  fun before => Std.Refl.refl before

/-- **The frame rule of a sequence.** Both parts keep a transitive relation, so the sequence does, also
where its first part raises. -/
theorem Keeps.bind [IsTrans State relation] {first : Effect State Failure First}
    {next : First → Effect State Failure Second} (kept : Keeps relation first)
    (keptNext : ∀ value, Keeps relation (next value)) : Keeps relation (first >>= next) := by
  intro before
  have start := kept before
  show relation before (match first before with
    | (.ok middle, between) => next middle between
    | (.error failure, between) => (.error failure, between)).2
  generalize first before = ran at start ⊢
  rcases ran with ⟨failure | middle, between⟩
  · exact start
  · exact IsTrans.trans before between _ start (keptNext middle between)

end Keeps

/-! ### Two computations that return the same -/

/-- Two computations, with errors of their own, that return for the same states, with related values and in the
same state. -/
def Matches {Other : Type} (related : First → Second → Prop) (one : Effect State Failure First)
    (other : Effect State Other Second) : Prop :=
  ∀ before after,
    (∀ value, one before = (.ok value, after) →
      ∃ answer, other before = (.ok answer, after) ∧ related value answer) ∧
    ∀ answer, other before = (.ok answer, after) →
      ∃ value, one before = (.ok value, after) ∧ related value answer

section Matches

variable {Other Third Fourth : Type} {related : First → Second → Prop}
  {relatedNext : Third → Fourth → Prop} {one : Effect State Failure First}
  {other : Effect State Other Second}

theorem Matches.pure {answer : Second} (holds : related value answer) :
    Matches related (Pure.pure value : Effect State Failure First)
      (Pure.pure answer : Effect State Other Second) := by
  intro before after
  constructor
  · intro _ returned
    obtain ⟨rfl, rfl⟩ := pure_returned.mp returned
    exact ⟨answer, rfl, holds⟩
  · intro _ returned
    obtain ⟨rfl, rfl⟩ := pure_returned.mp returned
    exact ⟨value, rfl, holds⟩

theorem Matches.never (raises : ∀ before value after, one before ≠ (.ok value, after))
    (raisesToo : ∀ before answer after, other before ≠ (.ok answer, after)) :
    Matches related one other :=
  fun before after => ⟨fun value returned => (raises before value after returned).elim,
    fun answer returned => (raisesToo before answer after returned).elim⟩

theorem Matches.raise {failure : Failure} {fault : Other} :
    Matches related (Effect.raise failure : Effect State Failure First)
      (Effect.raise fault : Effect State Other Second) :=
  .never (fun _ _ _ returned => raise_returned.mp returned)
    fun _ _ _ returned => raise_returned.mp returned

theorem Matches.read {view : State → First} :
    Matches Eq (Effect.read view : Effect State Failure First)
      (Effect.read view : Effect State Other First) := by
  intro before after
  constructor
  · rintro _ ⟨⟩
    exact ⟨view before, rfl, rfl⟩
  · rintro _ ⟨⟩
    exact ⟨view before, rfl, rfl⟩

theorem Matches.write {change : State → State} :
    Matches Eq (Effect.write change : Effect State Failure Unit)
      (Effect.write change : Effect State Other Unit) := by
  intro before after
  constructor
  · rintro _ ⟨⟩
    exact ⟨(), rfl, rfl⟩
  · rintro _ ⟨⟩
    exact ⟨(), rfl, rfl⟩

theorem Matches.lift {Source : Type} {called : Except Source First} {wrap : Source → Failure}
    {wrapToo : Source → Other} :
    Matches Eq (Effect.lift (called.mapError wrap) : Effect State Failure First)
      (Effect.lift (called.mapError wrapToo) : Effect State Other First) := by
  intro before after
  simp only [lift_returned, mapError_eq_ok]
  constructor
  · rintro value ⟨returned, rfl⟩
    exact ⟨value, ⟨returned, rfl⟩, rfl⟩
  · rintro value ⟨returned, rfl⟩
    exact ⟨value, ⟨returned, rfl⟩, rfl⟩

/-- **Two sequences whose parts match.** -/
theorem Matches.bind (matched : Matches related one other) {next : First → Effect State Failure Third}
    {nextToo : Second → Effect State Other Fourth}
    (rest : ∀ value answer, related value answer →
      Matches relatedNext (next value) (nextToo answer)) :
    Matches relatedNext (one >>= next) (other >>= nextToo) := by
  intro before after
  constructor
  · intro value returned
    obtain ⟨middle, between, ran, returned⟩ := bind_returned.mp returned
    obtain ⟨answer, ranToo, holds⟩ := (matched before between).1 middle ran
    obtain ⟨result, returnedToo, holdsNext⟩ := (rest middle answer holds between after).1 value returned
    exact ⟨result, bind_returned.mpr ⟨answer, between, ranToo, returnedToo⟩, holdsNext⟩
  · intro result returned
    obtain ⟨answer, between, ranToo, returned⟩ := bind_returned.mp returned
    obtain ⟨middle, ran, holds⟩ := (matched before between).2 answer ranToo
    obtain ⟨value, returnedToo, holdsNext⟩ := (rest middle answer holds between after).2 result returned
    exact ⟨value, bind_returned.mpr ⟨middle, between, ran, returnedToo⟩, holdsNext⟩

/-- **A look at the state before or after a computation** that changes nothing of what is looked at. -/
theorem Matches.swap {Seen Done DoneToo : Type} {look : Effect State Failure Seen}
    {lookToo : Effect State Other Seen} (looks : Matches Eq look lookToo)
    {run : Effect State Failure Done} {runToo : Effect State Other DoneToo}
    {relatedDone : Done → DoneToo → Prop} (runs : Matches relatedDone run runToo)
    (silent : ∀ {before seen after}, look before = (.ok seen, after) → after = before)
    (stable : ∀ {before done after}, run before = (.ok done, after) →
      ∀ seen, look before = (.ok seen, before) ↔ look after = (.ok seen, after))
    {next : Seen → Effect State Failure Third} {nextToo : Seen → Effect State Other Fourth}
    (rest : ∀ seen, Matches relatedNext (next seen) (nextToo seen)) :
    Matches relatedNext (look >>= fun seen => run >>= fun _ => next seen)
      (runToo >>= fun _ => lookToo >>= nextToo) := by
  intro before after
  constructor
  · intro value returned
    obtain ⟨seen, _, looked, continued⟩ := bind_returned.mp returned
    cases silent looked
    obtain ⟨done, later, ran, finished⟩ := bind_returned.mp continued
    obtain ⟨doneToo, ranToo, _⟩ := (runs before later).1 done ran
    obtain ⟨_, lookedToo, rfl⟩ := (looks later later).1 seen ((stable ran seen).mp looked)
    obtain ⟨answer, returnedToo, holds⟩ := (rest seen later after).1 value finished
    exact ⟨answer, bind_returned.mpr ⟨doneToo, later, ranToo,
      bind_returned.mpr ⟨seen, later, lookedToo, returnedToo⟩⟩, holds⟩
  · intro answer returned
    obtain ⟨doneToo, later, ranToo, continued⟩ := bind_returned.mp returned
    obtain ⟨seen, _, lookedToo, finished⟩ := bind_returned.mp continued
    obtain ⟨_, looked, rfl⟩ := (looks later _).2 seen lookedToo
    cases silent looked
    obtain ⟨done, ran, _⟩ := (runs before later).2 doneToo ranToo
    obtain ⟨value, returnedToo, holds⟩ := (rest _ later after).2 answer finished
    exact ⟨value, bind_returned.mpr ⟨_, before, (stable ran _).mpr looked,
      bind_returned.mpr ⟨done, later, ran, returnedToo⟩⟩, holds⟩

end Matches

end Effect

end Result
