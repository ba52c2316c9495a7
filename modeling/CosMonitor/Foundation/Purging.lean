/-
**Two histories of one machine: all inputs, and the inputs that are left when some are dropped.**

* `Machine`: a total step function that answers every input;
* `history`, `answers`: the state after a list of inputs, and the answers to the observed ones;
* `Uncontested`: on the way through both histories at once, no observed input meets a contested pair of
  states;
* `answers_purged_iff`: with a relation between the two states that dropped and uncontested inputs keep,
  the observed answers are the same in both histories exactly when no input was contested.
-/

import Mathlib.Data.List.Basic

namespace Purging

/-- A machine that answers every input and moves on. -/
structure Machine (State Input Answer : Type) where
  step : State → Input → State
  answer : State → Input → Answer

namespace Machine

variable {State Input Answer : Type} (machine : Machine State Input Answer)

/-- The answers to the observed inputs of a list, in order. -/
def answers (observed : Input → Bool) : State → List Input → List Answer
  | _, [] => []
  | state, input :: rest =>
      if observed input then
        machine.answer state input :: answers observed (machine.step state input) rest
      else answers observed (machine.step state input) rest

/-- The inputs without the dropped ones. -/
def purge (dropped : Input → Bool) (inputs : List Input) : List Input :=
  inputs.filter fun input => !dropped input

/-- No observed input is contested between the state it meets in the whole history and the one it meets
in the history without the dropped inputs. -/
def Uncontested (observed dropped : Input → Bool) (contested : State → State → Input → Prop) :
    State → State → List Input → Prop
  | _, _, [] => True
  | whole, purged, input :: rest =>
      if dropped input then
        Uncontested observed dropped contested (machine.step whole input) purged rest
      else (observed input = true → ¬contested whole purged input) ∧
        Uncontested observed dropped contested (machine.step whole input)
          (machine.step purged input) rest

/-- What relates the states of the two histories, with the inputs that are still to come. -/
structure Unwinding (observed dropped : Input → Bool) (contested : State → State → Input → Prop)
    (related : State → State → List Input → Prop) : Prop where
  /-- A dropped input is not observed. -/
  apart : ∀ input, dropped input = true → observed input = false
  /-- A dropped input keeps the relation. -/
  drops : ∀ whole purged input rest, related whole purged (input :: rest) → dropped input = true →
    related (machine.step whole input) purged rest
  /-- An input that is not contested keeps the relation. -/
  keeps : ∀ whole purged input rest, related whole purged (input :: rest) →
    (observed input = true → ¬contested whole purged input) →
    related (machine.step whole input) (machine.step purged input) rest
  /-- The answers to an observed input differ where it is contested, and there only. -/
  decides : ∀ whole purged input rest, related whole purged (input :: rest) →
    observed input = true →
    (machine.answer whole input = machine.answer purged input ↔ ¬contested whole purged input)

variable {machine} {observed dropped : Input → Bool} {contested : State → State → Input → Prop}
  {related : State → State → List Input → Prop}

/-- **The observed answers survive the purge** exactly when no observed input was contested. -/
theorem answers_purged_iff (unwinding : machine.Unwinding observed dropped contested related)
    {whole purged : State} {inputs : List Input} (start : related whole purged inputs) :
    machine.answers observed whole inputs =
        machine.answers observed purged (purge dropped inputs) ↔
      machine.Uncontested observed dropped contested whole purged inputs := by
  induction inputs generalizing whole purged with
  | nil => exact iff_of_true rfl trivial
  | cons input rest ih =>
      by_cases out : dropped input = true
      · -- A dropped input is answered in the whole history only, where nobody observes it.
        have purgedInputs : purge dropped (input :: rest) = purge dropped rest :=
          List.filter_cons_of_neg (by simp [out])
        have silent : observed input = false := unwinding.apart input out
        rw [answers, silent, if_neg Bool.false_ne_true, Uncontested, if_pos out, purgedInputs]
        exact ih (unwinding.drops _ _ _ _ start out)
      · have purgedInputs : purge dropped (input :: rest) = input :: purge dropped rest :=
          List.filter_cons_of_pos (by simp [out])
        rw [purgedInputs, Uncontested, if_neg out, answers, answers]
        by_cases seen : observed input = true
        · rw [if_pos seen, if_pos seen, List.cons.injEq, unwinding.decides _ _ _ _ start seen]
          constructor
          · rintro ⟨calm, same⟩
            exact ⟨fun _ => calm, (ih (unwinding.keeps _ _ _ _ start fun _ => calm)).mp same⟩
          · rintro ⟨calm, later⟩
            exact ⟨calm seen, (ih (unwinding.keeps _ _ _ _ start calm)).mpr later⟩
        · rw [if_neg seen, if_neg seen]
          have calm : observed input = true → ¬contested whole purged input := fun now =>
            absurd now seen
          rw [ih (unwinding.keeps _ _ _ _ start calm)]
          exact ⟨fun later => ⟨calm, later⟩, fun both => both.2⟩

end Machine

end Purging
