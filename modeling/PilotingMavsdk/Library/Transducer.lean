import Mathlib.Data.List.Forall2

/-! Transducers: what a state makes of a list of inputs, one after the other. -/

namespace PilotingMavsdk.Library

universe u v w
variable {State : Type u} {Input : Type v} {Output : Type w}

/-- The state after all inputs, and everything that was put out on the way. -/
def transduce (step : State → Input → State × List Output) :
    State → List Input → State × List Output
  | state, [] => (state, [])
  | state, input :: inputs =>
    let one := step state input
    let rest := transduce step one.1 inputs
    (rest.1, one.2 ++ rest.2)

variable (step : State → Input → State × List Output) (state : State)

theorem transduce_append (inputs more : List Input) :
    transduce step state (inputs ++ more) =
      ((transduce step (transduce step state inputs).1 more).1,
        (transduce step state inputs).2 ++
          (transduce step (transduce step state inputs).1 more).2) := by
  induction inputs generalizing state with
  | nil => rfl
  | cons input inputs ih =>
    rw [List.cons_append, transduce, ih, transduce, List.append_assoc]

theorem transduce_filterMap {Seen : Type w} (see : Output → Option Seen) (inputs : List Input) :
    transduce (fun state input => ((step state input).1, (step state input).2.filterMap see))
        state inputs =
      ((transduce step state inputs).1, (transduce step state inputs).2.filterMap see) := by
  induction inputs generalizing state with
  | nil => rfl
  | cons input inputs ih =>
    rw [transduce, ih, transduce, List.filterMap_append]

theorem transduce_simulates {Other : Type u} {Seen : Type w}
    {second : Other → Input → Other × List Seen}
    {related : State → Other → Prop} {corresponds : Output → Seen → Prop}
    (together : ∀ {state other} (input : Input), related state other →
      related (step state input).1 (second other input).1 ∧
        List.Forall₂ corresponds (step state input).2 (second other input).2)
    {other : Other} (start : related state other) (inputs : List Input) :
    related (transduce step state inputs).1 (transduce second other inputs).1 ∧
      List.Forall₂ corresponds (transduce step state inputs).2 (transduce second other inputs).2 := by
  induction inputs generalizing state other with
  | nil => exact ⟨start, .nil⟩
  | cons input inputs ih =>
    obtain ⟨middle, outputs⟩ := together input start
    obtain ⟨last, later⟩ := ih _ middle
    exact ⟨last, List.rel_append outputs later⟩

end PilotingMavsdk.Library
