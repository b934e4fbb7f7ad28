import Mathlib.Order.WellFounded

/-! Loops whose body gets another choice of the environment in each round. -/

namespace PilotingMavsdk.Library

universe u v w
variable {State : Type u} {Choice : Type v} {body : Choice → State → State}

def iterate (body : Choice → State → State) (choices : Nat → Choice) (first : State) : Nat → State
  | 0 => first
  | count + 1 => body (choices count) (iterate body choices first count)

theorem iterate_congr {choices others : Nat → Choice} {first : State} {count : Nat}
    (same : ∀ earlier, earlier < count → choices earlier = others earlier) :
    iterate body choices first count = iterate body others first count := by
  induction count with
  | zero => rfl
  | succ count ih =>
    rw [iterate, iterate, same count (Nat.lt_succ_self count)]
    rw [ih fun earlier before => same earlier (Nat.lt_succ_of_lt before)]

theorem iterate_invariant {Invariant : State → Prop}
    (preserved : ∀ choice state, Invariant state → Invariant (body choice state))
    (choices : Nat → Choice) {first : State} (start : Invariant first) (count : Nat) :
    Invariant (iterate body choices first count) := by
  induction count with
  | zero => exact start
  | succ count ih => exact preserved _ _ ih

theorem iterate_persists {Persistent : State → Prop} {choices : Nat → Choice} {first : State}
    (preserved : ∀ count, Persistent (iterate body choices first count) →
      Persistent (iterate body choices first (count + 1)))
    {count : Nat} (reached : Persistent (iterate body choices first count)) (more : Nat) :
    Persistent (iterate body choices first (count + more)) := by
  induction more with
  | zero => exact reached
  | succ more ih => exact preserved _ ih

/-- A loop ends if every round that is not the last one makes a well-founded measure smaller. -/
theorem iterate_ends {Measure : Type w} {smaller : Measure → Measure → Prop}
    (wellFounded : WellFounded smaller) (measure : State → Measure) {Done : State → Prop}
    {choices : Nat → Choice} {first : State}
    (decreases : ∀ count, ¬Done (iterate body choices first count) →
      smaller (measure (iterate body choices first (count + 1)))
        (measure (iterate body choices first count))) :
    ∃ count, Done (iterate body choices first count) := by
  obtain ⟨value, ⟨count, rfl⟩, least⟩ := wellFounded.has_min
    (Set.range fun count => measure (iterate body choices first count)) ⟨_, 0, rfl⟩
  refine ⟨count, ?_⟩
  by_contra running
  exact least _ ⟨count + 1, rfl⟩ (decreases count running)

end PilotingMavsdk.Library
