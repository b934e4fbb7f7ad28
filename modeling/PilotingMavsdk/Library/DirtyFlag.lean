import Mathlib.Tactic.ByContra
import Mathlib.Tactic.Tauto

/-! A collection that is changed while somebody keeps a position in it, and a flag that is to tell
that the position can no longer be used. Some of the changes raise it. -/

namespace PilotingMavsdk.Library

universe u v

def Occurs {State : Type u} {Operation : Type v} (step : State → Operation → State)
    (event : State → Operation → Prop) : State → List Operation → Prop
  | _, [] => False
  | state, operation :: operations =>
    event state operation ∨ Occurs step event (step state operation) operations

structure DirtyFlag (State : Type u) (Operation : Type v) where
  step : State → Operation → State
  flag : State → Bool
  changes : State → Operation → Prop
  raises : State → Operation → Prop
  flag_step : ∀ state operation,
    flag (step state operation) = true ↔ flag state = true ∨ raises state operation

namespace DirtyFlag
variable {State : Type u} {Operation : Type v} (dirty : DirtyFlag State Operation)
  {state : State} {operations : List Operation}

/-- If the flag is not set after all operations, none of them has changed the collection. -/
def Fresh (state : State) (operations : List Operation) : Prop :=
  dirty.flag (operations.foldl dirty.step state) = false →
    ¬Occurs dirty.step (fun state operation => dirty.changes state operation ∨
      dirty.raises state operation) state operations

theorem flag_foldl : dirty.flag (operations.foldl dirty.step state) = true ↔
    dirty.flag state = true ∨ Occurs dirty.step dirty.raises state operations := by
  induction operations generalizing state with
  | nil => simp [Occurs]
  | cons operation operations ih =>
    rw [List.foldl_cons, ih, dirty.flag_step, Occurs, or_assoc]

theorem occurs_or {step : State → Operation → State} {first second : State → Operation → Prop} :
    Occurs step (fun state operation => first state operation ∨ second state operation) state
      operations ↔ Occurs step first state operations ∨ Occurs step second state operations := by
  induction operations generalizing state with
  | nil => simp [Occurs]
  | cons operation operations ih =>
    simp only [Occurs, ih]
    tauto

theorem fresh_iff : dirty.Fresh state operations ↔
    (Occurs dirty.step dirty.changes state operations →
      dirty.flag state = true ∨ Occurs dirty.step dirty.raises state operations) := by
  rw [Fresh, occurs_or, ← dirty.flag_foldl, ← Bool.not_eq_true]
  constructor
  · intro fresh changed
    by_contra unset
    exact fresh unset (.inl changed)
  · intro raised unset changed
    rcases changed with changed | raises
    · exact unset (raised changed)
    · exact unset (dirty.flag_foldl.mpr (.inr raises))

end DirtyFlag
end PilotingMavsdk.Library
