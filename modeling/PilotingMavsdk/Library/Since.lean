import Mathlib.Data.List.Basic

/-! Queues of which only a later part is under control: from the first marked element on, a
property holds of all elements. The elements before it are left over from an earlier time. -/

namespace PilotingMavsdk.Library

universe u
variable {α : Type u} {marked holds : α → Prop}

/-- With `active` the mark has already passed and the property holds of the whole queue. -/
def Since (marked holds : α → Prop) : Prop → List α → Prop
  | _, [] => True
  | active, element :: rest =>
    (active ∨ marked element → holds element) ∧ Since marked holds (active ∨ marked element) rest

theorem Since.of_all {active : Prop} {queue : List α} (all : ∀ element ∈ queue, holds element) :
    Since marked holds active queue := by
  induction queue generalizing active with
  | nil => trivial
  | cons element rest ih =>
    exact ⟨fun _ => all element (by simp), ih fun other member => all other (by simp [member])⟩

theorem Since.append {active : Prop} {queue new : List α} (since : Since marked holds active queue)
    (all : ∀ element ∈ new, holds element) : Since marked holds active (queue ++ new) := by
  induction queue generalizing active with
  | nil => exact .of_all all
  | cons element rest ih => exact ⟨since.1, ih since.2⟩

theorem Since.weaken {active inactive : Prop} {queue : List α}
    (since : Since marked holds active queue) (implies : inactive → active) :
    Since marked holds inactive queue := by
  induction queue generalizing active inactive with
  | nil => trivial
  | cons element rest ih =>
    exact ⟨fun one => since.1 (one.imp_left implies), ih since.2 (Or.imp_left implies)⟩

end PilotingMavsdk.Library
