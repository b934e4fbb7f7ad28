import Mathlib.Data.List.Basic

/-! Traces whose events are accounted for by what came before them. -/

namespace PilotingMavsdk.Library

universe u
variable {Event : Type u} {Allowed : List Event → Event → Prop} {trace events : List Event}

/-- Each event is allowed after those before it. -/
def Accounted (Allowed : List Event → Event → Prop) (trace : List Event) : Prop :=
  ∀ before event later, trace = before ++ event :: later → Allowed before event

theorem accounted_nil : Accounted Allowed [] := by
  intro before event later split
  simp at split

theorem Accounted.append (accounted : Accounted Allowed trace)
    (next : ∀ before event later, events = before ++ event :: later →
      Allowed (trace ++ before) event) :
    Accounted Allowed (trace ++ events) := by
  intro before event later split
  rcases List.append_eq_append_iff.mp split with ⟨more, rfl, rest⟩ | ⟨more, whole, rest⟩
  · exact next more event later rest
  · cases more with
    | nil =>
      obtain rfl : before = trace := by simpa using whole.symm
      have now := next [] event later (by simpa using rest.symm)
      rwa [List.append_nil] at now
    | cons other more =>
      obtain ⟨rfl, _⟩ := List.cons.inj rest
      exact accounted before event more whole

theorem Accounted.append_singleton {event : Event} (accounted : Accounted Allowed trace)
    (now : Allowed trace event) : Accounted Allowed (trace ++ [event]) := by
  apply accounted.append
  intro before other later split
  obtain ⟨rfl, same⟩ := List.append_eq_singleton_iff.mp split.symm |>.resolve_right (by simp)
  cases same
  rwa [List.append_nil]

theorem Accounted.append_all (accounted : Accounted Allowed trace)
    (still : ∀ more event, Allowed trace event → Allowed (trace ++ more) event)
    (now : ∀ event ∈ events, Allowed trace event) : Accounted Allowed (trace ++ events) := by
  apply accounted.append
  intro before event later split
  exact still before event (now event (by rw [split]; simp))

end PilotingMavsdk.Library
