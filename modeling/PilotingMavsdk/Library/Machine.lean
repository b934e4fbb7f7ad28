import Mathlib.Data.List.Basic

/-! Machines whose steps are partial and deterministic. Whatever the environment may choose is
part of the action, so a run is fixed by its actions and a concrete one can be computed. -/

namespace PilotingMavsdk.Library

universe u v w

/-- `none` means that the action is not possible in this state. -/
structure Machine (State : Type u) (Action : Type v) (Output : Type w) where
  step : State → Action → Option (State × List Output)

/-- One step of a run, as an observer records it. -/
structure Taken (State : Type u) (Action : Type v) (Output : Type w) where
  before : State
  action : Action
  after : State
  outputs : List Output

namespace Machine
variable {State : Type u} {Action : Type v} {Output : Type w}

/-- The recorded step is one of the machine's. -/
def Legal (machine : Machine State Action Output) (taken : Taken State Action Output) : Prop :=
  machine.step taken.before taken.action = some (taken.after, taken.outputs)

inductive Run (machine : Machine State Action Output) (first : State) :
    List (Taken State Action Output) → State → Prop where
  | nil : Run machine first [] first
  | snoc {log : List (Taken State Action Output)} {taken : Taken State Action Output}
      (run : Run machine first log taken.before) (legal : machine.Legal taken) :
      Run machine first (log ++ [taken]) taken.after

/-- The steps that a list of actions makes the machine take, if all of them are possible. -/
def exec (machine : Machine State Action Output) :
    State → List Action → Option (List (Taken State Action Output) × State)
  | state, [] => some ([], state)
  | state, action :: actions =>
    match machine.step state action with
    | none => none
    | some (after, outputs) =>
      match machine.exec after actions with
      | none => none
      | some (log, last) => some (⟨state, action, after, outputs⟩ :: log, last)

variable {machine : Machine State Action Output}

theorem Run.append {first middle last : State} {log rest : List (Taken State Action Output)}
    (run : machine.Run first log middle) (more : machine.Run middle rest last) :
    machine.Run first (log ++ rest) last := by
  induction more with
  | nil => simpa using run
  | snoc more legal ih =>
    rw [← List.append_assoc]
    exact .snoc ih legal

theorem run_of_exec {actions : List Action} {first last : State}
    {log : List (Taken State Action Output)}
    (executed : machine.exec first actions = some (log, last)) : machine.Run first log last := by
  induction actions generalizing first log with
  | nil => cases executed; exact .nil
  | cons action actions ih =>
    simp only [exec] at executed
    split at executed
    · cases executed
    next after outputs stepped =>
      split at executed
      · cases executed
      next rest final following =>
        cases executed
        let taken : Taken State Action Output := ⟨first, action, after, outputs⟩
        have one : machine.Run first ([] ++ [taken]) after := .snoc .nil stepped
        exact one.append (ih following)

/-- The log of the run that the actions describe; empty when one of them is not possible. -/
def log (machine : Machine State Action Output) (first : State) (actions : List Action) :
    List (Taken State Action Output) :=
  ((machine.exec first actions).map Prod.fst).getD []

def last (machine : Machine State Action Output) (first : State) (actions : List Action) : State :=
  ((machine.exec first actions).map Prod.snd).getD first

theorem run_last (machine : Machine State Action Output) (first : State) (actions : List Action)
    (possible : (machine.exec first actions).isSome = true) :
    machine.Run first (machine.log first actions) (machine.last first actions) := by
  obtain ⟨⟨log, last⟩, executed⟩ := Option.isSome_iff_exists.mp possible
  simpa [Machine.log, Machine.last, executed] using run_of_exec executed

theorem run_log (machine : Machine State Action Output) (first : State) (actions : List Action)
    (possible : (machine.exec first actions).isSome = true) :
    ∃ last, machine.Run first (machine.log first actions) last :=
  ⟨_, run_last machine first actions possible⟩

theorem Run.legal {first last : State} {log : List (Taken State Action Output)}
    (run : machine.Run first log last) : ∀ taken ∈ log, machine.Legal taken := by
  induction run with
  | nil => simp
  | snoc run legal ih =>
    intro other member
    rcases List.mem_append.mp member with member | member
    · exact ih other member
    · rw [List.mem_singleton.mp member]; exact legal

theorem Run.at {first last : State} {log : List (Taken State Action Output)}
    (run : machine.Run first log last) {before after : List (Taken State Action Output)}
    {taken : Taken State Action Output} (split : log = before ++ taken :: after) :
    machine.Run first before taken.before ∧ machine.Legal taken ∧
      machine.Run taken.after after last := by
  induction run generalizing after with
  | nil => simp at split
  | @snoc log other run legal ih =>
    rcases List.eq_nil_or_concat after with rfl | ⟨earlier, final, rfl⟩
    · obtain ⟨rfl, same⟩ := List.append_inj' split rfl
      cases same
      exact ⟨run, legal, .nil⟩
    · rw [List.concat_eq_append, ← List.cons_append, ← List.append_assoc] at split
      obtain ⟨rfl, same⟩ := List.append_inj' split rfl
      cases same
      obtain ⟨start, here, rest⟩ := ih rfl
      rw [List.concat_eq_append]
      exact ⟨start, here, .snoc rest legal⟩

/-- If every step of a machine is matched by a step of another one with the same outputs, so is every
run. The other machine need only match in states that it can reach. -/
theorem Run.simulated {Other : Type u} {Move : Type v} {other : Machine Other Move Output}
    {start : Other} {Related : Other → State → Prop}
    (step : ∀ {moves state taken}, other.Run start moves state → Related state taken.before →
      machine.Legal taken → ∃ move after, other.step state move = some (after, taken.outputs) ∧
        Related after taken.after)
    {first last : State} {log : List (Taken State Action Output)} (run : machine.Run first log last)
    (related : Related start first) :
    ∃ moves state, other.Run start moves state ∧ Related state last ∧
      moves.map Taken.outputs = log.map Taken.outputs := by
  induction run with
  | nil => exact ⟨[], start, .nil, related, rfl⟩
  | @snoc log taken run legal ih =>
    obtain ⟨moves, state, before, here, outputs⟩ := ih
    obtain ⟨move, after, matched, there⟩ := step before here legal
    have longer : other.Run start (moves ++ [⟨state, move, after, taken.outputs⟩]) after :=
      .snoc before matched
    refine ⟨_, after, longer, there, ?_⟩
    rw [List.map_append, List.map_append, outputs]
    rfl

/-- A run keeps a property that each step allowed by `Allowed` keeps. The other rules for
invariants are special cases of this one. -/
theorem Run.guarded {Invariant : State → Prop} {Allowed : Taken State Action Output → Prop}
    (preserved : ∀ taken, machine.Legal taken → Allowed taken →
      Invariant taken.before → Invariant taken.after)
    {first last : State} {log : List (Taken State Action Output)} (run : machine.Run first log last)
    (allowed : ∀ taken ∈ log, Allowed taken) (start : Invariant first) :
    Invariant last ∧ ∀ taken ∈ log, Invariant taken.before ∧ Invariant taken.after := by
  induction run with
  | nil => exact ⟨start, by simp⟩
  | @snoc log taken run legal ih =>
    obtain ⟨before, earlier⟩ := ih (fun other member => allowed other (by simp [member]))
    have after := preserved taken legal (allowed taken (by simp)) before
    refine ⟨after, ?_⟩
    intro other member
    rcases List.mem_append.mp member with member | member
    · exact earlier other member
    · rw [List.mem_singleton.mp member]; exact ⟨before, after⟩

theorem Run.invariant {Invariant : State → Prop}
    (preserved : ∀ taken, machine.Legal taken → Invariant taken.before → Invariant taken.after)
    {first last : State} {log : List (Taken State Action Output)} (run : machine.Run first log last)
    (start : Invariant first) :
    Invariant last ∧ ∀ taken ∈ log, Invariant taken.before ∧ Invariant taken.after :=
  have unguarded (taken : Taken State Action Output) (legal : machine.Legal taken) (_ : True) :=
    preserved taken legal
  run.guarded unguarded (fun _ _ => trivial) start

/-- Two conditions on steps single out the same runs when they agree on each step taken from a
sound state and the first of them leads to sound states only. -/
theorem Run.all_iff {Sound : State → Prop} {First Second : Taken State Action Output → Prop}
    (agree : ∀ taken, machine.Legal taken → Sound taken.before → (First taken ↔ Second taken))
    (next : ∀ taken, machine.Legal taken → Sound taken.before → First taken → Sound taken.after)
    {first last : State} {log : List (Taken State Action Output)} (run : machine.Run first log last)
    (start : Sound first) : (∀ taken ∈ log, First taken) ↔ (∀ taken ∈ log, Second taken) := by
  have both : ((∀ taken ∈ log, First taken) ↔ (∀ taken ∈ log, Second taken)) ∧
      ((∀ taken ∈ log, First taken) → Sound last) := by
    induction run with
    | nil => exact ⟨by simp, fun _ => start⟩
    | @snoc log taken run legal ih =>
      simp only [List.mem_append, List.mem_singleton, or_imp, forall_and, forall_eq]
      constructor
      · constructor
        · intro ⟨earlier, last⟩
          exact ⟨ih.1.mp earlier, (agree taken legal (ih.2 earlier)).mp last⟩
        · intro ⟨earlier, last⟩
          have firsts := ih.1.mpr earlier
          exact ⟨firsts, (agree taken legal (ih.2 firsts)).mpr last⟩
      · intro ⟨earlier, last⟩
        exact next taken legal (ih.2 earlier) last
  exact both.1

/-- Each step of the log fits the steps that were taken before it. -/
def Throughout
    (Fits : List (Taken State Action Output) → Taken State Action Output → Prop)
    (log : List (Taken State Action Output)) : Prop :=
  ∀ earlier taken later, log = earlier ++ taken :: later → Fits earlier taken

section
variable {Fits : List (Taken State Action Output) → Taken State Action Output → Prop}

theorem throughout_nil : Throughout Fits [] := by
  intro earlier taken later split
  simp at split

theorem throughout_append_singleton {log : List (Taken State Action Output)}
    {taken : Taken State Action Output} :
    Throughout Fits (log ++ [taken]) ↔ Throughout Fits log ∧ Fits log taken := by
  constructor
  · intro all
    refine ⟨?_, all log taken [] rfl⟩
    intro earlier other later split
    apply all earlier other (later ++ [taken])
    rw [split, List.append_assoc, List.cons_append]
  · intro ⟨all, here⟩ earlier other later split
    rcases List.eq_nil_or_concat later with rfl | ⟨rest, final, rfl⟩
    · obtain ⟨rfl, same⟩ := List.append_inj' split rfl
      cases same
      exact here
    · rw [List.concat_eq_append, ← List.cons_append, ← List.append_assoc] at split
      obtain ⟨rfl, same⟩ := List.append_inj' split rfl
      exact all earlier other rest rfl

theorem throughout_iff_getElem {log : List (Taken State Action Output)} : Throughout Fits log ↔
    ∀ position, (inside : position < log.length) → Fits (log.take position) log[position] := by
  constructor
  · intro all position inside
    apply all _ _ (log.drop (position + 1))
    rw [← List.drop_eq_getElem_cons inside, List.take_append_drop]
  · rintro all earlier taken later rfl
    simpa using all earlier.length (by simp)

end

/-- `all_iff` where conditions and soundness may refer to the past, in runs whose steps are all
allowed. -/
theorem Run.throughout_iff
    {Sound : List (Taken State Action Output) → State → Prop}
    {Allowed First Second : List (Taken State Action Output) → Taken State Action Output → Prop}
    (agree : ∀ log taken, machine.Legal taken → Sound log taken.before → Allowed log taken →
      (First log taken ↔ Second log taken))
    (next : ∀ log taken, machine.Legal taken → Sound log taken.before → Allowed log taken →
      First log taken → Sound (log ++ [taken]) taken.after)
    {first last : State} {log : List (Taken State Action Output)} (run : machine.Run first log last)
    (allowed : Throughout Allowed log) (start : Sound [] first) :
    Throughout First log ↔ Throughout Second log := by
  have both : (Throughout First log ↔ Throughout Second log) ∧
      (Throughout First log → Sound log last) := by
    induction run with
    | nil => exact ⟨iff_of_true throughout_nil throughout_nil, fun _ => start⟩
    | @snoc log taken run legal ih =>
      obtain ⟨before, here⟩ := throughout_append_singleton.mp allowed
      obtain ⟨same, sound⟩ := ih before
      simp only [throughout_append_singleton]
      constructor
      · constructor
        · intro ⟨firsts, last⟩
          exact ⟨same.mp firsts, (agree log taken legal (sound firsts) here).mp last⟩
        · intro ⟨seconds, last⟩
          have firsts := same.mpr seconds
          exact ⟨firsts, (agree log taken legal (sound firsts) here).mpr last⟩
      · intro ⟨firsts, last⟩
        exact next log taken legal (sound firsts) here last
  exact both.1

end Machine
end PilotingMavsdk.Library
