import PilotingMavsdk.UserCallbackQueue

/-! How long the queue of user callbacks can get. What counts is the queue together with the calls
that have seen its size and not yet put their callback in. -/

namespace PilotingMavsdk
open Library

namespace UserCallbacks
variable {Caller Func : Type}

/-- The callbacks that are in the queue or certain to come into it. -/
def load (callbacks : UserCallbacks Caller Func) : Nat :=
  callbacks.userCallbackQueue.size + callbacks.calls.length

def Bounded (callbacks : UserCallbacks Caller Func) : Prop := callbacks.load ≤ 100

/-- A size is asked for while there is room, or when the queue is seen to be full. -/
def HasRoom (callbacks : UserCallbacks Caller Func) : UserCallbackStep Caller Func → Prop
  | .sizeCheck _ _ _ _ => callbacks.userCallbackQueue.size = 100 ∨ callbacks.load < 100
  | .enqueue _ | .dequeue | .stop => True

instance (callbacks : UserCallbacks Caller Func) :
    (step : UserCallbackStep Caller Func) → Decidable (callbacks.HasRoom step)
  | .sizeCheck _ _ _ _ => inferInstanceAs (Decidable (_ ∨ _))
  | .enqueue _ | .dequeue | .stop => .isTrue trivial

def IsEnqueue : UserCallbackStep Caller Func → Prop
  | .enqueue _ => True
  | .sizeCheck _ _ _ _ | .dequeue | .stop => False

private theorem hasRoom_of_isEnqueue (callbacks : UserCallbacks Caller Func)
    {step : UserCallbackStep Caller Func} (enqueue : IsEnqueue step) : callbacks.HasRoom step := by
  cases step with
  | sizeCheck => exact enqueue.elim
  | enqueue | dequeue | stop => trivial

private theorem load_sizeCheck (caller : Caller) (filename : String) (linenumber : Int)
    (func : Func) (callbacks : UserCallbacks Caller Func) :
    (callbacks.sizeCheck caller filename linenumber func).1.load =
      if callbacks.userCallbackQueue.size = 100 then callbacks.load else callbacks.load + 1 := by
  simp only [sizeCheck]
  split
  · rfl
  · simp [load, Nat.add_assoc]

variable [DecidableEq Caller]

private theorem load_enqueue {caller : Caller} {callbacks after : UserCallbacks Caller Func}
    (enqueued : callbacks.enqueue caller = some after) : after.load = callbacks.load := by
  unfold enqueue at enqueued
  split at enqueued
  · cases enqueued
  next call found =>
    cases enqueued
    have member := List.mem_of_find?_eq_some found
    have shorter := List.length_eraseP_of_mem member (List.find?_some found)
    have nonempty := List.length_pos_of_mem member
    simp only [load, SafeQueue.size_enqueue, shorter]
    omega

/-- Nothing but a size check without room adds to what can come into the queue. -/
private theorem hasRoom_iff_bounded {before after : UserCallbacks Caller Func}
    {step : UserCallbackStep Caller Func} {warned : List QueueWarning}
    (stepped : machine.step before step = some (after, warned)) (bounded : before.Bounded) :
    before.HasRoom step ↔ after.Bounded := by
  cases step with
  | sizeCheck caller filename linenumber func =>
    simp only [machine] at stepped
    split at stepped
    · cases stepped
    · have grown := load_sizeCheck caller filename linenumber func before
      rw [Option.some.inj stepped] at grown
      simp only [HasRoom, Bounded] at bounded ⊢
      rw [grown]
      split <;> omega
  | enqueue caller =>
    obtain ⟨rest, enqueued, same⟩ := Option.map_eq_some_iff.mp stepped
    cases same
    refine iff_of_true trivial ?_
    rwa [Bounded, load_enqueue enqueued]
  | dequeue =>
    obtain ⟨⟨item, rest⟩, dequeued, same⟩ := Option.map_eq_some_iff.mp stepped
    cases same
    have shorter := SafeQueue.size_dequeue dequeued
    exact iff_of_true trivial (Nat.le_trans (Nat.add_le_add_right shorter _) bounded)
  | stop =>
    cases stepped
    exact iff_of_true trivial bounded

private theorem enqueue_first {callbacks : UserCallbacks Caller Func}
    {call : Caller × UserCallback Func}
    {others : List (Caller × UserCallback Func)} (calls : callbacks.calls = call :: others) :
    ∃ after, machine.step callbacks (.enqueue call.1) = some (after, []) ∧
      after.calls = others ∧ after.load = callbacks.load := by
  have own : isCallOf call.1 call = true := decide_eq_true rfl
  have enqueued : callbacks.enqueue call.1 = some { callbacks with
      userCallbackQueue := callbacks.userCallbackQueue.enqueue call.2, calls := others } := by
    rw [enqueue, calls, List.find?_cons_of_pos own, List.eraseP_cons_of_pos own]
  refine ⟨_, ?_, rfl, load_enqueue enqueued⟩
  simp only [machine, enqueued, Option.map_some]

private theorem run_enqueues (callbacks : UserCallbacks Caller Func) :
    ∃ log last, machine.Run callbacks log last ∧ (∀ taken ∈ log, IsEnqueue taken.action) ∧
      last.userCallbackQueue.size = callbacks.load := by
  generalize waiting : callbacks.calls = calls
  induction calls generalizing callbacks with
  | nil => exact ⟨[], callbacks, .nil, by simp, by simp [load, waiting]⟩
  | cons call others ih =>
    obtain ⟨after, stepped, fewer, same⟩ := enqueue_first waiting
    obtain ⟨log, last, run, enqueues, size⟩ := ih after fewer
    let taken : Taken (UserCallbacks Caller Func) (UserCallbackStep Caller Func) QueueWarning :=
      ⟨callbacks, .enqueue call.1, after, []⟩
    have one : machine.Run callbacks ([] ++ [taken]) after := .snoc .nil stepped
    refine ⟨[taken] ++ log, last, one.append run, ?_, size.trans same⟩
    intro step member
    rcases List.mem_cons.mp member with rfl | later
    · trivial
    · exact enqueues step later

/-- The queue holds no more than it may, and the calls that are under way cannot make it. -/
def WithinBound (callbacks : UserCallbacks Caller Func) : Prop :=
  callbacks.userCallbackQueue.size ≤ 100 ∧
    ∀ log last, machine.Run callbacks log last → (∀ taken ∈ log, IsEnqueue taken.action) →
      last.userCallbackQueue.size ≤ 100

private theorem bounded_of_hasRoom
    (taken : Taken (UserCallbacks Caller Func) (UserCallbackStep Caller Func) QueueWarning)
    (legal : machine.Legal taken) (room : taken.before.HasRoom taken.action)
    (bounded : taken.before.Bounded) : taken.after.Bounded :=
  (hasRoom_iff_bounded legal bounded).mp room

private theorem bounded_iff_withinBound (callbacks : UserCallbacks Caller Func) :
    callbacks.Bounded ↔ callbacks.WithinBound := by
  constructor
  · intro bounded
    refine ⟨Nat.le_trans (Nat.le_add_right _ _) bounded, ?_⟩
    intro log last run enqueues
    have final := (run.guarded bounded_of_hasRoom
      (fun taken member => hasRoom_of_isEnqueue taken.before (enqueues taken member)) bounded).1
    exact Nat.le_trans (Nat.le_add_right _ _) final
  · intro ⟨_, within⟩
    obtain ⟨log, last, run, enqueues, size⟩ := run_enqueues callbacks
    rw [Bounded, ← size]
    exact within log last run enqueues

private theorem withinBound_iff_hasRoom
    (taken : Taken (UserCallbacks Caller Func) (UserCallbackStep Caller Func) QueueWarning)
    (legal : machine.Legal taken) (bounded : taken.before.Bounded) :
    taken.after.WithinBound ↔ taken.before.HasRoom taken.action := by
  rw [← bounded_iff_withinBound]
  exact (hasRoom_iff_bounded legal bounded).symm

private theorem bounded_of_withinBound
    (taken : Taken (UserCallbacks Caller Func) (UserCallbackStep Caller Func) QueueWarning)
    (_ : machine.Legal taken) (_ : taken.before.Bounded) (within : taken.after.WithinBound) :
    taken.after.Bounded :=
  (bounded_iff_withinBound taken.after).mpr within

/-- However the threads take turns: the bound holds all along, with whatever is under way, if and
only if each thread that asks for the size either finds the queue full or finds room for its
callback beside those that are on their way. -/
theorem withinBound_iff {callbackDebugging : Bool}
    {log : List (Taken (UserCallbacks Caller Func) (UserCallbackStep Caller Func) QueueWarning)}
    {last : UserCallbacks Caller Func} (run : machine.Run { callbackDebugging } log last) :
    (∀ taken ∈ log, taken.after.WithinBound) ↔
      ∀ taken ∈ log, taken.before.HasRoom taken.action :=
  run.all_iff withinBound_iff_hasRoom bounded_of_withinBound (Nat.zero_le _)

/-- Two threads that ask for the size together, and the thread that takes the callbacks out. -/
def shared : List (UserCallbackStep String Nat) :=
  [.sizeCheck "receive" "telemetry_impl.cpp" 100 1, .sizeCheck "timer" "action_impl.cpp" 200 2,
    .enqueue "timer", .dequeue, .enqueue "receive", .dequeue, .stop, .dequeue]

theorem withinBound_shared :
    (machine.log { callbackDebugging := true } shared).length = shared.length ∧
      ∀ taken ∈ machine.log { callbackDebugging := true } shared, taken.after.WithinBound := by
  obtain ⟨last, run⟩ := machine.run_log { callbackDebugging := true } shared (by decide)
  exact ⟨by decide, (withinBound_iff run).mpr (by decide)⟩

/-- The queue fills up to 99, and then two threads find it so before either goes on. -/
def racing : List (UserCallbackStep String Nat) :=
  (List.replicate 99 [.sizeCheck "receive" "telemetry_impl.cpp" 100 1, .enqueue "receive"]).flatten
    ++ [.sizeCheck "receive" "telemetry_impl.cpp" 100 1,
      .sizeCheck "timer" "action_impl.cpp" 200 2, .enqueue "receive", .enqueue "timer"]

theorem racing_overflows :
    ¬∀ log last, machine.Run ({} : UserCallbacks String Nat) log last →
      last.userCallbackQueue.size ≤ 100 := by
  intro bounded
  have run := machine.run_last {} racing (by decide +kernel)
  have size : (machine.last {} racing).userCallbackQueue.size = 101 := by decide +kernel
  have impossible := bounded _ _ run
  omega

end UserCallbacks
end PilotingMavsdk
