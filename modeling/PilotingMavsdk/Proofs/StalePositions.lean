import PilotingMavsdk.CallEveryLoop
import PilotingMavsdk.Library.DirtyFlag
import PilotingMavsdk.Proofs.RunOnceEnds

/-! Whether the iterators of both `run_once` are still good when they are used again. An element
that is erased during a callback raises the flag, but one that is inserted does not. -/

namespace PilotingMavsdk
open Library

namespace RunOnceLoop
variable {Callback : Type}

def Inserts (loop : RunOnceLoop Callback) : DuringCallback Callback → Prop
  | .tick _ | .refresh _ | .remove _ | .swap _ => False
  | .add _ _ cookie => cookie ∉ loop.cookies

def Erases (loop : RunOnceLoop Callback) : DuringCallback Callback → Prop
  | .tick _ | .refresh _ | .add _ _ _ | .swap _ => False
  | .remove cookie => cookie ∈ loop.cookies

/-- `_iterator_invalidated`, for what is done to `_timeouts`. -/
def iteratorFlag : DirtyFlag (RunOnceLoop Callback) (DuringCallback Callback) where
  step := during
  flag := iteratorInvalidated
  changes := Inserts
  raises := Erases
  flag_step loop operation := by
    cases operation with
    | tick | refresh | swap => simp [during, Erases]
    | add callback milliseconds cookie =>
      simp only [during, Erases, or_false]
      split <;> rfl
    | remove cookie =>
      simp only [during, Erases]
      split
      next present => simp [present]
      next absent => simp [absent]

/-- If the loop goes on with its iterator after the callback, nothing has been inserted or erased
since the mutex was released. -/
def ResumesFresh (window : List (DuringCallback Callback)) (loop : RunOnceLoop Callback) : Prop :=
  ∀ timeout, loop.calledBack = some timeout →
    iteratorFlag.Fresh (loop.erased timeout.cookie) window

/-- When an element is inserted during a callback, the flag is set already, or an element is erased
during the same callback. -/
def FlaggedIfInserted (window : List (DuringCallback Callback)) (loop : RunOnceLoop Callback) :
    Prop :=
  ∀ timeout, loop.calledBack = some timeout →
    Occurs during Inserts (loop.erased timeout.cookie) window →
      loop.iteratorInvalidated = true ∨ Occurs during Erases (loop.erased timeout.cookie) window

private theorem resumesFresh_iff (window : List (DuringCallback Callback))
    (loop : RunOnceLoop Callback) :
    loop.ResumesFresh window ↔ loop.FlaggedIfInserted window :=
  forall₂_congr fun _ _ => iteratorFlag.fresh_iff

end RunOnceLoop

namespace CallEveryLoop
variable {Callback : Type}

def Inserts (loop : CallEveryLoop Callback) : DuringCall Callback → Prop
  | .tick _ | .change _ _ | .reset _ | .remove _ | .swap _ => False
  | .add _ _ cookie => cookie ∉ loop.cookies

def Erases (loop : CallEveryLoop Callback) : DuringCall Callback → Prop
  | .tick _ | .change _ _ | .reset _ | .add _ _ _ | .swap _ => False
  | .remove cookie => cookie ∈ loop.cookies

/-- `_iterator_invalidated`, for what is done to `_entries`. -/
def iteratorFlag : DirtyFlag (CallEveryLoop Callback) (DuringCall Callback) where
  step := during
  flag := iteratorInvalidated
  changes := Inserts
  raises := Erases
  flag_step loop operation := by
    cases operation with
    | tick | change | reset | swap => simp [during, Erases]
    | add callback interval cookie =>
      simp only [during, Erases, or_false]
      split <;> rfl
    | remove cookie =>
      simp only [during, Erases]
      split
      next present => simp [present]
      next absent => simp [absent]

/-- The entry that is called back in this round. -/
def calledBack (loop : CallEveryLoop Callback) : Option (Entry (Option Callback)) :=
  loop.pointee.filter fun entry => entry.IsDue loop.clock ∧ entry.callback.isSome

/-- The entry has been moved on when its callback is called. -/
def shifted (entry : Entry (Option Callback)) (loop : CallEveryLoop Callback) :
    CallEveryLoop Callback :=
  { loop with handler := loop.handler.advance entry.cookie }

def ResumesFresh (loop : CallEveryLoop Callback) : CallEveryAction Callback → Prop
  | .outside _ | .begin => True
  | .round window => ∀ entry, loop.calledBack = some entry →
      iteratorFlag.Fresh (loop.shifted entry) window

def FlaggedIfInserted (loop : CallEveryLoop Callback) : CallEveryAction Callback → Prop
  | .outside _ | .begin => True
  | .round window => ∀ entry, loop.calledBack = some entry →
      Occurs during Inserts (loop.shifted entry) window →
        loop.iteratorInvalidated = true ∨ Occurs during Erases (loop.shifted entry) window

private theorem resumesFresh_iff (loop : CallEveryLoop Callback)
    (action : CallEveryAction Callback) :
    loop.ResumesFresh action ↔ loop.FlaggedIfInserted action := by
  cases action with
  | outside | begin => exact Iff.rfl
  | round window => exact forall₂_congr fun _ _ => iteratorFlag.fresh_iff

end CallEveryLoop

/-- In each run of `TimeoutHandler::run_once`, and in each run of any number of passes of
`CallEveryHandler::run_once`: no iterator is used after an insertion or erasure if and only if
each insertion during a callback comes with an erasure, or with a flag that is set already. -/
theorem positions_fresh_iff {Callback : Type} :
    (∀ (table : TimeoutMap Callback) (iteratorInvalidated : Bool) (now : Int)
        (windows : Nat → List (DuringCallback Callback)),
      (∀ count, RunOnceLoop.ResumesFresh (windows count) (iterate RunOnceLoop.body windows
        (RunOnceLoop.begin table iteratorInvalidated now) count)) ↔
      ∀ count, RunOnceLoop.FlaggedIfInserted (windows count) (iterate RunOnceLoop.body windows
        (RunOnceLoop.begin table iteratorInvalidated now) count)) ∧
    (∀ (first last : CallEveryLoop Callback)
        (log : List (Taken (CallEveryLoop Callback) (CallEveryAction Callback) CallMade)),
      CallEveryLoop.machine.Run first log last →
      ((∀ taken ∈ log, taken.before.ResumesFresh taken.action) ↔
        ∀ taken ∈ log, taken.before.FlaggedIfInserted taken.action)) := by
  constructor
  · intro table iteratorInvalidated now windows
    exact forall_congr' fun count => RunOnceLoop.resumesFresh_iff _ _
  · intro first last log _
    exact forall₂_congr fun taken _ => CallEveryLoop.resumesFresh_iff _ _

/-- Two passes, with an entry that adds another one and removes it again. -/
theorem positions_fresh_iff_replaced :
    let first : CallEveryLoop String := { handler := ⟨[⟨64, some "poll", 0, 1⟩]⟩, clock := 2000000000 }
    let log := CallEveryLoop.machine.log first
      [.begin, .round [.add (some "once") 1 80, .remove 80], .begin, .round []]
    log.length = 4 ∧ ((∀ taken ∈ log, taken.before.ResumesFresh taken.action) ↔
      ∀ taken ∈ log, taken.before.FlaggedIfInserted taken.action) := by
  intro first log
  have run := CallEveryLoop.machine.run_last first
    [.begin, .round [.add (some "once") 1 80, .remove 80], .begin, .round []] (by decide +kernel)
  exact ⟨by decide +kernel, positions_fresh_iff.2 _ _ _ run⟩

/-- A callback adds a timer or an entry, as an item does that is sent again. -/
theorem insertion_unnoticed :
    (¬∀ (table : TimeoutMap String) (iteratorInvalidated : Bool) (now : Int)
        (windows : Nat → List (DuringCallback String)) (count : Nat),
      RunOnceLoop.ResumesFresh (windows count) (iterate RunOnceLoop.body windows
        (RunOnceLoop.begin table iteratorInvalidated now) count)) ∧
    ¬∀ (first last : CallEveryLoop String)
        (log : List (Taken (CallEveryLoop String) (CallEveryAction String) CallMade)),
      CallEveryLoop.machine.Run first log last →
        ∀ taken ∈ log, taken.before.ResumesFresh taken.action := by
  constructor
  · intro all
    have fresh := all ⟨[⟨64, some "resend", 0, 500⟩, ⟨72, some "lost", 9, 500⟩], by decide⟩ false 1
      (fun _ => [.add (some "resend") 500 80]) 0 _ rfl rfl
    have absent : (80 : Cookie) ∉ ([72] : List Cookie) := by decide
    exact fresh (.inl (.inl absent))
  · intro all
    let first : CallEveryLoop String :=
      { handler := ⟨[⟨64, some "poll", 0, 1⟩]⟩, clock := 2000000000 }
    have run := CallEveryLoop.machine.run_last first [.begin, .round [.add (some "once") 1 80]]
      (by decide +kernel)
    have called : first.begin.calledBack = some ⟨64, some "poll", 0, 1⟩ := by decide +kernel
    have fresh := all _ _ _ run _ (List.mem_cons_of_mem _ List.mem_cons_self) _ called rfl
    have absent : (80 : Cookie) ∉ ([64] : List Cookie) := by decide
    exact fresh (.inl (.inl absent))

end PilotingMavsdk
