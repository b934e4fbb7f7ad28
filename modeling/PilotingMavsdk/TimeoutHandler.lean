import PilotingMavsdk.Library.Machine
import PilotingMavsdk.WorkItem

/-! `TimeoutHandler` and its users, one step for each section of the timer table's mutex. Times
are in nanoseconds of the steady clock. -/

namespace PilotingMavsdk
open Library

/-- An entry of `_timeouts`. `milliseconds` is `int64_t(duration_s * 1e3)`, the only form in which
the duration is used, and `callback` stands for the function object. -/
structure Timeout (Callback : Type) where
  cookie : Cookie
  callback : Callback
  time : Int
  milliseconds : Int
deriving DecidableEq, Repr

def steadyTimeInFuture (now milliseconds : Int) : Int := now + milliseconds * 1000000

structure TimeoutHandler (Callback : Type) where
  timeouts : List (Timeout Callback) := []
deriving DecidableEq, Repr

namespace TimeoutHandler
variable {Callback : Type}

def cookies (handler : TimeoutHandler Callback) : List Cookie := handler.timeouts.map Timeout.cookie

/-- The new key is the address of the new `Timeout`. -/
def add (callback : Callback) (milliseconds now : Int) (cookie : Cookie)
    (handler : TimeoutHandler Callback) : TimeoutHandler Callback :=
  ⟨handler.timeouts ++ [⟨cookie, callback, steadyTimeInFuture now milliseconds, milliseconds⟩]⟩

def refresh (cookie : Cookie) (now : Int) (handler : TimeoutHandler Callback) :
    TimeoutHandler Callback :=
  ⟨handler.timeouts.map fun timeout =>
    if timeout.cookie = cookie then
      { timeout with time := steadyTimeInFuture now timeout.milliseconds }
    else timeout⟩

/-- Also the `erase` of `run_once`. -/
def remove (cookie : Cookie) (handler : TimeoutHandler Callback) : TimeoutHandler Callback :=
  ⟨handler.timeouts.filter (·.cookie ≠ cookie)⟩

end TimeoutHandler

/-- Where the thread in `run_once` stands between two sections. `now` is read once at the start. -/
inductive RunOnce where
  | outside
  | selected (timer : Nat) (now : Int)
  | calling (now : Int)
deriving DecidableEq, Repr

/-- Each timer has a number of its own, while an address may come back. -/
structure TimerThreads where
  handler : TimeoutHandler Nat := {}
  clock : Int := 0
  runOnce : RunOnce := .outside
  nextTimer : Nat := 0
deriving DecidableEq, Repr

inductive TimerAction where
  | add (milliseconds : Int) (cookie : Cookie)
  | refresh (cookie : Cookie)
  | remove (cookie : Cookie)
  | tick (nanoseconds : Nat)
  | select (cookie : Cookie)
  | finish
  | startCallback
deriving DecidableEq, Repr

namespace TimerThreads

/-- `now` in a section of `run_once`: of the clock in the first one, kept in the later ones. -/
def now? (threads : TimerThreads) : Option Int :=
  match threads.runOnce with
  | .outside => some threads.clock
  | .calling now => some now
  | .selected _ _ => none

/-- The order of the table and the restarts of the loop decide which expired timer `run_once`
selects next; here it may be any. An output is the number of a timer whose callback starts. -/
def machine : Machine TimerThreads TimerAction Nat where
  step threads
    | .add milliseconds cookie =>
      if cookie ≠ 0 ∧ cookie ∉ threads.handler.cookies then
        some ({ threads with
          handler := threads.handler.add threads.nextTimer milliseconds threads.clock cookie
          nextTimer := threads.nextTimer + 1 }, [])
      else none
    | .refresh cookie =>
      some ({ threads with handler := threads.handler.refresh cookie threads.clock }, [])
    | .remove cookie => some ({ threads with handler := threads.handler.remove cookie }, [])
    | .tick nanoseconds => some ({ threads with clock := threads.clock + nanoseconds }, [])
    | .select cookie =>
      match threads.now?, threads.handler.timeouts.find? (·.cookie = cookie) with
      | some now, some timeout =>
        if timeout.time < now then
          some ({ threads with
            handler := threads.handler.remove cookie
            runOnce := .selected timeout.callback now }, [])
        else none
      | _, _ => none
    | .finish =>
      match threads.now? with
      | some _ => some ({ threads with runOnce := .outside }, [])
      | none => none
    | .startCallback =>
      match threads.runOnce with
      | .selected timer now => some ({ threads with runOnce := .calling now }, [timer])
      | _ => none

end TimerThreads

/-- `stored` is the `_cookie` of each owner, never cleared. The callback of a timer is its owner. -/
structure TimerOwners (Owner : Type) where
  handler : TimeoutHandler Owner := {}
  stored : Owner → Cookie := fun _ => 0
  destroyed : Owner → Bool := fun _ => false

inductive OwnerAction (Owner : Type) where
  | add (owner : Owner) (milliseconds now : Int) (cookie : Cookie)
  | refresh (owner : Owner) (now : Int)
  | remove (owner : Owner)
  | fire (cookie : Cookie)
  | destroy (owner : Owner)
deriving DecidableEq, Repr

namespace TimerOwners
variable {Owner : Type} [DecidableEq Owner]

/-- `add` gets any key that is not in the table. A destructor removes the stored cookie. -/
def machine : Machine (TimerOwners Owner) (OwnerAction Owner) Unit where
  step owners
    | .add owner milliseconds now cookie =>
      if owners.destroyed owner = false ∧ cookie ≠ 0 ∧ cookie ∉ owners.handler.cookies then
        some ({ owners with
          handler := owners.handler.add owner milliseconds now cookie
          stored := Function.update owners.stored owner cookie }, [])
      else none
    | .refresh owner now =>
      if owners.destroyed owner = false then
        some ({ owners with handler := owners.handler.refresh (owners.stored owner) now }, [])
      else none
    | .remove owner =>
      if owners.destroyed owner = false then
        some ({ owners with handler := owners.handler.remove (owners.stored owner) }, [])
      else none
    | .fire cookie => some ({ owners with handler := owners.handler.remove cookie }, [])
    | .destroy owner =>
      if owners.destroyed owner = false then
        some ({ owners with
          handler := owners.handler.remove (owners.stored owner)
          destroyed := Function.update owners.destroyed owner true }, [])
      else none

end TimerOwners
end PilotingMavsdk
