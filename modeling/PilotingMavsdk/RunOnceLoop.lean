import PilotingMavsdk.Library.Iteration
import PilotingMavsdk.TimeoutHandler

/-! The loop of `TimeoutHandler::run_once`, round by round, with the iterator it keeps and the flag
that makes it start over. -/

namespace PilotingMavsdk
open Library

/-- `_timeouts` in the order in which it is iterated. A callback may be empty. -/
abbrev TimeoutMap (Callback : Type) :=
  { timeouts : List (Timeout (Option Callback)) // (timeouts.map Timeout.cookie).Nodup }

/-- What a callback, or another thread while it runs, does to the table. The order of a hash table
may change with each insertion, two neighbours at a time. -/
inductive DuringCallback (Callback : Type) where
  | tick (nanoseconds : Nat)
  | add (callback : Option Callback) (milliseconds : Nat) (cookie : Cookie)
  | refresh (cookie : Cookie)
  | remove (cookie : Cookie)
  | swap (place : Nat)
deriving DecidableEq, Repr

/-- A timer as it was when it was fired, and what was done during its callback. -/
structure Fired (Callback : Type) where
  timeout : Timeout (Option Callback)
  window : List (DuringCallback Callback)
deriving DecidableEq, Repr

/-- `it` is the key of the element that the iterator points to, `none` is `end()`. -/
structure RunOnceLoop (Callback : Type) where
  timeouts : List (Timeout (Option Callback))
  it : Option Cookie
  iteratorInvalidated : Bool
  now : Int
  clock : Int
deriving DecidableEq, Repr

def swapNeighbours {α : Type} : Nat → List α → List α
  | 0, first :: second :: rest => second :: first :: rest
  | place + 1, first :: rest => first :: swapNeighbours place rest
  | _, items => items

namespace RunOnceLoop
variable {Callback : Type}

def cookies (loop : RunOnceLoop Callback) : List Cookie := loop.timeouts.map Timeout.cookie

def first (timeouts : List (Timeout (Option Callback))) : Option Cookie :=
  timeouts.head?.map Timeout.cookie

def since (cookie : Cookie) (timeouts : List (Timeout (Option Callback))) :
    List (Timeout (Option Callback)) :=
  timeouts.dropWhile (·.cookie ≠ cookie)

def next (cookie : Cookie) (timeouts : List (Timeout (Option Callback))) : Option Cookie :=
  first (since cookie timeouts).tail

/-- `insert` leaves a table alone that holds the key already. -/
def during (loop : RunOnceLoop Callback) : DuringCallback Callback → RunOnceLoop Callback
  | .tick nanoseconds => { loop with clock := loop.clock + nanoseconds }
  | .add callback milliseconds cookie =>
    if cookie ∈ loop.cookies then loop
    else { loop with timeouts := loop.timeouts ++
      [⟨cookie, callback, steadyTimeInFuture loop.clock milliseconds, milliseconds⟩] }
  | .refresh cookie =>
    { loop with timeouts := loop.timeouts.map fun timeout =>
      if timeout.cookie = cookie then
        { timeout with time := steadyTimeInFuture loop.clock timeout.milliseconds }
      else timeout }
  | .remove cookie =>
    if cookie ∈ loop.cookies then
      { loop with
        timeouts := loop.timeouts.filter (·.cookie ≠ cookie)
        iteratorInvalidated := true }
    else loop
  | .swap place => { loop with timeouts := swapNeighbours place loop.timeouts }

/-- `_timeouts.erase(it++)`, and then the callback without the mutex. -/
def fire (cookie : Cookie) (window : List (DuringCallback Callback))
    (loop : RunOnceLoop Callback) : RunOnceLoop Callback :=
  window.foldl during { loop with
    it := next cookie loop.timeouts
    timeouts := loop.timeouts.filter (·.cookie ≠ cookie) }

def startOver (loop : RunOnceLoop Callback) : RunOnceLoop Callback :=
  if loop.iteratorInvalidated then
    { loop with iteratorInvalidated := false, it := first loop.timeouts }
  else loop

/-- The body of the loop; at `end()` the loop has been left. A timer that has expired and has no
callback is neither erased nor passed. -/
def body (window : List (DuringCallback Callback)) (loop : RunOnceLoop Callback) :
    RunOnceLoop Callback :=
  match loop.it with
  | none => loop
  | some cookie =>
    match loop.timeouts.find? (·.cookie = cookie) with
    | none => loop
    | some timeout =>
      if timeout.time < loop.now then
        match timeout.callback with
        | some _ => (loop.fire cookie window).startOver
        | none => loop.startOver
      else { loop with it := next cookie loop.timeouts }.startOver

/-- The timer whose callback is called in this round. -/
def calledBack (loop : RunOnceLoop Callback) : Option (Timeout (Option Callback)) :=
  match loop.it with
  | none => none
  | some cookie => (loop.timeouts.find? (·.cookie = cookie)).filter fun timeout =>
      timeout.time < loop.now ∧ timeout.callback.isSome

def begin (table : TimeoutMap Callback) (iteratorInvalidated : Bool) (now : Int) :
    RunOnceLoop Callback where
  timeouts := table.val
  it := first table.val
  iteratorInvalidated := iteratorInvalidated
  now := now
  clock := now

/-- What is fired in the first rounds, with what the callbacks do. -/
def fired (windows : Nat → List (DuringCallback Callback)) (loop : RunOnceLoop Callback) :
    Nat → List (Fired Callback)
  | 0 => []
  | rounds + 1 => fired windows loop rounds ++
      ((iterate body windows loop rounds).calledBack.map fun timeout =>
        ⟨timeout, windows rounds⟩).toList

/-- The loop of `run_once` ends, if this is what happens during its callbacks. -/
def Ends (windows : Nat → List (DuringCallback Callback)) (loop : RunOnceLoop Callback) : Prop :=
  ∃ rounds, (iterate body windows loop rounds).it = none

/-- The iterator points to an expired timer with an empty callback. -/
def Stuck (loop : RunOnceLoop Callback) : Prop :=
  ∃ timeout ∈ loop.timeouts, loop.it = some timeout.cookie ∧ timeout.time < loop.now ∧
    timeout.callback = none

end RunOnceLoop
end PilotingMavsdk
