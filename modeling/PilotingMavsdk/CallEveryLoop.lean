import PilotingMavsdk.CallEveryHandler
import PilotingMavsdk.RunOnceLoop

/-! The loop of `CallEveryHandler::run_once`, round by round. A pass begins at the first element;
it is over at `end()`, or when the flag is seen. -/

namespace PilotingMavsdk
open Library

/-- What a callback, or another thread while it runs, does to the table. -/
inductive DuringCall (Callback : Type) where
  | tick (nanoseconds : Nat)
  | add (callback : Option Callback) (interval : ℚ) (cookie : Cookie)
  | change (interval : ℚ) (cookie : Cookie)
  | reset (cookie : Cookie)
  | remove (cookie : Cookie)
  | swap (place : Nat)
deriving DecidableEq, Repr

/-- `it` is the key of the element that the iterator points to, `none` between two passes. -/
structure CallEveryLoop (Callback : Type) where
  handler : CallEveryHandler (Option Callback) := {}
  it : Option Cookie := none
  iteratorInvalidated : Bool := false
  clock : Int
deriving DecidableEq, Repr

/-- A callback is called, at this time. -/
structure CallMade where
  cookie : Cookie
  time : Int
deriving DecidableEq, Repr

inductive CallEveryAction (Callback : Type) where
  | outside (operation : DuringCall Callback)
  | begin
  | round (window : List (DuringCall Callback))
deriving DecidableEq, Repr

namespace CallEveryLoop
variable {Callback : Type}

def cookies (loop : CallEveryLoop Callback) : List Cookie := loop.handler.cookies

def next (cookie : Cookie) (cookies : List Cookie) : Option Cookie :=
  (cookies.dropWhile (· ≠ cookie)).tail.head?

def during (loop : CallEveryLoop Callback) : DuringCall Callback → CallEveryLoop Callback
  | .tick nanoseconds => { loop with clock := loop.clock + nanoseconds }
  | .add callback interval cookie =>
    if cookie ∈ loop.cookies then loop
    else { loop with handler := loop.handler.add callback interval loop.clock cookie }
  | .change interval cookie => { loop with handler := loop.handler.change interval cookie }
  | .reset cookie => { loop with handler := loop.handler.reset cookie loop.clock }
  | .remove cookie =>
    if cookie ∈ loop.cookies then
      { loop with handler := loop.handler.remove cookie, iteratorInvalidated := true }
    else loop
  | .swap place => { loop with handler := ⟨swapNeighbours place loop.handler.entries⟩ }

def pointee (loop : CallEveryLoop Callback) : Option (Entry (Option Callback)) :=
  match loop.it with
  | none => none
  | some cookie => loop.handler.entries.find? (·.cookie = cookie)

/-- The due entry is moved on, and its callback called without the mutex. -/
def callIfDue (entry : Entry (Option Callback)) (window : List (DuringCall Callback))
    (loop : CallEveryLoop Callback) : CallEveryLoop Callback :=
  if entry.IsDue loop.clock then
    let shifted := { loop with handler := loop.handler.advance entry.cookie }
    match entry.callback with
    | some _ => window.foldl during shifted
    | none => shifted
  else loop

/-- The body of the loop, with `break` or `++it` at its end. -/
def body (window : List (DuringCall Callback)) (loop : CallEveryLoop Callback) :
    CallEveryLoop Callback :=
  match loop.pointee with
  | none => loop
  | some entry =>
    let after := loop.callIfDue entry window
    if after.iteratorInvalidated then { after with iteratorInvalidated := false, it := none }
    else { after with it := next entry.cookie after.cookies }

def calls (loop : CallEveryLoop Callback) : List CallMade :=
  match loop.pointee with
  | none => []
  | some entry =>
    if entry.IsDue loop.clock ∧ entry.callback.isSome then [⟨entry.cookie, loop.clock⟩] else []

def begin (loop : CallEveryLoop Callback) : CallEveryLoop Callback :=
  { loop with it := loop.cookies.head? }

/-- `run_once` again and again, and what happens between two passes. -/
def machine : Machine (CallEveryLoop Callback) (CallEveryAction Callback) CallMade where
  step loop
    | .outside operation => if loop.it = none then some (loop.during operation, []) else none
    | .begin => if loop.it = none then some (loop.begin, []) else none
    | .round window => if loop.it = none then none else some (loop.body window, loop.calls)

end CallEveryLoop
end PilotingMavsdk
