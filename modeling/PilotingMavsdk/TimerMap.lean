import PilotingMavsdk.Library.Keyed
import PilotingMavsdk.RunOnceLoop

/-! What `TimeoutHandler::run_once` is for: expired timers are taken from a table without an order
and fired, one after the other, while their callbacks change the table. -/

namespace PilotingMavsdk
open Library

/-- `_timeouts` without its order, and the time. -/
structure TimerMap (Callback : Type) where
  timers : Cookie → Option (Timeout (Option Callback))
  clock : Int

namespace TimerMap
variable {Callback : Type}

def set (cookie : Cookie) (timer : Option (Timeout (Option Callback)))
    (map : TimerMap Callback) : TimerMap Callback :=
  { map with timers := Function.update map.timers cookie timer }

def apply (map : TimerMap Callback) : DuringCallback Callback → TimerMap Callback
  | .tick nanoseconds => { map with clock := map.clock + nanoseconds }
  | .add callback milliseconds cookie =>
    if (map.timers cookie).isSome then map
    else map.set cookie (some
      ⟨cookie, callback, steadyTimeInFuture map.clock milliseconds, milliseconds⟩)
  | .refresh cookie =>
    map.set cookie ((map.timers cookie).map fun timeout =>
      { timeout with time := steadyTimeInFuture map.clock timeout.milliseconds })
  | .remove cookie => map.set cookie none
  | .swap _ => map

def fire (map : TimerMap Callback) (fired : Fired Callback) : TimerMap Callback :=
  fired.window.foldl apply (map.set fired.timeout.cookie none)

/-- Any timers that have expired by then are fired, one after the other. -/
inductive Firing (now : Int) : TimerMap Callback → List (Fired Callback) → TimerMap Callback →
    Prop where
  | start (map : TimerMap Callback) : Firing now map [] map
  | fires {map last : TimerMap Callback} {fired : Fired Callback} {log : List (Fired Callback)}
      (found : map.timers fired.timeout.cookie = some fired.timeout)
      (expired : fired.timeout.time < now) (later : Firing now (map.fire fired) log last) :
      Firing now map (fired :: log) last

def Quiet (map : TimerMap Callback) (now : Int) : Prop :=
  ∀ cookie timeout, map.timers cookie = some timeout → ¬timeout.time < now

end TimerMap

/-- The timers that had expired at the start are fired, once each, up to those that a callback has
touched before, and no others. -/
structure FiresExactly {Callback : Type} (map : TimerMap Callback) (now : Int)
    (log : List (Fired Callback)) : Prop where
  once : log.Pairwise fun earlier later => earlier.timeout.cookie ≠ later.timeout.cookie
  only : ∀ fired ∈ log, fired.timeout.time < now ∧
    ∃ original, map.timers fired.timeout.cookie = some original ∧ original.time < now ∧
      original.callback = fired.timeout.callback
  kept : log.Pairwise fun earlier later => .remove later.timeout.cookie ∉ earlier.window
  all : ∀ cookie original, map.timers cookie = some original → original.time < now →
    (∃ fired ∈ log, fired.timeout = original) ∨
    ∃ other ∈ log, .remove cookie ∈ other.window ∨ .refresh cookie ∈ other.window

namespace RunOnceLoop
variable {Callback : Type}

def timerMap (loop : RunOnceLoop Callback) : TimerMap Callback :=
  ⟨lookup Timeout.cookie loop.timeouts, loop.clock⟩

/-- If the iterator is used again after a callback, insertions have left the order of the other
elements alone. -/
def KeepsOrder (window : List (DuringCallback Callback)) (loop : RunOnceLoop Callback) : Prop :=
  ∀ timeout, loop.calledBack = some timeout →
    (loop.fire timeout.cookie window).iteratorInvalidated = false →
      List.Sublist ((loop.timeouts.filter (·.cookie ≠ timeout.cookie)).map Timeout.cookie)
        (loop.fire timeout.cookie window).cookies

end RunOnceLoop
end PilotingMavsdk
