import Mathlib.Logic.Function.Basic
import PilotingMavsdk.Library.Enumeration
import PilotingMavsdk.TimeoutHandler

/-! The remote systems that `MavsdkImpl` has heard of, and the timers that watch their
heartbeats. All systems share one timer table and one pair of callbacks. -/

namespace PilotingMavsdk
open Library

/-- The members of `SystemImpl` that follow the heartbeats of one remote system. -/
structure SystemImpl where
  connected : Bool := false
  alwaysConnected : Bool := false
  heartbeatTimeoutCookie : Cookie := 0
deriving DecidableEq, Repr

inductive Notification where
  | onDiscover (systemId : UInt8)
  | onTimeout (systemId : UInt8)
deriving DecidableEq, Repr

def Notification.systemId : Notification → UInt8
  | .onDiscover systemId | .onTimeout systemId => systemId

def heartbeatTimeout : Int := 3000

/-- The callback of a timer is the system whose `heartbeats_timed_out` it calls. `selected` is the
one that `run_once` has taken out of the table and is about to call. -/
structure MavsdkSystems where
  isSingleSystem : Bool := false
  systems : UInt8 → Option SystemImpl := fun _ => none
  timeoutHandler : TimeoutHandler UInt8 := {}
  selected : Option UInt8 := none
  clock : Int := 0

inductive SystemsAction where
  | setupUdpConnection
  | receiveMessage (systemId : UInt8) (heartbeat : Bool) (cookie : Cookie)
  | tick (nanoseconds : Nat)
  | select (cookie : Cookie)
  | heartbeatsTimedOut
deriving DecidableEq, Repr

namespace MavsdkSystems

def setConnected (system sysid : UInt8) (cookie : Cookie) (mavsdk : MavsdkSystems) :
    MavsdkSystems × List Notification :=
  match mavsdk.systems system with
  | none => (mavsdk, [])
  | some impl =>
    if impl.connected = false then
      if impl.alwaysConnected = false then
        let watched := { impl with connected := true, heartbeatTimeoutCookie := cookie }
        ({ mavsdk with
          systems := Function.update mavsdk.systems system (some watched)
          timeoutHandler :=
            mavsdk.timeoutHandler.add system heartbeatTimeout mavsdk.clock cookie },
          [.onDiscover sysid])
      else
        let unwatched := { impl with connected := true }
        ({ mavsdk with systems := Function.update mavsdk.systems system (some unwatched) },
          [.onDiscover sysid])
    else if impl.alwaysConnected = false then
      ({ mavsdk with timeoutHandler :=
        mavsdk.timeoutHandler.refresh impl.heartbeatTimeoutCookie mavsdk.clock }, [])
    else (mavsdk, [])

def setDisconnected (system sysid : UInt8) (mavsdk : MavsdkSystems) :
    MavsdkSystems × List Notification :=
  match mavsdk.systems system with
  | none => (mavsdk, [])
  | some impl =>
    ({ mavsdk with systems :=
      Function.update mavsdk.systems system (some { impl with connected := false }) },
      [.onTimeout sysid])

/-- The id is not the system's own but a constant. -/
def heartbeatsTimedOut (system : UInt8) (mavsdk : MavsdkSystems) :
    MavsdkSystems × List Notification :=
  mavsdk.setDisconnected system 1

/-- The constructor of `SystemImpl` connects the only system there is at once. -/
def makeSystemWithComponent (systemId : UInt8) (cookie : Cookie) (mavsdk : MavsdkSystems) :
    MavsdkSystems × List Notification :=
  let impl : SystemImpl := { alwaysConnected := mavsdk.isSingleSystem }
  let made := { mavsdk with systems := Function.update mavsdk.systems systemId (some impl) }
  if mavsdk.isSingleSystem then made.setConnected systemId systemId cookie else (made, [])

def receiveMessage (systemId : UInt8) (heartbeat : Bool) (cookie : Cookie)
    (mavsdk : MavsdkSystems) : MavsdkSystems × List Notification :=
  if systemId = 0 then (mavsdk, [])
  else
    let made := if (mavsdk.systems systemId).isSome then (mavsdk, [])
      else mavsdk.makeSystemWithComponent systemId cookie
    if heartbeat then
      let heard := made.1.setConnected systemId systemId cookie
      (heard.1, made.2 ++ heard.2)
    else made

abbrev IterationOrder (mavsdk : MavsdkSystems) : Type :=
  Enumeration fun system => (mavsdk.systems system).isSome = true

def isConnected (mavsdk : MavsdkSystems) (order : mavsdk.IterationOrder) : Bool :=
  match order.items with
  | [] => false
  | system :: _ =>
    match mavsdk.systems system with
    | some impl => impl.connected
    | none => false

/-- The key of a new timer is any that the table does not hold. Any expired timer may be the one
that `run_once` comes to. -/
def machine : Machine MavsdkSystems SystemsAction Notification where
  step mavsdk
    | .setupUdpConnection => some ({ mavsdk with isSingleSystem := false }, [])
    | .receiveMessage systemId heartbeat cookie =>
      if cookie ≠ 0 ∧ cookie ∉ mavsdk.timeoutHandler.cookies then
        some (mavsdk.receiveMessage systemId heartbeat cookie)
      else none
    | .tick nanoseconds => some ({ mavsdk with clock := mavsdk.clock + nanoseconds }, [])
    | .select cookie =>
      match mavsdk.selected, mavsdk.timeoutHandler.timeouts.find? (·.cookie = cookie) with
      | none, some timeout =>
        if timeout.time < mavsdk.clock then
          some ({ mavsdk with
            timeoutHandler := mavsdk.timeoutHandler.remove cookie
            selected := some timeout.callback }, [])
        else none
      | _, _ => none
    | .heartbeatsTimedOut =>
      match mavsdk.selected with
      | some system => some ({ mavsdk with selected := none }.heartbeatsTimedOut system)
      | none => none

end MavsdkSystems
end PilotingMavsdk
