import Mathlib.Data.Rat.Init
import PilotingMavsdk.SystemConnections

/-! `CallEveryHandler`, and what `MavsdkImpl` does with it: the stream of its own heartbeats. Times
are in nanoseconds of the steady clock, intervals in seconds. -/

namespace PilotingMavsdk
open Library

/-- The conversion to `int64_t`, which cuts towards zero. -/
def truncate (number : ℚ) : Int := number.num.tdiv number.den

def elapsedSince (since now : Int) : ℚ := ((now - since : Int) : ℚ) / 1000000000

/-- `Time::shift_steady_time_by`, in whole milliseconds. -/
def shiftSteadyTimeBy (time : Int) (offset : ℚ) : Int :=
  time + truncate (offset * 1000) * 1000000

structure Entry (Callback : Type) where
  cookie : Cookie
  callback : Callback
  lastTime : Int
  interval : ℚ
deriving DecidableEq, Repr

/-- The test in the loop of `run_once`. -/
def Entry.IsDue {Callback : Type} (now : Int) (entry : Entry Callback) : Prop :=
  elapsedSince entry.lastTime now > entry.interval

instance {Callback : Type} (now : Int) (entry : Entry Callback) : Decidable (entry.IsDue now) :=
  inferInstanceAs (Decidable (_ > _))

structure CallEveryHandler (Callback : Type) where
  entries : List (Entry Callback) := []
deriving DecidableEq, Repr

namespace CallEveryHandler
variable {Callback : Type}

def cookies (handler : CallEveryHandler Callback) : List Cookie := handler.entries.map Entry.cookie

/-- A new entry is due at once, by a millisecond. -/
def add (callback : Callback) (interval : ℚ) (now : Int) (cookie : Cookie)
    (handler : CallEveryHandler Callback) : CallEveryHandler Callback :=
  ⟨handler.entries ++
    [⟨cookie, callback, shiftSteadyTimeBy now (-interval - 1 / 1000), interval⟩]⟩

def onEntry (cookie : Cookie) (change : Entry Callback → Entry Callback)
    (handler : CallEveryHandler Callback) : CallEveryHandler Callback :=
  ⟨handler.entries.map fun entry => if entry.cookie = cookie then change entry else entry⟩

def change (interval : ℚ) (cookie : Cookie) (handler : CallEveryHandler Callback) :
    CallEveryHandler Callback :=
  handler.onEntry cookie fun entry => { entry with interval := interval }

def reset (cookie : Cookie) (now : Int) (handler : CallEveryHandler Callback) :
    CallEveryHandler Callback :=
  handler.onEntry cookie fun entry => { entry with lastTime := now }

def remove (cookie : Cookie) (handler : CallEveryHandler Callback) : CallEveryHandler Callback :=
  ⟨handler.entries.filter (·.cookie ≠ cookie)⟩

/-- What the loop of `run_once` does with an entry that is due, before it calls back. -/
def advance (cookie : Cookie) (handler : CallEveryHandler Callback) : CallEveryHandler Callback :=
  handler.onEntry cookie fun entry =>
    { entry with lastTime := shiftSteadyTimeBy entry.lastTime entry.interval }

end CallEveryHandler

/-- The callbacks of the table. `other` is any that comes through `SystemImpl::add_call_every`. -/
inductive CalledEvery where
  | sendHeartbeat
  | other
deriving DecidableEq, Repr

def heartbeatSendInterval : ℚ := 1

structure MavsdkImpl where
  systems : MavsdkSystems := {}
  alwaysSendHeartbeats : Bool := false
  callEveryHandler : CallEveryHandler CalledEvery := {}
  heartbeatSendCookie : Cookie := 0

inductive MavsdkAction where
  | setConfiguration (alwaysSendHeartbeats : Bool)
  | setConnection (entry : Cookie)
  | onSystems (action : SystemsAction) (entry : Cookie)
  | addCallEvery (interval : ℚ) (entry : Cookie)
  | changeCallEvery (interval : ℚ) (cookie : Cookie)
  | resetCallEvery (cookie : Cookie)
  | removeCallEvery (cookie : Cookie)
  | callBack (cookie : Cookie)
deriving DecidableEq, Repr

inductive MavsdkOutput where
  | notified (notification : Notification)
  | called (callback : CalledEvery)
deriving DecidableEq, Repr

namespace MavsdkImpl

def startSendingHeartbeat (entry : Cookie) (mavsdk : MavsdkImpl) : MavsdkImpl :=
  { mavsdk with
    callEveryHandler := mavsdk.callEveryHandler.add .sendHeartbeat heartbeatSendInterval
      mavsdk.systems.clock entry
    heartbeatSendCookie := entry }

def setConnection (entry : Cookie) (mavsdk : MavsdkImpl) : MavsdkImpl :=
  if mavsdk.alwaysSendHeartbeats then mavsdk.startSendingHeartbeat entry else mavsdk

def isDiscovery : Notification → Bool
  | .onDiscover _ => true
  | .onTimeout _ => false

/-- `set_connected` notifies a discovery and starts to send heartbeats in the same branch. -/
def afterNotifications (notifications : List Notification) (entry : Cookie)
    (mavsdk : MavsdkImpl) : MavsdkImpl :=
  if notifications.any isDiscovery then mavsdk.startSendingHeartbeat entry else mavsdk

def isFree (mavsdk : MavsdkImpl) (entry : Cookie) : Bool :=
  entry ≠ 0 ∧ entry ∉ mavsdk.callEveryHandler.cookies

/-- `setup_udp_connection` is a `.setupUdpConnection` of the systems, followed by `.setConnection`
if the new connection could be started. -/
def machine : Machine MavsdkImpl MavsdkAction MavsdkOutput where
  step mavsdk
    | .setConfiguration alwaysSendHeartbeats =>
      some ({ mavsdk with alwaysSendHeartbeats := alwaysSendHeartbeats }, [])
    | .setConnection entry =>
      if mavsdk.isFree entry then some (mavsdk.setConnection entry, []) else none
    | .onSystems action entry =>
      match MavsdkSystems.machine.step mavsdk.systems action with
      | none => none
      | some (systems, notifications) =>
        if mavsdk.isFree entry then
          some ({ mavsdk with systems := systems }.afterNotifications notifications entry,
            notifications.map .notified)
        else none
    | .addCallEvery interval entry =>
      if mavsdk.isFree entry then
        some ({ mavsdk with callEveryHandler :=
          mavsdk.callEveryHandler.add .other interval mavsdk.systems.clock entry }, [])
      else none
    | .changeCallEvery interval cookie =>
      some ({ mavsdk with callEveryHandler := mavsdk.callEveryHandler.change interval cookie }, [])
    | .resetCallEvery cookie =>
      some ({ mavsdk with callEveryHandler :=
        mavsdk.callEveryHandler.reset cookie mavsdk.systems.clock }, [])
    | .removeCallEvery cookie =>
      some ({ mavsdk with callEveryHandler := mavsdk.callEveryHandler.remove cookie }, [])
    | .callBack cookie =>
      match mavsdk.callEveryHandler.entries.find? (·.cookie = cookie) with
      | none => none
      | some entry =>
        if entry.IsDue mavsdk.systems.clock then
          some ({ mavsdk with callEveryHandler := mavsdk.callEveryHandler.advance cookie },
            [.called entry.callback])
        else none

end MavsdkImpl
end PilotingMavsdk
