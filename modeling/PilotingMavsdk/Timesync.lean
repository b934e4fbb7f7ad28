import Mathlib.Algebra.Group.Int.Defs
import Mathlib.Logic.Function.Basic
import PilotingMavsdk.Library.Machine

/-! `Timesync` at both ends of a link. Times are in nanoseconds; each call is given what the clocks
show when it reads them. -/

namespace PilotingMavsdk
open Library

structure TimesyncMessage where
  tc1 : Int
  ts1 : Int
deriving DecidableEq, Repr

/-- `offset` is the one of the system's `AutopilotTime`. -/
structure Timesync where
  isEnabled : Bool := false
  lastTime : Int := 0
  highRttCount : Nat := 0
  autopilotTimesyncAcquired : Bool := false
  offset : Int := 0
deriving DecidableEq, Repr

def timesyncSendInterval : Int := 5000000000

def maxConsHighRtt : Nat := 5

def maxRttSample : Int := 10000000

namespace Timesync

/-- `get_autopilot_time().now()`, which counts in whole microseconds. -/
def autopilotNow (systemTime : Int) (timesync : Timesync) : Int :=
  (systemTime + timesync.offset).tdiv 1000 * 1000

def enable (timesync : Timesync) : Timesync := { timesync with isEnabled := true }

def doWork (steadyTime systemTime : Int) (connected : Bool) (timesync : Timesync) :
    Timesync × List TimesyncMessage :=
  if timesync.isEnabled = false then (timesync, [])
  else if steadyTime - timesync.lastTime ≥ timesyncSendInterval then
    if connected then
      ({ timesync with lastTime := steadyTime }, [⟨0, timesync.autopilotNow systemTime⟩])
    else
      ({ timesync with lastTime := steadyTime, autopilotTimesyncAcquired := false }, [])
  else (timesync, [])

/-- The round trip time is a difference of unsigned 64-bit numbers. -/
def setTimesyncOffset (offset startTransferLocalTime systemTime : Int) (timesync : Timesync) :
    Timesync :=
  let rtt := (timesync.autopilotNow systemTime - startTransferLocalTime) % 2 ^ 64
  if rtt < maxRttSample then
    { timesync with
      offset := timesync.offset + offset
      autopilotTimesyncAcquired := true
      highRttCount := 0 }
  else
    { timesync with highRttCount :=
      if timesync.highRttCount + 1 > maxConsHighRtt then 0 else timesync.highRttCount + 1 }

/-- The clock is read again in `set_timesync_offset`, at `laterTime`. -/
def processTimesync (systemTime laterTime : Int) (message : TimesyncMessage)
    (timesync : Timesync) : Timesync × List TimesyncMessage :=
  let now := timesync.autopilotNow systemTime
  if message.tc1 = 0 ∧ timesync.autopilotTimesyncAcquired then
    (timesync, [⟨now, message.ts1⟩])
  else if message.tc1 > 0 then
    (timesync.setTimesyncOffset ((message.tc1 * 2 - (message.ts1 + now)).tdiv 2) message.ts1
      laterTime, [])
  else (timesync, [])

end Timesync

def InInt64 (number : Int) : Prop := -2 ^ 63 ≤ number ∧ number < 2 ^ 63

instance (number : Int) : Decidable (InInt64 number) := inferInstanceAs (Decidable (_ ∧ _))

/-- What a system clock may show: a time after its epoch that is not in the last 20 ms it can
count. It may be set to any other such time. -/
def ClockTime (time : Int) : Prop := 0 ≤ time ∧ time < 2 ^ 63 - 20000000

instance (time : Int) : Decidable (ClockTime time) := inferInstanceAs (Decidable (_ ∧ _))

inductive TimesyncCall where
  | enable
  | doWork (steadyTime systemTime : Int) (connected : Bool)
  | processTimesync (message : TimesyncMessage) (systemTime laterTime : Int)
deriving DecidableEq, Repr

/-- The fields of a message are 64 bits long; nothing else is known of them. -/
def Timesync.receiver : Machine Timesync TimesyncCall TimesyncMessage where
  step timesync
    | .enable => some (timesync.enable, [])
    | .doWork steadyTime systemTime connected =>
      some (timesync.doWork steadyTime systemTime connected)
    | .processTimesync message systemTime laterTime =>
      if timesync.isEnabled = true ∧ (InInt64 message.tc1 ∧ InInt64 message.ts1) ∧
          ClockTime systemTime ∧ ClockTime laterTime then
        some (timesync.processTimesync systemTime laterTime message)
      else none

inductive Endpoint where
  | groundStation
  | roboticVehicle
deriving DecidableEq, Repr

def Endpoint.peer : Endpoint → Endpoint
  | .groundStation => .roboticVehicle
  | .roboticVehicle => .groundStation

/-- `sent` is all that an endpoint has ever sent. Any of it may arrive at any time, in any order,
more than once or never. -/
structure TimesyncLink where
  timesync : Endpoint → Timesync := fun _ => {}
  sent : Endpoint → List TimesyncMessage := fun _ => []

inductive TimesyncAction where
  | enable (endpoint : Endpoint)
  | doWork (endpoint : Endpoint) (steadyTime systemTime : Int) (connected : Bool)
  | deliver (endpoint : Endpoint) (message : TimesyncMessage) (systemTime laterTime : Int)
deriving DecidableEq, Repr

namespace TimesyncLink

def update (endpoint : Endpoint) (result : Timesync × List TimesyncMessage)
    (link : TimesyncLink) : TimesyncLink where
  timesync := Function.update link.timesync endpoint result.1
  sent := Function.update link.sent endpoint (link.sent endpoint ++ result.2)

/-- The handler of the message is registered by `enable`. -/
def machine : Machine TimesyncLink TimesyncAction TimesyncMessage where
  step link
    | .enable endpoint => some (link.update endpoint ((link.timesync endpoint).enable, []), [])
    | .doWork endpoint steadyTime systemTime connected =>
      let result := (link.timesync endpoint).doWork steadyTime systemTime connected
      some (link.update endpoint result, result.2)
    | .deliver endpoint message systemTime laterTime =>
      if message ∈ link.sent endpoint.peer ∧ (link.timesync endpoint).isEnabled = true then
        let result := (link.timesync endpoint).processTimesync systemTime laterTime message
        some (link.update endpoint result, result.2)
      else none

end TimesyncLink
end PilotingMavsdk
