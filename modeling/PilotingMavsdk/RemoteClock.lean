import PilotingMavsdk.Timesync

/-! A `Timesync` and a remote system that answers its requests with what its own clock shows. Both
clocks go at the same rate; what is under way between the two may take any time. -/

namespace PilotingMavsdk
open Library

/-- A request with the system time at which it was sent, and the offset that was in use. -/
structure SentRequest where
  ts1 : Int
  sentAt : Int
  offset : Int
deriving DecidableEq, Repr

structure SentAnswer where
  request : SentRequest
  message : TimesyncMessage
deriving DecidableEq, Repr

/-- `requests` and `answers` are all that were ever sent; none of them is used up. -/
structure RemoteClock where
  timesync : Timesync := {}
  systemTime : Int
  requests : List SentRequest := []
  answers : List SentAnswer := []
deriving DecidableEq, Repr

inductive RemoteClockAction where
  | elapse (duration : Nat)
  | enable
  | doWork (steadyTime : Int) (connected : Bool)
  | answer (request : SentRequest)
  | processTimesync (answer : SentAnswer) (duration : Nat)
deriving DecidableEq, Repr

namespace RemoteClock

/-- The remote clock shows `difference` more than the system clock. Between the two readings of
the clock in `process_timesync` some time passes. -/
def machine (difference : Int) : Machine RemoteClock RemoteClockAction TimesyncMessage where
  step clock
    | .elapse duration => some ({ clock with systemTime := clock.systemTime + duration }, [])
    | .enable => some ({ clock with timesync := clock.timesync.enable }, [])
    | .doWork steadyTime connected =>
      let (timesync, messages) := clock.timesync.doWork steadyTime clock.systemTime connected
      let sent := messages.map fun message =>
        { ts1 := message.ts1, sentAt := clock.systemTime, offset := clock.timesync.offset }
      some ({ clock with timesync, requests := clock.requests ++ sent }, messages)
    | .answer request =>
      if request ∈ clock.requests then
        let message := { tc1 := clock.systemTime + difference, ts1 := request.ts1 }
        some ({ clock with answers := clock.answers ++ [{ request, message }] }, [])
      else none
    | .processTimesync answer duration =>
      if clock.timesync.isEnabled = true ∧ answer ∈ clock.answers then
        let laterTime := clock.systemTime + duration
        let (timesync, messages) :=
          clock.timesync.processTimesync clock.systemTime laterTime answer.message
        some ({ clock with timesync, systemTime := laterTime }, messages)
      else none

end RemoteClock
end PilotingMavsdk
