import PilotingMavsdk.Library.Machine
import PilotingMavsdk.Message

/-! `Ping`, which sends pings, answers those of others and takes the round trip time from what comes
back. Times are what `elapsed_s` gives, in whole microseconds. -/

namespace PilotingMavsdk
open Library

/-- `mavlink_ping_t` with the address of who sent it. -/
structure PingMessage where
  sysid : UInt8
  compid : UInt8
  timeUsec : UInt64
  seq : UInt32
  targetSystem : UInt8
  targetComponent : UInt8
deriving DecidableEq, Repr

inductive PingOutput where
  | sendMessage (message : PingMessage)
  | logWarn (text : String)
deriving DecidableEq, Repr

structure Ping where
  pingSequence : UInt32 := 0
  lastPingTimeUs : UInt64 := 0
deriving DecidableEq, Repr

def mavCompIdAutopilot1 : UInt8 := 1

namespace Ping

def runOnce (own : MAVLinkAddress) (nowUs : UInt64) (ping : Ping) : PingMessage where
  sysid := own.systemId
  compid := own.componentId
  timeUsec := nowUs
  seq := ping.pingSequence
  targetSystem := 0
  targetComponent := 0

def processPing (own : MAVLinkAddress) (nowUs : UInt64) (message : PingMessage) (ping : Ping) :
    Ping × List PingOutput :=
  if message.targetSystem = 0 ∧ message.targetComponent = 0 then
    -- Response to ping request.
    (ping, [.sendMessage
      { sysid := own.systemId
        compid := own.componentId
        timeUsec := message.timeUsec
        seq := message.seq
        targetSystem := message.sysid
        targetComponent := message.compid }])
  else if message.seq ≠ ping.pingSequence then
    (ping, [.logWarn "Ignoring unknown ping sequence"])
  else if message.compid ≠ mavCompIdAutopilot1 then (ping, [])
  else ({ ping with lastPingTimeUs := nowUs - message.timeUsec }, [])

end Ping

/-- A `Ping` with the clock it reads and the ping that it has sent last. -/
structure PingLink where
  ping : Ping := {}
  nowUs : UInt64 := 0
  lastPing : Option PingMessage := none
deriving DecidableEq, Repr

inductive PingAction where
  | elapse (later : UInt64)
  | runOnce
  | processPing (message : PingMessage)
deriving DecidableEq, Repr

namespace PingLink

/-- Any message may come in at any time; the clock does not go back. -/
def machine (own : MAVLinkAddress) : Machine PingLink PingAction PingOutput where
  step link
    | .elapse later => if link.nowUs ≤ later then some ({ link with nowUs := later }, []) else none
    | .runOnce =>
      let message := link.ping.runOnce own link.nowUs
      some ({ link with lastPing := some message }, [.sendMessage message])
    | .processPing message =>
      let (ping, outputs) := link.ping.processPing own link.nowUs message
      some ({ link with ping }, outputs)

end PingLink
end PilotingMavsdk
