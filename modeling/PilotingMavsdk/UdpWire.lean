import PilotingMavsdk.FaultFree
import PilotingMavsdk.Library.Wire
import PilotingMavsdk.MavlinkPayloads
import PilotingMavsdk.UdpNetwork

/-! The way of a message from the pack call of one process to the handlers of another: it is packed,
sent to the remotes, parsed, given to the system that it comes from, and decoded. -/

namespace PilotingMavsdk
open Library

/-- What a pack call finds: the memory behind the texts, what was in the message before, and the
status of channel 0, with a sequence number that other threads use as well. Nobody ever calls
`mavlink_set_proto_version`. -/
structure PackMemory where
  behind : Nat → UInt8 := fun _ => 0
  buffer : MavlinkMessage := {}
  status : MavlinkStatus := {}
  second : status.outMavlink1 = false := by rfl

def Message.packed (memory : PackMemory) (message : Message) : MavlinkMessage :=
  (mavlinkFinalizeMessageBuffer
    (memory.buffer.put message.payload.msgId (message.payload.encode memory.behind message.target))
    message.source.systemId message.source.componentId memory.status
    (UInt8.ofNat message.payload.minLength) (UInt8.ofNat message.payload.length)
    message.payload.crcExtra).1

/-- `MavsdkImpl::receive_message`, as far as one system is concerned. No system has the id 0. -/
def forSystem (systemId : UInt8) (message : MavlinkMessage) : Bool :=
  message.sysid != 0 && message.sysid == systemId

/-- A process and the one of its systems that a plugin belongs to. -/
structure UdpPort where
  node : UdpNode
  systemId : UInt8

/-- What `recvfrom` leaves behind the datagram in the buffer, and what lies behind the structures that
are decoded. -/
structure Arrival where
  leftOver : Bytes := []
  behind : Bytes := []

/-- How messages are packed, and what their handlers decode with this memory behind the structures. -/
structure MavlinkCodec (Content : Type) where
  pack : PackMemory → Content → MavlinkMessage
  decode : Bytes → MavlinkMessage → Option Content

/-- Here `sendto` does not fail. -/
def MavlinkCodec.wire {Content : Type} (codec : MavlinkCodec Content) :
    Wire UdpPort PackMemory Arrival Content Packet where
  write memory content port :=
    match port.node.connection.sendMessage (fun _ => true) (codec.pack memory content) with
    | (true, sent) =>
      some (port, sent.map fun (remote, bytes) => ⟨port.node.endpoint, remote, bytes⟩)
    | (false, _) => none
  read arrival packet port :=
    if packet.destination = port.node.endpoint then
      match port.node.connection.receiveOne mavlinkParser (packet.bytes.length + 1)
          (some ⟨packet.bytes, arrival.leftOver, packet.source⟩) with
      | some (connection, events) =>
        some ({ port with node := { port.node with connection := connection } },
          ((handedOn events).filter (forSystem port.systemId)).filterMap
            (codec.decode arrival.behind))
      | none => none
    else none

def transferCodec : MavlinkCodec Message := ⟨Message.packed, MavlinkMessage.decode⟩

def udpWire : Wire UdpPort PackMemory Arrival Message Packet := transferCodec.wire

end PilotingMavsdk
