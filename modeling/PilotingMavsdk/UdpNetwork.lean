import Mathlib.Logic.Function.Basic
import PilotingMavsdk.Library.Machine
import PilotingMavsdk.Proofs.Frames

/-! `UdpConnection::send_message`, and any number of processes that send to and receive from each
other. Datagrams may be lost, doubled and late, but they arrive as they were sent. -/

namespace PilotingMavsdk
open Library

namespace UdpConnection
variable {Channel Message : Type}

/-- The loop of `send_message`. `sendto` says for which remotes the call takes the whole buffer; else
it returns -1 and nothing is sent. -/
def sendToRemotes (sendto : Remote → Bool) (buffer : Bytes) :
    List Remote → Bool → Bool × List (Remote × Bytes)
  | [], sendSuccessful => (sendSuccessful, [])
  | remote :: remotes, sendSuccessful =>
    if sendto remote then
      let (result, sent) := sendToRemotes sendto buffer remotes sendSuccessful
      (result, (remote, buffer) :: sent)
    else sendToRemotes sendto buffer remotes false

def sendMessage (sendto : Remote → Bool) (message : MavlinkMessage)
    (connection : UdpConnection Channel Message) : Bool × List (Remote × Bytes) :=
  if connection.remotes.length = 0 then (false, [])
  else sendToRemotes sendto (mavlinkMsgToSendBuffer message) connection.remotes true

end UdpConnection

/-- A process with its one connection. Others see its datagrams come from `endpoint`. -/
structure UdpNode where
  endpoint : Remote
  connection : UdpConnection MavlinkChannel MavlinkMessage

structure Packet where
  source : Remote
  destination : Remote
  bytes : Bytes
deriving DecidableEq, Repr

/-- The network keeps all datagrams ever sent. Each may arrive at any time, again and again or never
at all. -/
structure UdpNetwork (Name : Type) where
  node : Name → UdpNode
  packets : List Packet := []

/-- `addRemote` is the call in `setup_udp_connection`, which comes when the receiving thread is
already running. -/
inductive UdpAction (Name : Type) where
  | send (name : Name) (sending : Sending) (sendto : Remote → Bool)
  | arrive (name : Name) (packet : Packet) (leftOver : Bytes)
  | addRemote (name : Name) (remote : Remote)

inductive UdpEvent (Name : Type) where
  | sent (name : Name) (result : Bool)
  | handedOn (name : Name) (message : MavlinkMessage)

namespace UdpNetwork
variable {Name : Type} [DecidableEq Name]

def setConnection (name : Name) (connection : UdpConnection MavlinkChannel MavlinkMessage)
    (network : UdpNetwork Name) : UdpNetwork Name :=
  { network with
    node := Function.update network.node name ⟨(network.node name).endpoint, connection⟩ }

/-- `parse_message` returns true at most once for each byte, so the rounds suffice. -/
def machine : Machine (UdpNetwork Name) (UdpAction Name) (UdpEvent Name) where
  step network
    | .send name sending sendto =>
      let node := network.node name
      let (result, sent) := node.connection.sendMessage sendto sending.finalized
      some ({ network with
        packets := network.packets ++ sent.map fun (remote, bytes) =>
          ⟨node.endpoint, remote, bytes⟩ }, [.sent name result])
    | .arrive name packet leftOver =>
      let node := network.node name
      if packet ∈ network.packets ∧ packet.destination = node.endpoint then
        match node.connection.receiveOne mavlinkParser (packet.bytes.length + 1)
            (some ⟨packet.bytes, leftOver, packet.source⟩) with
        | some (connection, events) =>
          some (network.setConnection name connection, (handedOn events).map (.handedOn name))
        | none => none
      else none
    | .addRemote name remote =>
      some (network.setConnection name ((network.node name).connection.addRemote remote), [])

end UdpNetwork
end PilotingMavsdk
