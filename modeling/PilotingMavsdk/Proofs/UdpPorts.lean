import PilotingMavsdk.Proofs.UdpDelivery
import PilotingMavsdk.UdpWire

/-! Two processes that have each other as their only remote exchange their messages as if there were
no datagrams between them. -/

namespace PilotingMavsdk
open Library

namespace MavlinkCodec
variable {Content : Type} (codec : MavlinkCodec Content)

/-- Whoever receives what has been sent decodes this content. -/
structure Says (systemId : UInt8) (content : Content) (sending : Sending) : Prop where
  sysid : sending.systemId = systemId
  decode : ∀ received behind, received.frame = sending.frame →
    codec.decode behind received = some content

/-- The content can be sent under this system id, whatever the memory around it holds. -/
def Packs (systemId : UInt8) (content : Content) : Prop :=
  ∀ memory, ∃ sending : Sending, sending.finalized = codec.pack memory content ∧
    codec.Says systemId content sending

end MavlinkCodec

/-- The two processes, and the ids under which they send. -/
structure UdpPair where
  endpoint : Library.Side → Remote
  systemId : Library.Side → UInt8
  named : ∀ side, systemId side ≠ 0

namespace UdpPair
variable (pair : UdpPair) {Content : Type} (codec : MavlinkCodec Content)

/-- The port of a process that knows the other one only. -/
structure Ready (side : Library.Side) (port : UdpPort) : Prop where
  endpoint : port.node.endpoint = pair.endpoint side
  channel : port.node.connection.receiver.channel.Ready
  remotes : ∀ peer, peer ≠ side → port.node.connection.remotes = [pair.endpoint peer]
  systemId : ∀ peer, peer ≠ side → port.systemId = pair.systemId peer

structure Bears (writer : Library.Side) (content : Content) (packet : Packet) : Prop where
  source : packet.source = pair.endpoint writer
  destination : ∀ reader, reader ≠ writer → packet.destination = pair.endpoint reader
  bytes : ∃ sending, codec.Says (pair.systemId writer) content sending ∧
    packet.bytes = sending.buffer

def Fits (writer : Library.Side) (content : Content) : Prop :=
  codec.Packs (pair.systemId writer) content

private theorem exists_peer (side : Library.Side) : ∃ peer, peer ≠ side := by
  cases side
  · exact ⟨.second, by decide⟩
  · exact ⟨.first, by decide⟩

private theorem eq_of_ne {side peer other : Library.Side} (one : peer ≠ side) (two : other ≠ side) :
    peer = other := by
  cases side <;> cases peer <;> cases other <;> simp_all

theorem Ready.addRemote {side writer : Library.Side} {port : UdpPort} (ready : pair.Ready side port)
    (opposite : writer ≠ side) :
    (port.node.connection.addRemote (pair.endpoint writer)).remotes =
      port.node.connection.remotes := by
  have known : pair.endpoint writer ∈ port.node.connection.remotes := by
    rw [ready.remotes writer opposite]
    exact List.mem_singleton_self _
  rw [UdpConnection.addRemote, if_pos known]

theorem faithful : codec.wire.Faithful (pair.Fits codec) pair.Ready (pair.Bears codec) := by
  refine ⟨?_, ?_⟩
  · intro side content port memory fits ready
    obtain ⟨peer, other⟩ := exists_peer side
    obtain ⟨sending, packed, states⟩ := fits memory
    refine ⟨port, ⟨port.node.endpoint, pair.endpoint peer, sending.buffer⟩, ?_, ?_, ready⟩
    · simp only [MavlinkCodec.wire, UdpConnection.sendMessage_eq, ready.remotes peer other, ← packed]
      rfl
    · refine ⟨ready.endpoint, ?_, sending, states, rfl⟩
      intro reader opposite
      rw [eq_of_ne opposite other]
  · intro writer reader content packet port arrival opposite bears ready
    obtain ⟨sending, states, bytes⟩ := bears.bytes
    have here : packet.destination = port.node.endpoint := by
      rw [bears.destination reader opposite.symm, ready.endpoint]
    obtain ⟨connection, events, received, receives, single, frame, channel, remotes⟩ :=
      receiveOne_buffer ready.channel sending arrival.leftOver packet.source
    rw [← bytes] at receives
    have sysid : received.sysid = pair.systemId writer :=
      (congrArg MavlinkFrame.sysid frame).trans states.sysid
    have goes : forSystem port.systemId received = true := by
      rw [forSystem, sysid, ready.systemId writer opposite]
      simp [pair.named writer]
    have decoded := states.decode received arrival.behind frame
    refine ⟨{ port with node := { port.node with connection := connection } }, ?_, ?_⟩
    · simp [MavlinkCodec.wire, here, receives, single, goes, decoded]
    · refine ⟨ready.endpoint, channel, ?_, ready.systemId⟩
      intro peer other
      rw [bears.source, ready.addRemote pair opposite, ite_self] at remotes
      rw [remotes, ready.remotes peer other]

end UdpPair

/-- Each process has the other one as its only remote, and as the target of its plugin's system. -/
structure Joined (ground vehicle : Sender) (node : Library.Side → UdpNode) : Prop where
  channel : ∀ side, (node side).connection.receiver.channel.Ready
  remotes : ∀ side peer, peer ≠ side → (node side).connection.remotes = [(node peer).endpoint]
  towards : ground.targetAddress.systemId = vehicle.ownAddress.systemId
  back : vehicle.targetAddress.systemId = ground.ownAddress.systemId
  vehicleNamed : vehicle.ownAddress.systemId ≠ 0
  groundNamed : ground.ownAddress.systemId ≠ 0

/-- Both sides with their ports, before anything has been sent. -/
def udpLink {First Second : Type} (ground vehicle : Sender) (node : Library.Side → UdpNode)
    (first : First) (second : Second) : Link (Wired First UdpPort) (Wired Second UdpPort) Packet where
  first := ⟨first, ⟨node .first, ground.targetAddress.systemId⟩⟩
  second := ⟨second, ⟨node .second, vehicle.targetAddress.systemId⟩⟩

namespace Joined
variable {ground vehicle : Sender} {node : Library.Side → UdpNode}

def pair (joined : Joined ground vehicle node) : UdpPair where
  endpoint side := (node side).endpoint
  systemId
    | .first => ground.ownAddress.systemId
    | .second => vehicle.ownAddress.systemId
  named side := by
    cases side
    · exact joined.groundNamed
    · exact joined.vehicleNamed

theorem covers {First Second Content : Type} (joined : Joined ground vehicle node)
    (codec : MavlinkCodec Content) (delivery : Delivery) (first : First) (second : Second) :
    Wire.Covers delivery joined.pair.Ready (joined.pair.Bears codec) ⟨first, second, [], []⟩
      (udpLink ground vehicle node first second) := by
  refine ⟨rfl, rfl, ?_, ?_, .of_forall₂ .nil, .of_forall₂ .nil⟩
  · refine ⟨rfl, joined.channel .first, joined.remotes .first, ?_⟩
    intro peer other
    cases peer
    · cases other rfl
    · exact joined.towards
  · refine ⟨rfl, joined.channel .second, joined.remotes .second, ?_⟩
    intro peer other
    cases peer
    · exact joined.back
    · cases other rfl

end Joined

instance : Nonempty PackMemory := ⟨{}⟩

instance : Nonempty Arrival := ⟨{}⟩

def sampleNode : Library.Side → UdpNode
  | .first => ⟨⟨"10.0.0.1", 14540⟩, { sampleConnection with remotes := [⟨"10.0.0.2", 14550⟩] }⟩
  | .second => ⟨⟨"10.0.0.2", 14550⟩, { sampleConnection with remotes := [⟨"10.0.0.1", 14540⟩] }⟩

theorem joined_sampleNode : Joined ⟨⟨1, 0⟩, ⟨2, 0⟩⟩ ⟨⟨2, 0⟩, ⟨1, 0⟩⟩ sampleNode := by
  refine ⟨?_, ?_, rfl, rfl, by decide, by decide⟩
  · intro side
    cases side <;> exact .inl rfl
  · intro side peer other
    cases side <;> cases peer <;> first | rfl | cases other rfl

end PilotingMavsdk
