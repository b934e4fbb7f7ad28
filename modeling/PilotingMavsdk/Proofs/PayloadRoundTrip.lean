import PilotingMavsdk.MavlinkPayloads
import PilotingMavsdk.Proofs.Delivery

/-! Packed, sent, cut into datagrams, parsed and decoded, a message is what it was, if its texts fit.
The trailing zeros that are not sent are put back. -/

namespace PilotingMavsdk
open Library

namespace Payload

theorem length_encode (behind : Nat → UInt8) (target : MAVLinkAddress) (payload : Payload) :
    (payload.encode behind target).length = payload.length := by
  cases payload with
  | waypointList message => exact waypointListLayouts.length_encode behind target message
  | waypointListSetCurrentItem seq => exact Layout.listRead.length_encode _ _
  | checkList message => exact checkListLayouts.length_encode behind target message
  | alarmList message => exact alarmListLayouts.length_encode behind target message
  | hlActionList message => exact hlActionListLayouts.length_encode behind target message
  | commandLong command => exact Layout.commandLong.length_encode _ _
  | commandAck ack => exact Layout.commandAck.length_encode _ _

private theorem length_lt (payload : Payload) : payload.length < 256 := by
  cases payload with
  | waypointList message => rw [length]; cases message.kind <;> decide
  | waypointListSetCurrentItem seq => rw [length]; decide
  | checkList message => rw [length]; cases message.kind <;> decide
  | alarmList message => rw [length]; cases message.kind <;> decide
  | hlActionList message => rw [length]; cases message.kind <;> decide
  | commandLong command => rw [length]; decide
  | commandAck ack => rw [length]; decide

private theorem msgId_lt (payload : Payload) : payload.msgId < 256 := by
  cases payload with
  | waypointList message => rw [msgId]; cases message.kind <;> decide
  | waypointListSetCurrentItem seq => rw [msgId]; decide
  | checkList message => rw [msgId]; cases message.kind <;> decide
  | alarmList message => rw [msgId]; cases message.kind <;> decide
  | hlActionList message => rw [msgId]; cases message.kind <;> decide
  | commandLong command => rw [msgId]; decide
  | commandAck ack => rw [msgId]; decide

private theorem entry_eq (payload : Payload) :
    mavlinkGetMsgEntry (uint32Msgid (BitVec.ofNat 24 payload.msgId)) =
      some ⟨UInt32.ofNat payload.msgId, payload.crcExtra, UInt8.ofNat payload.minLength,
        UInt8.ofNat payload.length⟩ := by
  cases payload with
  | waypointList message =>
    rw [crcExtra, msgId, minLength, length]; cases message.kind <;> decide +kernel
  | waypointListSetCurrentItem seq => rw [crcExtra, msgId, minLength, length]; decide +kernel
  | checkList message =>
    rw [crcExtra, msgId, minLength, length]; cases message.kind <;> decide +kernel
  | alarmList message =>
    rw [crcExtra, msgId, minLength, length]; cases message.kind <;> decide +kernel
  | hlActionList message =>
    rw [crcExtra, msgId, minLength, length]; cases message.kind <;> decide +kernel
  | commandLong command => rw [crcExtra, msgId, minLength, length]; decide +kernel
  | commandAck ack => rw [crcExtra, msgId, minLength, length]; decide +kernel

private theorem crcExtra_eq (payload : Payload) :
    payload.crcExtra = mavlinkGetCrcExtra (uint32Msgid (BitVec.ofNat 24 payload.msgId)) := by
  rw [mavlinkGetCrcExtra, entry_eq]
  rfl

private theorem decodeFields_eq {Value : Type} (layout : Layout.Addressed Value)
    (build : Value → Payload) {behind : Nat → UInt8} {target : MAVLinkAddress} {value : Value} {received : Bytes}
    (whole : PilotingMavsdk.decode layout.width received = layout.encode behind (target, value))
    (fits : layout.Fits (target, value)) (rest : Bytes) :
    decodeFields layout build received rest = some (target, build value) := by
  rw [decodeFields, whole, layout.decode_encode behind rest fits]
  rfl

private theorem decodeList_eq {Header Item : Type} (layouts : ListLayouts Header Item)
    (build : ListMessage Header Item → Payload) {behind : Nat → UInt8} {target : MAVLinkAddress}
    {message : ListMessage Header Item} {received : Bytes}
    (whole : PilotingMavsdk.decode (layouts.length message.kind) received =
      layouts.encode behind target message)
    (fits : layouts.Fits target message) (rest : Bytes) :
    decodeList layouts build received rest message.kind = some (target, build message) := by
  rw [decodeList, whole, ListLayouts.decode_encode behind rest fits]
  rfl

/-- Whatever lies in memory behind the structure. -/
theorem decode_eq {behind : Nat → UInt8} {target : MAVLinkAddress} {payload : Payload}
    {received : Bytes}
    (whole : PilotingMavsdk.decode payload.length received = payload.encode behind target)
    (fits : payload.Fits target) (rest : Bytes) :
    Payload.decode received rest payload.msgId = some (target, payload) := by
  cases payload with
  | waypointList message =>
    have decoded := decodeList_eq waypointListLayouts .waypointList whole fits rest
    cases message <;> exact decoded
  | waypointListSetCurrentItem seq =>
    exact decodeFields_eq Layout.listRead .waypointListSetCurrentItem whole
      ⟨trivial, trivial, trivial⟩ rest
  | checkList message =>
    have decoded := decodeList_eq checkListLayouts .checkList whole fits rest
    cases message <;> exact decoded
  | alarmList message =>
    have decoded := decodeList_eq alarmListLayouts .alarmList whole fits rest
    cases message <;> exact decoded
  | hlActionList message =>
    have decoded := decodeList_eq hlActionListLayouts .hlActionList whole fits rest
    cases message <;> exact decoded
  | commandLong command =>
    exact decodeFields_eq Layout.commandLong .commandLong whole
      ⟨trivial, trivial, trivial, trivial, trivial, trivial, trivial, trivial, ⟨trivial, trivial⟩,
        trivial⟩ rest
  | commandAck ack =>
    exact decodeFields_eq Layout.commandAck .commandAck whole
      ⟨trivial, trivial, trivial, trivial, trivial, trivial⟩ rest

end Payload

private theorem take_put (buffer : MavlinkMessage) (msgid : Nat) (bytes : Bytes)
    (short : bytes.length ≤ 264) :
    (buffer.put msgid bytes).payload.toList.take bytes.length = bytes := by
  apply List.ext_getElem
  · rw [List.length_take, Vector.length_toList]
    omega
  · intro place inside there
    simp [MavlinkMessage.put, List.getD_eq_getElem?_getD, List.getElem?_eq_getElem there]

theorem Sending.payload_put {sending : Sending} {buffer : MavlinkMessage} {msgid : Nat}
    {bytes : Bytes} (packed : sending.message = buffer.put msgid bytes)
    (length : sending.length = UInt8.ofNat bytes.length) (small : bytes.length < 256)
    (second : sending.status.outMavlink1 = false) : sending.payload = trimPayload bytes := by
  have whole : sending.length.toNat = bytes.length := by
    rw [length]
    exact Nat.mod_eq_of_lt small
  have taken : sending.message.payload.toList.take bytes.length = bytes := by
    rw [packed]
    exact take_put buffer msgid bytes (by omega)
  have trimmed : trimmedLength sending.message.payload.toList bytes.length =
      trimmedLength bytes bytes.length := by
    apply trimmedLength_of_take
    rw [taken, List.take_length]
  have shorter := trimmedLength_le bytes bytes.length
  rw [Sending.payload, second, if_neg Bool.false_ne_true, whole, trimmed, trimPayload]
  calc sending.message.payload.toList.take (trimmedLength bytes bytes.length)
      = (sending.message.payload.toList.take bytes.length).take
          (trimmedLength bytes bytes.length) := by
        rw [List.take_take, Nat.min_eq_left shorter]
    _ = bytes.take (trimmedLength bytes bytes.length) := by rw [taken]

/-- A message with what its sender packs it with: the memory behind its texts, the message that is
packed into, and the status of the sending channel, which is never set to the first version. -/
structure Posting where
  message : Message
  behind : Nat → UInt8
  buffer : MavlinkMessage
  status : MavlinkStatus
  fits : message.payload.Fits message.target
  second : status.outMavlink1 = false

namespace Posting
variable (posting : Posting)

def payload : Payload := posting.message.payload

def sending : Sending where
  message := posting.buffer.put posting.payload.msgId
    (posting.payload.encode posting.behind posting.message.target)
  systemId := posting.message.source.systemId
  componentId := posting.message.source.componentId
  status := posting.status
  minLength := UInt8.ofNat posting.payload.minLength
  length := UInt8.ofNat posting.payload.length
  crcExtra := posting.payload.crcExtra
  checked := posting.payload.crcExtra_eq
  narrow := by
    intro first
    rw [posting.second] at first
    cases first

def bytes : Bytes := posting.payload.encode posting.behind posting.message.target

private theorem length_bytes : posting.bytes.length = posting.payload.length :=
  posting.payload.length_encode posting.behind posting.message.target

private theorem payload_sending : posting.sending.payload = trimPayload posting.bytes := by
  have small := posting.payload.length_lt
  rw [← length_bytes] at small
  refine Sending.payload_put rfl ?_ small posting.second
  rw [length_bytes]
  rfl

theorem decode_eq {received : MavlinkMessage} (same : received.frame = posting.sending.frame)
    (rest : Bytes) : received.decode rest = some posting.message := by
  have sysid : received.sysid = posting.message.source.systemId := congrArg MavlinkFrame.sysid same
  have compid : received.compid = posting.message.source.componentId :=
    congrArg MavlinkFrame.compid same
  have msgid : received.msgid.toNat = posting.payload.msgId := by
    have number : received.msgid = BitVec.ofNat 24 posting.payload.msgId :=
      congrArg MavlinkFrame.msgid same
    have small := posting.payload.msgId_lt
    rw [number, BitVec.toNat_ofNat]
    exact Nat.mod_eq_of_lt (by omega)
  have payload : received.payload.toList.take received.len.toNat = trimPayload posting.bytes :=
    (congrArg MavlinkFrame.payload same).trans posting.payload_sending
  have whole : PilotingMavsdk.decode posting.payload.length (trimPayload posting.bytes) =
      posting.bytes := by
    rw [← length_bytes, decode_trimPayload]
  have decoded := Payload.decode_eq whole posting.fits rest
  rw [MavlinkMessage.decode, payload, msgid, decoded, sysid, compid]
  rfl

end Posting

private theorem decode_of_frames {received : List MavlinkMessage} {posted : List Posting}
    (same : received.map MavlinkMessage.frame = posted.map (Sending.frame ∘ Posting.sending))
    (rest : Bytes) :
    received.map (MavlinkMessage.decode rest) =
      posted.map (fun posting => some posting.message) := by
  induction received generalizing posted with
  | nil =>
    cases posted with
    | nil => rfl
    | cons posting posted => cases same
  | cons message received ih =>
    cases posted with
    | nil => cases same
    | cons posting posted =>
      obtain ⟨first, later⟩ := List.cons.inj same
      rw [List.map_cons, List.map_cons, posting.decode_eq first rest, ih later]

/-- Messages that are packed, sent and received are handled as they were, in their order, however
their bytes are cut into datagrams and whatever the memory around them holds. -/
theorem receive_posted (posted : List Posting) (calls : List (Option Datagram)) (rest : Bytes)
    (connection : UdpConnection MavlinkChannel MavlinkMessage)
    (ready : connection.receiver.channel.Ready)
    (bytes : UdpConnection.received calls =
      posted.flatMap fun posting => posting.sending.buffer) :
    ∃ enough, ∀ rounds, enough ≤ rounds →
      ∃ last events, connection.receive mavlinkParser rounds calls = some (last, events) ∧
        (handedOn events).map (MavlinkMessage.decode rest) =
          posted.map (fun posting => some posting.message) ∧
        last.receiver.channel.Ready := by
  refine ⟨(UdpConnection.received calls).length + 1, ?_⟩
  intro rounds enough
  have buffers : UdpConnection.received calls =
      (posted.map Posting.sending).flatMap Sending.buffer := by
    rw [bytes, List.flatMap_map]
  obtain ⟨last, events, ends, frames, done⟩ := handedOn_sent ready buffers enough
  refine ⟨last, events, ends, ?_, done⟩
  rw [List.map_map] at frames
  exact decode_of_frames frames rest

/-- A plan of one item. The memory behind the texts is not zero. -/
def samplePostings : List Posting :=
  [{ message := ⟨⟨1, 1⟩, ⟨2, 1⟩, .waypointList (.count ⟨"plan", 7⟩ 1)⟩
     behind := fun _ => 0xff
     buffer := {}
     status := {}
     fits := ⟨trivial, trivial, ⟨trivial, trivial⟩, by decide +kernel⟩
     second := rfl },
   { message := ⟨⟨1, 1⟩, ⟨2, 1⟩,
       .waypointList (.item ⟨⟨"task", "look", 16, 1, 0, 0, 0, 0, 1, 2, 0⟩, 0⟩)⟩
     behind := fun _ => 0xff
     buffer := {}
     status := { currentTxSeq := 1 }
     fits := ⟨trivial, trivial, trivial, trivial, trivial, trivial, trivial, trivial, trivial,
       ⟨trivial, trivial⟩, by decide +kernel, by decide +kernel, trivial⟩
     second := rfl },
   { message := ⟨⟨1, 1⟩, ⟨2, 1⟩, .checkList (.item ⟨0, "rotors", "look at each of them"⟩)⟩
     behind := fun _ => 0xff
     buffer := {}
     status := { currentTxSeq := 2 }
     fits := ⟨trivial, ⟨trivial, trivial⟩, by decide +kernel, by decide +kernel⟩
     second := rfl }]

def sampleBytes : Bytes := samplePostings.flatMap fun posting => posting.sending.buffer

/-- Three messages in two datagrams, the first of which ends within the second message. -/
theorem receive_posted_plan :
    ∃ enough, ∀ rounds, enough ≤ rounds →
      ∃ last events, sampleConnection.receive mavlinkParser rounds
          [some ⟨sampleBytes.take 40, [], ⟨"", 0⟩⟩, none,
            some ⟨sampleBytes.drop 40, [], ⟨"", 0⟩⟩] = some (last, events) ∧
        (handedOn events).map (MavlinkMessage.decode []) =
          samplePostings.map (fun posting => some posting.message) ∧
        last.receiver.channel.Ready := by
  refine receive_posted samplePostings _ [] sampleConnection (.inl rfl) ?_
  have two (first second : Bytes) : UdpConnection.received [some ⟨first, [], ⟨"", 0⟩⟩, none,
      some ⟨second, [], ⟨"", 0⟩⟩] = first ++ second := by
    simp [UdpConnection.received]
  exact (two _ _).trans (List.take_append_drop 40 sampleBytes)

end PilotingMavsdk
