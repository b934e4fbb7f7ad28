import PilotingMavsdk.Library.Layout
import PilotingMavsdk.MavlinkFraming
import PilotingMavsdk.Message

/-! The layouts of the messages: what their pack functions write into a payload, and what their
decode functions read. Longer fields come first. -/

namespace PilotingMavsdk
open Library

namespace Layout

def address : Layout MAVLinkAddress :=
  (Layout.uint8.pair .uint8).map (fun (system, component) => ⟨system, component⟩)
    (fun address => (address.systemId, address.componentId)) (fun _ => rfl)

abbrev Addressed (Value : Type) := Layout (MAVLinkAddress × Value)

def listRequest : Addressed Unit :=
  address.map (fun target => (target, ())) Prod.fst (fun _ => rfl)

def listCount : Addressed (Unit × UInt16) :=
  (Layout.uint16.pair address).map (fun (count, target) => (target, (), count))
    (fun (target, _, count) => (count, target)) (fun _ => rfl)

def listRead : Addressed UInt16 :=
  (Layout.uint16.pair address).map Prod.swap Prod.swap (fun _ => rfl)

def listAck : Addressed UInt8 := address.pair .uint8

def waypointListCount : Addressed (PlanId × UInt16) :=
  (Layout.uint32.pair (Layout.uint16.pair (address.pair (.text 37)))).map
    (fun (syncId, count, target, planUuid) => (target, ⟨planUuid, syncId⟩, count))
    (fun (target, plan, count) => (plan.syncId, count, target, plan.planUuid)) (fun _ => rfl)

def waypointListItem : Addressed WaypointItem :=
  (Layout.uint32.pair (Layout.uint32.pair (Layout.uint32.pair (Layout.uint32.pair
    (Layout.uint32.pair (Layout.uint32.pair (Layout.uint32.pair (Layout.uint16.pair
      (Layout.uint16.pair (address.pair ((Layout.text 37).pair
        ((Layout.text 37).pair .uint8)))))))))))).map
    (fun (param1, param2, param3, param4, x, y, z, seq, command, target, taskUuid, taskTypeUuid,
        autocontinue) =>
      (target, ⟨⟨taskUuid, taskTypeUuid, command, autocontinue, param1, param2, param3, param4, x,
        y, z⟩, seq⟩))
    (fun (target, item) => (item.param1, item.param2, item.param3, item.param4, item.x, item.y,
      item.z, item.seq, item.command, target, item.taskUuid, item.taskTypeUuid,
      item.autocontinue))
    (fun _ => rfl)

/-- Of the checklist and of the alarm list. -/
def listItem : Addressed (UInt16 × String × String) :=
  (Layout.uint16.pair (address.pair ((Layout.text 20).pair (.text 231)))).map
    (fun (index, target, name, description) => (target, index, name, description))
    (fun (target, index, name, description) => (index, target, name, description)) (fun _ => rfl)

def checkListItem : Addressed ChecklistItem :=
  listItem.map (fun (target, index, name, description) => (target, ⟨index, name, description⟩))
    (fun (target, item) => (target, item.index, item.name, item.description)) (fun _ => rfl)

def alarmListItem : Addressed AlarmItem :=
  listItem.map (fun (target, index, name, description) => (target, ⟨index, name, description⟩))
    (fun (target, item) => (target, item.index, item.name, item.description)) (fun _ => rfl)

def hlActionListItem : Addressed HLActionItem :=
  (Layout.uint16.pair (Layout.uint16.pair (address.pair ((Layout.text 20).pair (.text 229))))).map
    (fun (index, command, target, name, description) =>
      (target, ⟨index, command, name, description⟩))
    (fun (target, item) => (item.index, item.command, target, item.name, item.description))
    (fun _ => rfl)

def commandLong : Addressed CommandLong :=
  (Layout.uint32.pair (Layout.uint32.pair (Layout.uint32.pair (Layout.uint32.pair
    (Layout.uint32.pair (Layout.uint32.pair (Layout.uint32.pair (Layout.uint16.pair
      (address.pair .uint8))))))))).map
    (fun (param1, param2, param3, param4, param5, param6, param7, command, target, confirmation) =>
      (target, ⟨command, confirmation, param1, param2, param3, param4, param5, param6, param7⟩))
    (fun (target, command) => (command.param1, command.param2, command.param3, command.param4,
      command.param5, command.param6, command.param7, command.command, target,
      command.confirmation))
    (fun _ => rfl)

def commandAck : Addressed CommandAck :=
  (Layout.uint16.pair (Layout.uint8.pair (Layout.uint8.pair (Layout.int32.pair address)))).map
    (fun (command, result, progress, resultParam2, target) =>
      (target, ⟨command, result, progress, resultParam2⟩))
    (fun (target, ack) => (ack.command, ack.result, ack.progress, ack.resultParam2, target))
    (fun _ => rfl)

end Layout

/-- What the four protocols do not share. -/
structure ListLayouts (Header Item : Type) where
  count : Layout.Addressed (Header × UInt16)
  item : Layout.Addressed Item

namespace ListLayouts
variable {Header Item : Type} (layouts : ListLayouts Header Item)

def encode (behind : Nat → UInt8) (target : MAVLinkAddress) : ListMessage Header Item → Bytes
  | .request => Layout.listRequest.encode behind (target, ())
  | .count header count => layouts.count.encode behind (target, header, count)
  | .read seq => Layout.listRead.encode behind (target, seq)
  | .item item => layouts.item.encode behind (target, item)
  | .ack type => Layout.listAck.encode behind (target, type)

def decode (bytes : Bytes) :
    ListMessage.Kind → Option (MAVLinkAddress × ListMessage Header Item)
  | .request => (Layout.listRequest.decode bytes).map fun (target, _) => (target, .request)
  | .count => (layouts.count.decode bytes).map fun (target, header, count) =>
      (target, .count header count)
  | .read => (Layout.listRead.decode bytes).map fun (target, seq) => (target, .read seq)
  | .item => (layouts.item.decode bytes).map fun (target, item) => (target, .item item)
  | .ack => (Layout.listAck.decode bytes).map fun (target, type) => (target, .ack type)

def Fits (target : MAVLinkAddress) : ListMessage Header Item → Prop
  | .count header count => layouts.count.Fits (target, header, count)
  | .item item => layouts.item.Fits (target, item)
  | .request | .read _ | .ack _ => True

def length : ListMessage.Kind → Nat
  | .request => Layout.listRequest.width
  | .count => layouts.count.width
  | .read => Layout.listRead.width
  | .item => layouts.item.width
  | .ack => Layout.listAck.width

theorem length_encode (behind : Nat → UInt8) (target : MAVLinkAddress)
    (message : ListMessage Header Item) :
    (layouts.encode behind target message).length = layouts.length message.kind := by
  cases message <;> exact Layout.length_encode _ _ _

theorem decode_encode {layouts : ListLayouts Header Item} (behind : Nat → UInt8)
    {target : MAVLinkAddress} {message : ListMessage Header Item} (rest : Bytes)
    (fits : layouts.Fits target message) :
    layouts.decode (layouts.encode behind target message ++ rest) message.kind =
      some (target, message) := by
  cases message with
  | request =>
    have decoded := @Layout.decode_encode _ Layout.listRequest behind (target, ()) rest
      ⟨trivial, trivial⟩
    rw [encode, ListMessage.kind, decode, decoded]
    rfl
  | count header count =>
    rw [encode, ListMessage.kind, decode, layouts.count.decode_encode behind rest fits]
    rfl
  | read seq =>
    have decoded := @Layout.decode_encode _ Layout.listRead behind (target, seq) rest
      ⟨trivial, trivial, trivial⟩
    rw [encode, ListMessage.kind, decode, decoded]
    rfl
  | item item =>
    rw [encode, ListMessage.kind, decode, layouts.item.decode_encode behind rest fits]
    rfl
  | ack type =>
    have decoded := @Layout.decode_encode _ Layout.listAck behind (target, type) rest
      ⟨⟨trivial, trivial⟩, trivial⟩
    rw [encode, ListMessage.kind, decode, decoded]
    rfl

end ListLayouts

def waypointListLayouts : ListLayouts PlanId WaypointItem :=
  ⟨Layout.waypointListCount, Layout.waypointListItem⟩

def checkListLayouts : ListLayouts Unit ChecklistItem :=
  ⟨Layout.listCount, Layout.checkListItem⟩

def alarmListLayouts : ListLayouts Unit AlarmItem :=
  ⟨Layout.listCount, Layout.alarmListItem⟩

def hlActionListLayouts : ListLayouts Unit HLActionItem :=
  ⟨Layout.listCount, Layout.hlActionListItem⟩

namespace Payload

def encode (behind : Nat → UInt8) (target : MAVLinkAddress) : Payload → Bytes
  | .waypointList message => waypointListLayouts.encode behind target message
  | .waypointListSetCurrentItem seq => Layout.listRead.encode behind (target, seq)
  | .checkList message => checkListLayouts.encode behind target message
  | .alarmList message => alarmListLayouts.encode behind target message
  | .hlActionList message => hlActionListLayouts.encode behind target message
  | .commandLong command => Layout.commandLong.encode behind (target, command)
  | .commandAck ack => Layout.commandAck.encode behind (target, ack)

def Fits (target : MAVLinkAddress) : Payload → Prop
  | .waypointList message => waypointListLayouts.Fits target message
  | .checkList message => checkListLayouts.Fits target message
  | .alarmList message => alarmListLayouts.Fits target message
  | .hlActionList message => hlActionListLayouts.Fits target message
  | .waypointListSetCurrentItem _ | .commandLong _ | .commandAck _ => True

def length : Payload → Nat
  | .waypointList message => waypointListLayouts.length message.kind
  | .waypointListSetCurrentItem _ => Layout.listRead.width
  | .checkList message => checkListLayouts.length message.kind
  | .alarmList message => alarmListLayouts.length message.kind
  | .hlActionList message => hlActionListLayouts.length message.kind
  | .commandLong _ => Layout.commandLong.width
  | .commandAck _ => Layout.commandAck.width

/-- `MAVLINK_MSG_ID_*_MIN_LEN`. Only one message has fields that the first version does not. -/
def minLength : Payload → Nat
  | .waypointList message => waypointListLayouts.length message.kind
  | .waypointListSetCurrentItem _ => Layout.listRead.width
  | .checkList message => checkListLayouts.length message.kind
  | .alarmList message => alarmListLayouts.length message.kind
  | .hlActionList message => hlActionListLayouts.length message.kind
  | .commandLong _ => Layout.commandLong.width
  | .commandAck _ => 3

def crcExtra : Payload → UInt8
  | .waypointList message =>
    match message.kind with
    | .request => 188
    | .count => 75
    | .read => 71
    | .item => 214
    | .ack => 207
  | .waypointListSetCurrentItem _ => 6
  | .checkList message =>
    match message.kind with
    | .request => 190
    | .count => 176
    | .read => 78
    | .item => 120
    | .ack => 79
  | .alarmList message =>
    match message.kind with
    | .request => 107
    | .count => 225
    | .read => 76
    | .item => 47
    | .ack => 40
  | .hlActionList message =>
    match message.kind with
    | .request => 215
    | .count => 211
    | .read => 184
    | .item => 47
    | .ack => 157
  | .commandLong _ => 152
  | .commandAck _ => 143

/-- A decode function, on a payload as it has arrived and what lies in memory behind the
structure. -/
def decodeFields {Value : Type} (layout : Layout.Addressed Value) (build : Value → Payload)
    (received behind : Bytes) : Option (MAVLinkAddress × Payload) :=
  (layout.decode (PilotingMavsdk.decode layout.width received ++ behind)).map
    fun (target, value) => (target, build value)

def decodeList {Header Item : Type} (layouts : ListLayouts Header Item)
    (build : ListMessage Header Item → Payload) (received behind : Bytes)
    (kind : ListMessage.Kind) : Option (MAVLinkAddress × Payload) :=
  (layouts.decode (PilotingMavsdk.decode (layouts.length kind) received ++ behind) kind).map
    fun (target, message) => (target, build message)

def decode (received behind : Bytes) : Nat → Option (MAVLinkAddress × Payload)
  | 76 => decodeFields Layout.commandLong .commandLong received behind
  | 77 => decodeFields Layout.commandAck .commandAck received behind
  | 180 => decodeList waypointListLayouts .waypointList received behind .count
  | 181 => decodeList waypointListLayouts .waypointList received behind .read
  | 182 => decodeList waypointListLayouts .waypointList received behind .item
  | 183 => decodeList waypointListLayouts .waypointList received behind .ack
  | 184 => decodeList waypointListLayouts .waypointList received behind .request
  | 185 => decodeFields Layout.listRead .waypointListSetCurrentItem received behind
  | 188 => decodeList checkListLayouts .checkList received behind .request
  | 189 => decodeList checkListLayouts .checkList received behind .count
  | 190 => decodeList checkListLayouts .checkList received behind .read
  | 191 => decodeList checkListLayouts .checkList received behind .item
  | 193 => decodeList checkListLayouts .checkList received behind .ack
  | 194 => decodeList alarmListLayouts .alarmList received behind .request
  | 195 => decodeList alarmListLayouts .alarmList received behind .count
  | 196 => decodeList alarmListLayouts .alarmList received behind .read
  | 197 => decodeList alarmListLayouts .alarmList received behind .item
  | 198 => decodeList alarmListLayouts .alarmList received behind .ack
  | 199 => decodeList hlActionListLayouts .hlActionList received behind .request
  | 200 => decodeList hlActionListLayouts .hlActionList received behind .count
  | 201 => decodeList hlActionListLayouts .hlActionList received behind .read
  | 202 => decodeList hlActionListLayouts .hlActionList received behind .item
  | 203 => decodeList hlActionListLayouts .hlActionList received behind .ack
  | _ => none

end Payload

/-- What a pack function leaves in a message before it is finalized. -/
def MavlinkMessage.put (buffer : MavlinkMessage) (msgid : Nat) (bytes : Bytes) : MavlinkMessage :=
  { buffer with
    msgid := BitVec.ofNat 24 msgid
    payload := buffer.payload.mapIdx fun place byte => bytes.getD place byte }

def MavlinkMessage.decode (behind : Bytes) (message : MavlinkMessage) : Option Message :=
  (Payload.decode (message.payload.toList.take message.len.toNat) behind message.msgid.toNat).map
    fun (target, payload) => ⟨⟨message.sysid, message.compid⟩, target, payload⟩

end PilotingMavsdk
