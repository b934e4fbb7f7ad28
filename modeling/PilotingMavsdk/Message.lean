/-! The messages of the transfer protocols and the data they carry. A message is what a pack
function writes and a decode function reads back if the texts are shorter than their fields; the
byte layout and longer texts are left to the layouts of the payloads. -/

namespace PilotingMavsdk

structure MAVLinkAddress where
  systemId : UInt8
  componentId : UInt8
deriving DecidableEq, Repr

/-- The own address and the address of the one remote system that a `Sender` packs for. -/
structure Sender where
  ownAddress : MAVLinkAddress
  targetAddress : MAVLinkAddress
deriving DecidableEq, Repr

/-- A C++ `float`, kept as its bits because nothing computes with it. -/
abbrev FloatBits := UInt32

def nan : FloatBits := 0x7fc00000

namespace InspectionBase

structure WaypointItem where
  taskUuid : String := ""
  taskTypeUuid : String := ""
  command : UInt16 := 0
  autocontinue : UInt8 := 0
  param1 : FloatBits := 0
  param2 : FloatBits := 0
  param3 : FloatBits := 0
  param4 : FloatBits := 0
  x : FloatBits := 0
  y : FloatBits := 0
  z : FloatBits := 0
deriving DecidableEq, Repr

end InspectionBase

/-- The item as the transfer handles it: the user's item and its sequence number. -/
structure WaypointItem extends InspectionBase.WaypointItem where
  seq : UInt16
deriving DecidableEq, Repr

structure ChecklistItem where
  index : UInt16
  name : String
  description : String
deriving DecidableEq, Repr

structure AlarmItem where
  index : UInt16
  name : String
  description : String
deriving DecidableEq, Repr

structure HLActionItem where
  index : UInt16
  command : UInt16
  name : String
  description : String
deriving DecidableEq, Repr

/-- What a `WAYPOINT_LIST_COUNT` says about the list besides its length. -/
structure PlanId where
  planUuid : String := ""
  syncId : UInt32 := 0
deriving DecidableEq, Repr

/-- A transferred list. The checklist, alarm and HL action lists have no header. -/
structure ItemList (Header Item : Type) where
  header : Header
  items : List Item
deriving DecidableEq, Repr

abbrev WaypointList := ItemList PlanId WaypointItem
abbrev InspectionBase.WaypointList := ItemList PlanId InspectionBase.WaypointItem

/-- The five messages that each of the four list protocols has. -/
inductive ListMessage (Header Item : Type) where
  | request
  | count (header : Header) (count : UInt16)
  | read (seq : UInt16)
  | item (item : Item)
  | ack (type : UInt8)
deriving DecidableEq, Repr

inductive ListMessage.Kind where
  | request | count | read | item | ack
deriving DecidableEq, Repr

def ListMessage.kind {Header Item : Type} : ListMessage Header Item → ListMessage.Kind
  | .request => .request
  | .count _ _ => .count
  | .read _ => .read
  | .item _ => .item
  | .ack _ => .ack

structure CommandLong where
  command : UInt16
  confirmation : UInt8
  param1 : FloatBits
  param2 : FloatBits
  param3 : FloatBits
  param4 : FloatBits
  param5 : FloatBits
  param6 : FloatBits
  param7 : FloatBits
deriving DecidableEq, Repr

structure CommandAck where
  command : UInt16 := 0
  result : UInt8 := 0
  progress : UInt8 := 0
  resultParam2 : Int32 := 0
deriving DecidableEq, Repr

inductive Payload where
  | waypointList (message : ListMessage PlanId WaypointItem)
  | waypointListSetCurrentItem (seq : UInt16)
  | checkList (message : ListMessage Unit ChecklistItem)
  | alarmList (message : ListMessage Unit AlarmItem)
  | hlActionList (message : ListMessage Unit HLActionItem)
  | commandLong (command : CommandLong)
  | commandAck (ack : CommandAck)
deriving DecidableEq, Repr

def Payload.msgId : Payload → Nat
  | .commandLong _ => 76
  | .commandAck _ => 77
  | .waypointList message =>
    match message.kind with
    | .count => 180
    | .read => 181
    | .item => 182
    | .ack => 183
    | .request => 184
  | .waypointListSetCurrentItem _ => 185
  | .checkList message =>
    match message.kind with
    | .request => 188
    | .count => 189
    | .read => 190
    | .item => 191
    | .ack => 193
  | .alarmList message =>
    match message.kind with
    | .request => 194
    | .count => 195
    | .read => 196
    | .item => 197
    | .ack => 198
  | .hlActionList message =>
    match message.kind with
    | .request => 199
    | .count => 200
    | .read => 201
    | .item => 202
    | .ack => 203

/-- `source` are the `sysid` and `compid` of the header, `target` the `target_system` and
`target_component` fields that each payload here has. -/
structure Message where
  source : MAVLinkAddress
  target : MAVLinkAddress
  payload : Payload
deriving DecidableEq, Repr

def Sender.pack (sender : Sender) (payload : Payload) : Message :=
  ⟨sender.ownAddress, sender.targetAddress, payload⟩

end PilotingMavsdk
