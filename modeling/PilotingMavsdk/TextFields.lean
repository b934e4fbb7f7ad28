import PilotingMavsdk.Library.CStrings

/-! The messages that carry strings, byte by byte: how they are packed, what becomes of the payload
on its way, and what the handlers make of the decoded structures. A structure has the layout of its
payload. -/

namespace PilotingMavsdk
open Library

abbrev Bytes := List UInt8

/-- A `std::string` without zeros, and what lies in memory behind its terminating zero. -/
structure StdString where
  text : Bytes
  nulFree : 0 ∉ text
  behind : Nat → UInt8

/-- `mav_array_memcpy` from `c_str()`. -/
def StdString.copy (width : Nat) (string : StdString) : Bytes :=
  fixedWidth width string.text string.behind

def uint16Bytes (value : UInt16) : Bytes :=
  [UInt8.ofNat value.toNat, UInt8.ofNat (value.toNat / 256)]

/-- Also the representation of a `float`. -/
def uint32Bytes (value : UInt32) : Bytes :=
  [UInt8.ofNat value.toNat, UInt8.ofNat (value.toNat / 256), UInt8.ofNat (value.toNat / 65536),
    UInt8.ofNat (value.toNat / 16777216)]

def uint16At (place : Nat) (memory : Bytes) : UInt16 :=
  UInt16.ofNat ((memory.getD place 0).toNat + 256 * (memory.getD (place + 1) 0).toNat)

inductive TextStatusType where
  | info
  | warning
  | error
deriving DecidableEq, Repr

def TextStatusType.severity : TextStatusType → UInt8
  | .error => 0
  | .warning => 1
  | .info => 2

/-- The arguments of the pack functions, in their order. The alarm list's items have the layout of
the checklist's. -/
inductive TextMessage where
  | waypointListCount (targetSystem targetComponent : UInt8) (planUuid : StdString)
    (syncId : UInt32) (count : UInt16)
  | waypointListItem (targetSystem targetComponent : UInt8) (seq : UInt16)
    (taskUuid taskTypeUuid : StdString) (command : UInt16) (autocontinue : UInt8)
    (param1 param2 param3 param4 x y z : UInt32)
  | checkListItem (targetSystem targetComponent : UInt8) (index : UInt16)
    (name description : StdString)
  | alarmListItem (targetSystem targetComponent : UInt8) (index : UInt16)
    (name description : StdString)
  | hlActionListItem (targetSystem targetComponent : UInt8) (index command : UInt16)
    (name description : StdString)
  | textStatus (type : TextStatusType) (text : StdString)

/-- Longer fields come first. -/
def TextMessage.pack : TextMessage → Bytes
  | .waypointListCount targetSystem targetComponent planUuid syncId count =>
    uint32Bytes syncId ++ uint16Bytes count ++ [targetSystem, targetComponent] ++ planUuid.copy 37
  | .waypointListItem targetSystem targetComponent seq taskUuid taskTypeUuid command autocontinue
      param1 param2 param3 param4 x y z =>
    uint32Bytes param1 ++ uint32Bytes param2 ++ uint32Bytes param3 ++ uint32Bytes param4 ++
      uint32Bytes x ++ uint32Bytes y ++ uint32Bytes z ++ uint16Bytes seq ++ uint16Bytes command ++
      [targetSystem, targetComponent] ++ taskUuid.copy 37 ++ taskTypeUuid.copy 37 ++ [autocontinue]
  | .checkListItem targetSystem targetComponent index name description
  | .alarmListItem targetSystem targetComponent index name description =>
    uint16Bytes index ++ [targetSystem, targetComponent] ++ name.copy 20 ++ description.copy 231
  | .hlActionListItem targetSystem targetComponent index command name description =>
    uint16Bytes index ++ uint16Bytes command ++ [targetSystem, targetComponent] ++ name.copy 20 ++
      description.copy 229
  | .textStatus type text => [type.severity] ++ text.copy 254

/-- The loop of `_mav_trim_payload`. -/
def trimmedLength (payload : Bytes) : Nat → Nat
  | 0 => 0
  | 1 => 1
  | length + 2 =>
    if payload[length + 1]? = some 0 then trimmedLength payload (length + 1) else length + 2

def trimPayload (payload : Bytes) : Bytes :=
  payload.take (trimmedLength payload payload.length)

/-- The decode functions: the structure is zeroed, then the payload copied into it. -/
def decode (length : Nat) (payload : Bytes) : Bytes :=
  payload.take length ++ List.replicate (length - payload.length) 0

/-- The memory that a handler finds from the beginning of its structure on. -/
def TextMessage.received (message : TextMessage) (behind : Bytes) : Bytes :=
  decode message.pack.length (trimPayload message.pack) ++ behind

/-- A character array of a structure. -/
structure TextField where
  offset : Nat
  width : Nat

namespace TextField

def planUuid : TextField := ⟨8, 37⟩
def taskUuid : TextField := ⟨34, 37⟩
def taskTypeUuid : TextField := ⟨71, 37⟩
def listItemName : TextField := ⟨4, 20⟩
def listItemDescription : TextField := ⟨24, 231⟩
def hlActionName : TextField := ⟨6, 20⟩
def hlActionDescription : TextField := ⟨26, 229⟩
def text : TextField := ⟨1, 254⟩

/-- A `std::string` made from the array: it ends at the first zero, in the array or behind it. -/
def read (field : TextField) (memory : Bytes) : Option Bytes :=
  cString (memory.drop field.offset)

/-- The array is first copied into a longer one that ends with a zero. -/
def readWithNull (field : TextField) (memory : Bytes) : Option Bytes :=
  cString ((memory.drop field.offset).take field.width ++ [0])

end TextField

/-- The functions that receive strings. Both sides of the inspection have one for the counts and one
for the items. -/
inductive TextHandler where
  | processInspectionCount
  | downloadInspection
  | processInspectionItem
  | processChecklistItem
  | processAlarmItem
  | processHlActionItem
  | processTextStatus
deriving DecidableEq, Repr

/-- The strings that a handler stores. A ground station stores nothing of an empty plan, and nothing
is stored of a text of unknown severity. -/
def TextHandler.store (memory : Bytes) : TextHandler → Option (List (Option Bytes))
  | .processInspectionCount =>
    if uint16At 4 memory = 0 then none else some [TextField.planUuid.read memory]
  | .downloadInspection => some [TextField.planUuid.read memory]
  | .processInspectionItem =>
    some [TextField.taskUuid.read memory, TextField.taskTypeUuid.read memory]
  | .processChecklistItem | .processAlarmItem =>
    some [TextField.listItemName.read memory, TextField.listItemDescription.read memory]
  | .processHlActionItem =>
    some [TextField.hlActionName.read memory, TextField.hlActionDescription.read memory]
  | .processTextStatus =>
    if memory.head? = some 0 ∨ memory.head? = some 1 ∨ memory.head? = some 2 then
      some [TextField.text.readWithNull memory]
    else none

def TextMessage.handlers : TextMessage → List TextHandler
  | .waypointListCount .. => [.processInspectionCount, .downloadInspection]
  | .waypointListItem .. => [.processInspectionItem]
  | .checkListItem .. => [.processChecklistItem]
  | .alarmListItem .. => [.processAlarmItem]
  | .hlActionListItem .. => [.processHlActionItem]
  | .textStatus .. => [.processTextStatus]

end PilotingMavsdk
