import PilotingMavsdk.CommandTransfer
import PilotingMavsdk.ListProtocol

/-! The vehicle's plugins: the handlers that they register in `init()` and what these hand to the
transfers and to the user. The plugin mutexes make each handler one step. -/

namespace PilotingMavsdk

namespace InspectionBase

inductive Result where
  | unknown
  | success
  | connectionError
  | protocolError
  | busy
  | timeout
  | invalidArgument
  | transferCancelled
deriving DecidableEq, Repr

end InspectionBase

/-- `_inspection_data`. `lastUpload` and `lastDownload` say whether the weak pointers can still be
locked, `transfer` whether the system's inspection transfer is the vehicle's. -/
structure InspectionRoboticVehicleImpl where
  handlers : List Nat := []
  list : InspectionBase.WaypointList := ⟨{}, []⟩
  uploadCallback : Bool := false
  downloadCallback : Bool := false
  setCurrentCallback : Bool := false
  lastUpload : Bool := false
  lastDownload : Bool := false
  transfer : Bool
deriving DecidableEq, Repr

namespace InspectionRoboticVehicleImpl

inductive Effect where
  | uploadCallback (result : InspectionBase.Result) (ack : InspectionAck)
  | downloadCallback (result : InspectionBase.Result) (list : InspectionBase.WaypointList)
  | setCurrentCallback (seq : UInt16)
  | uploadItems (list : WaypointList)
  | downloadItems (count : UInt16) (planId : PlanId)
deriving DecidableEq, Repr

def init (plugin : InspectionRoboticVehicleImpl) : InspectionRoboticVehicleImpl :=
  { plugin with handlers :=
    plugin.handlers ++ [inspection.id .count, inspection.id .request, 185] }

/-- `static_cast<uint16_t>(int_items.size())` numbers the items. -/
def convertToIntItems (items : List InspectionBase.WaypointItem) : List WaypointItem :=
  items.mapIdx fun position item => { item with seq := UInt16.ofNat position }

def convertResult : Result → InspectionBase.Result
  | .success => .success
  | .connectionError => .connectionError
  | .timeout => .timeout
  | .cancelled => .transferCancelled
  | .invalidSequence | .currentInvalid => .invalidArgument
  | .protocolError => .protocolError

/-- The user gets a list with `Success` only, and without the sequence numbers. -/
def convertToResultAndWaypointList (result : Result) (list : WaypointList) :
    InspectionBase.Result × InspectionBase.WaypointList :=
  if convertResult result = .success then
    (convertResult result, ⟨list.header, list.items.map WaypointItem.toWaypointItem⟩)
  else (convertResult result, ⟨{}, []⟩)

/-- The lambda that `download_inspection` gives to the transfer: the plan identity is the one of
the COUNT, captured when the work item was created. -/
def downloadReport (planId : PlanId) (result : Result) (list : WaypointList) :
    InspectionBase.Result × InspectionBase.WaypointList :=
  convertToResultAndWaypointList result { list with header := planId }

def uploadInspection (plugin : InspectionRoboticVehicleImpl) :
    InspectionRoboticVehicleImpl × List Effect :=
  if plugin.uploadCallback = false then (plugin, [])
  else if plugin.lastUpload then (plugin, [.uploadCallback .busy .unknown])
  else if plugin.transfer = false then (plugin, [])
  else ({ plugin with lastUpload := true },
    [.uploadItems ⟨plugin.list.header, convertToIntItems plugin.list.items⟩])

def downloadInspection (planId : PlanId) (count : UInt16)
    (plugin : InspectionRoboticVehicleImpl) : InspectionRoboticVehicleImpl × List Effect :=
  if plugin.downloadCallback = false then (plugin, [])
  else if plugin.lastDownload then (plugin, [.downloadCallback .busy ⟨{}, []⟩])
  else if plugin.transfer = false then (plugin, [])
  else ({ plugin with lastDownload := true }, [.downloadItems count planId])

def processInspectionSetCurrent (seq : UInt16) (plugin : InspectionRoboticVehicleImpl) :
    InspectionRoboticVehicleImpl × List Effect :=
  (plugin, if plugin.setCurrentCallback then [.setCurrentCallback seq] else [])

def processMessage (message : Message) (plugin : InspectionRoboticVehicleImpl) :
    InspectionRoboticVehicleImpl × List Effect :=
  if message.payload.msgId ∈ plugin.handlers then
    match message.payload with
    | .waypointList (.count planId count) => plugin.downloadInspection planId count
    | .waypointList .request => plugin.uploadInspection
    | .waypointListSetCurrentItem seq => plugin.processInspectionSetCurrent seq
    | _ => (plugin, [])
  else (plugin, [])

end InspectionRoboticVehicleImpl

/-- The data of `ChecklistRoboticVehicleImpl`, `AlarmRoboticVehicleImpl` and
`HLActionRoboticVehicleImpl`, which differ in the list that they upload. -/
structure ListRoboticVehicleImpl (Item : Type) where
  handlers : List Nat := []
  items : List Item := []
  uploadCallback : Bool := false
  lastUpload : Bool := false
  transfer : Bool
deriving DecidableEq, Repr

namespace ListRoboticVehicleImpl
variable {Item : Type} (protocol : ListProtocol Unit Item ListAck)

inductive Effect (Item : Type) where
  | uploadCallbackBusy
  | uploadItems (items : List Item)
deriving DecidableEq, Repr

def init (plugin : ListRoboticVehicleImpl Item) : ListRoboticVehicleImpl Item :=
  { plugin with handlers := plugin.handlers ++ [protocol.id .request] }

def upload (plugin : ListRoboticVehicleImpl Item) :
    ListRoboticVehicleImpl Item × List (Effect Item) :=
  if plugin.uploadCallback = false then (plugin, [])
  else if plugin.lastUpload then (plugin, [.uploadCallbackBusy])
  else if plugin.transfer = false then (plugin, [])
  else ({ plugin with lastUpload := true }, [.uploadItems plugin.items])

def processMessage (message : Message) (plugin : ListRoboticVehicleImpl Item) :
    ListRoboticVehicleImpl Item × List (Effect Item) :=
  if message.payload.msgId ∈ plugin.handlers then
    match protocol.decode message.payload with
    | some .request => plugin.upload
    | _ => (plugin, [])
  else (plugin, [])

end ListRoboticVehicleImpl

structure CommandRoboticVehicleImpl where
  handlers : List Nat := []
  commandCallback : Bool := false
deriving DecidableEq, Repr

namespace CommandRoboticVehicleImpl

def init (plugin : CommandRoboticVehicleImpl) : CommandRoboticVehicleImpl :=
  { plugin with handlers := plugin.handlers ++ [76] }

def toCommandLong (command : CommandLong) : CommandBase.CommandLong where
  command := command.command
  confirmation := command.confirmation
  param1 := command.param1
  param2 := command.param2
  param3 := command.param3
  param4 := command.param4
  param5 := command.param5
  param6 := command.param6
  param7 := command.param7

def processMessage (message : Message) (plugin : CommandRoboticVehicleImpl) :
    CommandRoboticVehicleImpl × List CommandBase.CommandLong :=
  if message.payload.msgId ∈ plugin.handlers then
    match message.payload with
    | .commandLong command =>
      (plugin, if plugin.commandCallback then [toCommandLong command] else [])
    | _ => (plugin, [])
  else (plugin, [])

end CommandRoboticVehicleImpl

/-- The five vehicle plugins that handle messages of the transfers. -/
inductive Plugin where
  | inspection
  | checklist
  | alarm
  | hlAction
  | command
deriving DecidableEq, Repr

namespace Plugin

abbrev State : Plugin → Type
  | inspection => InspectionRoboticVehicleImpl
  | checklist => ListRoboticVehicleImpl ChecklistItem
  | alarm => ListRoboticVehicleImpl AlarmItem
  | hlAction => ListRoboticVehicleImpl HLActionItem
  | command => CommandRoboticVehicleImpl

abbrev Effect : Plugin → Type
  | inspection => InspectionRoboticVehicleImpl.Effect
  | checklist => ListRoboticVehicleImpl.Effect ChecklistItem
  | alarm => ListRoboticVehicleImpl.Effect AlarmItem
  | hlAction => ListRoboticVehicleImpl.Effect HLActionItem
  | command => CommandBase.CommandLong

def processMessage : (plugin : Plugin) → Message → plugin.State → plugin.State × List plugin.Effect
  | inspection => InspectionRoboticVehicleImpl.processMessage
  | checklist => ListRoboticVehicleImpl.processMessage PilotingMavsdk.checklist
  | alarm => ListRoboticVehicleImpl.processMessage PilotingMavsdk.alarm
  | hlAction => ListRoboticVehicleImpl.processMessage PilotingMavsdk.hlAction
  | command => CommandRoboticVehicleImpl.processMessage

end Plugin
end PilotingMavsdk
