import PilotingMavsdk.GroundStationPlugins
import PilotingMavsdk.InspectionSystem
import PilotingMavsdk.Library.Dialogue

/-! Transfers without faults: every message arrives once and in order, `send_message` never fails,
nobody cancels and no timer expires. What is left to chance is when `do_work` runs, when a message
arrives, and when the vehicle's user answers. -/

namespace PilotingMavsdk
open Library

inductive ItemAct where
  | start (cookie : Cookie)
  | destroy
deriving DecidableEq, Repr

def ItemAct.event : ItemAct → LifeEvent
  | .start cookie => .call .start ⟨true, cookie⟩
  | .destroy => .destroy

/-- An item, as long as it exists, and whom its callback tells of a report. -/
def WorkItemClass.party {State Report Told : Type} (workItemClass : WorkItemClass State Report)
    (tell : Report → Told) : Party (Option (Life State)) ItemAct Cookie Message Told where
  act act life :=
    match workItemClass.advance act.event life with
    | some (after, effects) =>
      some (after, effects.filterMap Effect.sent, (effects.filterMap Effect.reported).map tell)
    | none => none
  hear message cookie life :=
    match workItemClass.deliver message ⟨true, cookie⟩ life with
    | some (after, effects) =>
      some (after, effects.filterMap Effect.sent, (effects.filterMap Effect.reported).map tell)
    | none => none

/-- The item that a call on the ground station has made, with the lambda as its callback. -/
def PluginRequest.party (request : PluginRequest) (Remote : Type) :
    Party (Option (Life request.kind.State)) ItemAct Cookie Message
      (request.UserReport ⊕ Remote) :=
  request.kind.workItemClass.party fun report => .inl (request.convert report)

/-- The plugin and the one upload that it lets happen. -/
structure ListVehicle (Item : Type) where
  sender : Sender
  plugin : ListRoboticVehicleImpl Item
  upload : Option (Life (UploadWorkItem Unit Item ListAck)) := none

namespace ListVehicle
variable {Item : Type} (protocol : ListProtocol Unit Item ListAck)

abbrev UserReport := InspectionBase.Result × ListAck

/-- `convert_to_result_and_ack`; the `Ack` of the plugins has the values of the transfers'. -/
def convertToResultAndAck (report : UploadWorkItem.Report ListAck) : UserReport :=
  (InspectionRoboticVehicleImpl.convertResult report.1, report.2)

/-- The lambda that `upload_checklist` and its like give to the transfer. -/
def uploadReport (vehicle : ListVehicle Item) (report : UploadWorkItem.Report ListAck) :
    Option UserReport :=
  if vehicle.plugin.uploadCallback then some (convertToResultAndAck report) else none

def pluginReport : ListRoboticVehicleImpl.Effect Item → Option UserReport
  | .uploadCallbackBusy => some (.busy, .unknown)
  | .uploadItems _ => none

def accept (vehicle : ListVehicle Item) : ListRoboticVehicleImpl.Effect Item → ListVehicle Item
  | .uploadItems items =>
    let item := RoboticVehicle.UploadWorkItem.create protocol vehicle.sender ⟨(), items⟩ true
    { vehicle with upload := some { item := item } }
  | .uploadCallbackBusy => vehicle

def party (Remote : Type) :
    Party (ListVehicle Item) ItemAct Cookie Message (Remote ⊕ UserReport) where
  act act vehicle :=
    match (RoboticVehicle.UploadWorkItem.workItemClass protocol).advance act.event
        vehicle.upload with
    | some (upload, effects) =>
      let plugin := { vehicle.plugin with lastUpload := upload.isSome }
      some ({ vehicle with plugin := plugin, upload := upload }, effects.filterMap Effect.sent,
        ((effects.filterMap Effect.reported).filterMap vehicle.uploadReport).map .inr)
    | none => none
  hear message cookie vehicle :=
    let (plugin, requests) := vehicle.plugin.processMessage protocol message
    match (RoboticVehicle.UploadWorkItem.workItemClass protocol).deliver message ⟨true, cookie⟩
        vehicle.upload with
    | some (upload, effects) =>
      let handled := { vehicle with plugin := plugin, upload := upload }
      some (requests.foldl (accept protocol) handled, effects.filterMap Effect.sent,
        ((effects.filterMap Effect.reported).filterMap vehicle.uploadReport ++
          requests.filterMap pluginReport).map .inr)
    | none => none

def holding (sender : Sender) (plugin : ListRoboticVehicleImpl Item) (items : List Item) :
    ListVehicle Item where
  sender := sender
  plugin := ListRoboticVehicleImpl.init protocol
    { plugin with items := items, uploadCallback := true, lastUpload := false, transfer := true }

end ListVehicle

/-- The vehicle and its user, who answers each list that arrives by `send_download_ack(Accepted)`;
`unanswered` is the number of answers to come. -/
structure InspectionVehicle where
  vehicle : Vehicle
  unanswered : Nat := 0

inductive InspectionVehicle.Act where
  | upload (act : ItemAct)
  | download (act : ItemAct)
  | answer
deriving DecidableEq, Repr

namespace InspectionVehicle

def received : Vehicle.Output → Bool
  | .downloadCallback .success _ => true
  | _ => false

/-- What the user of the vehicle sees. -/
def told : Vehicle.Output → Option Vehicle.Output
  | .sendMessage _ => none
  | output => some output

def after (unanswered : Nat) : Vehicle × List Vehicle.Output →
    InspectionVehicle × List Message × List Vehicle.Output
  | (vehicle, outputs) =>
    (⟨vehicle, unanswered + outputs.countP received⟩, outputs.filterMap Vehicle.Output.sent,
      outputs.filterMap told)

def party (Remote : Type) :
    Party InspectionVehicle Act Cookie Message (Remote ⊕ Vehicle.Output) where
  act act system :=
    let stepped := match act with
      | .upload act => (system.vehicle.step (.upload act.event)).map (after system.unanswered)
      | .download act => (system.vehicle.step (.download act.event)).map (after system.unanswered)
      | .answer =>
        match system.unanswered with
        | 0 => none
        | unanswered + 1 =>
          (system.vehicle.step (.sendDownloadAck inspection.accepted true)).map (after unanswered)
    stepped.map fun (next, sent, outputs) => (next, sent, outputs.map .inr)
  hear message cookie system :=
    ((system.vehicle.step (.receive message ⟨true, cookie⟩)).map (after system.unanswered)).map
      fun (next, sent, outputs) => (next, sent, outputs.map .inr)

def holding (sender : Sender) (plugin : InspectionRoboticVehicleImpl)
    (list : InspectionBase.WaypointList) : InspectionVehicle where
  vehicle := {
    sender := sender
    plugin := InspectionRoboticVehicleImpl.init
      { plugin with list := list, uploadCallback := true, lastUpload := false, transfer := true } }

/-- The user has given the plugin a callback for the lists that arrive. -/
def expecting (sender : Sender) (plugin : InspectionRoboticVehicleImpl) : InspectionVehicle where
  vehicle := {
    sender := sender
    plugin := InspectionRoboticVehicleImpl.init
      { plugin with downloadCallback := true, lastDownload := false, transfer := true } }

end InspectionVehicle
end PilotingMavsdk
