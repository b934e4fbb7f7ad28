import PilotingMavsdk.RoboticVehiclePlugins
import PilotingMavsdk.WorkItemClass

/-! The inspection transfer as a whole: a ground station, the vehicle with its plugin, and the
network between them. Each work item goes through its life as everywhere else; what is new is
where its messages come from. -/

namespace PilotingMavsdk
open Library

def LifeEvent.received : LifeEvent → Option Message
  | .call (.processMessage message) _ => some message
  | _ => none

def Effect.sent {Report : Type} : Effect Report → Option Message
  | .sendMessage message true => some message
  | _ => none

namespace WorkItemClass
variable {State Report : Type} (workItemClass : WorkItemClass State Report)

/-- The dispatch table calls the handlers of an item as long as it exists. -/
def deliver (message : Message) (environment : Environment) :
    Option (Life State) → Option (Option (Life State) × List (Effect Report))
  | none => some (none, [])
  | some life =>
    match workItemClass.machine.step life (.call (.processMessage message) environment) with
    | some (after, effects) => some (some after, effects)
    | none => none

/-- The other events in an item's life. `do_work` drops an item once it has started and is
done, and nobody else keeps it alive. -/
def advance (event : LifeEvent) :
    Option (Life State) → Option (Option (Life State) × List (Effect Report))
  | none => none
  | some life =>
    let base := workItemClass.base life.item
    if event.received = none ∧ (event = .destroy → base.started ∧ base.done) then
      match workItemClass.machine.step life event with
      | some (after, effects) => some (if event = .destroy then none else some after, effects)
      | none => none
    else none

end WorkItemClass

/-- The plugin refuses a transfer while its weak pointer to the last one can be locked, so there
is at most one upload and one download. Their order in the work queue is left open. `planId` is
what the callback of the download captured. -/
structure Vehicle where
  sender : Sender
  plugin : InspectionRoboticVehicleImpl
  upload : Option (Life (UploadWorkItem PlanId WaypointItem InspectionAck)) := none
  download : Option (Life RoboticVehicle.DownloadWorkItem) := none
  planId : PlanId := {}

namespace Vehicle

/-- A message concerns one handler at most, which is why one environment is enough. -/
inductive Event where
  | receive (message : Message) (environment : Environment)
  | upload (event : LifeEvent)
  | download (event : LifeEvent)
  | sendDownloadAck (type : UInt8) (sent : Bool)
deriving DecidableEq, Repr

inductive Output where
  | sendMessage (message : Message)
  | uploadCallback (result : InspectionBase.Result) (ack : InspectionAck)
  | downloadCallback (result : InspectionBase.Result) (list : InspectionBase.WaypointList)
  | setCurrentCallback (seq : UInt16)
deriving DecidableEq, Repr

def Output.sent : Output → Option Message
  | .sendMessage message => some message
  | _ => none

def uploadOutput (vehicle : Vehicle) :
    Effect (UploadWorkItem.Report InspectionAck) → Option Output
  | .sendMessage message true => some (.sendMessage message)
  | .callback (result, ack) =>
    if vehicle.plugin.uploadCallback then
      some (.uploadCallback (InspectionRoboticVehicleImpl.convertResult result) ack)
    else none
  | _ => none

def downloadOutput (vehicle : Vehicle) :
    Effect RoboticVehicle.DownloadWorkItem.Report → Option Output
  | .sendMessage message true => some (.sendMessage message)
  | .callback (result, list) =>
    if vehicle.plugin.downloadCallback then
      let report := InspectionRoboticVehicleImpl.downloadReport vehicle.planId result list
      some (.downloadCallback report.1 report.2)
    else none
  | _ => none

def pluginOutput : InspectionRoboticVehicleImpl.Effect → Option Output
  | .uploadCallback result ack => some (.uploadCallback result ack)
  | .downloadCallback result list => some (.downloadCallback result list)
  | .setCurrentCallback seq => some (.setCurrentCallback seq)
  | .uploadItems _ | .downloadItems _ _ => none

def accept (vehicle : Vehicle) : InspectionRoboticVehicleImpl.Effect → Vehicle
  | .uploadItems list =>
    let item := RoboticVehicle.UploadWorkItem.create inspection vehicle.sender list true
    { vehicle with upload := some { item := item } }
  | .downloadItems count planId =>
    let item := RoboticVehicle.DownloadWorkItem.create vehicle.sender count true
    { vehicle with download := some { item := item }, planId := planId }
  | _ => vehicle

def step (vehicle : Vehicle) : Event → Option (Vehicle × List Output)
  | .receive message environment =>
    let (plugin, requests) := vehicle.plugin.processMessage message
    match (RoboticVehicle.UploadWorkItem.workItemClass inspection).deliver message environment
        vehicle.upload,
      RoboticVehicle.DownloadWorkItem.workItemClass.deliver message environment
        vehicle.download with
    | some (upload, first), some (download, second) =>
      let handled := { vehicle with plugin := plugin, upload := upload, download := download }
      some (requests.foldl accept handled,
        first.filterMap vehicle.uploadOutput ++ second.filterMap vehicle.downloadOutput ++
          requests.filterMap pluginOutput)
    | _, _ => none
  | .upload event =>
    match (RoboticVehicle.UploadWorkItem.workItemClass inspection).advance event
        vehicle.upload with
    | some (upload, effects) =>
      let plugin := { vehicle.plugin with lastUpload := upload.isSome }
      some ({ vehicle with plugin := plugin, upload := upload },
        effects.filterMap vehicle.uploadOutput)
    | none => none
  | .download event =>
    match RoboticVehicle.DownloadWorkItem.workItemClass.advance event vehicle.download with
    | some (download, effects) =>
      let plugin := { vehicle.plugin with lastDownload := download.isSome }
      some ({ vehicle with plugin := plugin, download := download },
        effects.filterMap vehicle.downloadOutput)
    | none => none
  | .sendDownloadAck type sent =>
    let message := vehicle.sender.pack (inspection.payload (.ack type))
    some (vehicle, if sent then [.sendMessage message] else [])

end Vehicle

/-- The network keeps all messages ever sent. Each may arrive at any time, again and again or
never at all. -/
structure DownloadSystem where
  groundStation : Life (GroundStation.DownloadWorkItem PlanId WaypointItem)
  vehicle : Vehicle
  toVehicle : List Message := []
  toGroundStation : List Message := []

inductive DownloadAction where
  | groundStation (event : LifeEvent)
  | vehicle (event : Vehicle.Event)
deriving DecidableEq, Repr

def Vehicle.Event.received : Vehicle.Event → Option Message
  | .receive message _ => some message
  | _ => none

namespace DownloadSystem

def initial (groundStation vehicle : Sender) (plugin : InspectionRoboticVehicleImpl) :
    DownloadSystem where
  groundStation := { item := GroundStation.DownloadWorkItem.create inspection groundStation true }
  vehicle := { sender := vehicle, plugin := plugin }

def machine : Machine DownloadSystem DownloadAction
    (Effect (GroundStation.DownloadWorkItem.Report PlanId WaypointItem)) where
  step system
    | .groundStation event =>
      if ∀ message ∈ event.received, message ∈ system.toGroundStation then
        match (GroundStation.DownloadWorkItem.workItemClass inspection).machine.step
            system.groundStation event with
        | some (after, effects) =>
          some ({ system with
            groundStation := after
            toVehicle := system.toVehicle ++ effects.filterMap Effect.sent }, effects)
        | none => none
      else none
    | .vehicle event =>
      if ∀ message ∈ event.received, message ∈ system.toVehicle then
        match system.vehicle.step event with
        | some (after, outputs) =>
          some ({ system with
            vehicle := after
            toGroundStation := system.toGroundStation ++ outputs.filterMap Vehicle.Output.sent },
            [])
        | none => none
      else none

end DownloadSystem

/-- Both directions are queues, so every message arrives once and in order. `uploaded` are the
lists whose upload has begun. -/
structure UploadSystem where
  sender : Sender
  upload : Option (Life (UploadWorkItem PlanId WaypointItem InspectionAck)) := none
  vehicle : Vehicle
  toVehicle : List Message := []
  toGroundStation : List Message := []
  uploaded : List InspectionBase.WaypointList := []

inductive UploadAction where
  | uploadInspection (list : InspectionBase.WaypointList)
  | groundStation (event : LifeEvent)
  | vehicle (event : Vehicle.Event)
  | toGroundStation (environment : Environment)
  | toVehicle (environment : Environment)
deriving DecidableEq, Repr

/-- The user's list as `convert_to_int_items`, the same in both plugins, hands it on. -/
def toIntList (list : InspectionBase.WaypointList) : WaypointList :=
  ⟨list.header, InspectionRoboticVehicleImpl.convertToIntItems list.items⟩

namespace UploadSystem

/-- `upload_inspection_async` reports `Busy` and does nothing else while the last upload is
alive. -/
def machine : Machine UploadSystem UploadAction Vehicle.Output where
  step system
    | .uploadInspection list =>
      if system.upload.isSome then some (system, [])
      else
        let item := GroundStation.UploadWorkItem.create system.sender (toIntList list) true
        some ({ system with
          upload := some { item := item }
          uploaded := system.uploaded ++ [list] }, [])
    | .groundStation event =>
      match GroundStation.UploadWorkItem.workItemClass.advance event system.upload with
      | some (upload, effects) =>
        some ({ system with
          upload := upload
          toVehicle := system.toVehicle ++ effects.filterMap Effect.sent }, [])
      | none => none
    | .vehicle event =>
      if event.received = none then
        match system.vehicle.step event with
        | some (after, outputs) =>
          some ({ system with
            vehicle := after
            toGroundStation := system.toGroundStation ++ outputs.filterMap Vehicle.Output.sent },
            outputs)
        | none => none
      else none
    | .toGroundStation environment =>
      match system.toGroundStation with
      | [] => none
      | message :: rest =>
        match GroundStation.UploadWorkItem.workItemClass.deliver message environment
            system.upload with
        | some (upload, effects) =>
          some ({ system with
            upload := upload
            toVehicle := system.toVehicle ++ effects.filterMap Effect.sent
            toGroundStation := rest }, [])
        | none => none
    | .toVehicle environment =>
      match system.toVehicle with
      | [] => none
      | message :: rest =>
        match system.vehicle.step (.receive message environment) with
        | some (after, outputs) =>
          some ({ system with
            vehicle := after
            toVehicle := rest
            toGroundStation := system.toGroundStation ++ outputs.filterMap Vehicle.Output.sent },
            outputs)
        | none => none

end UploadSystem
end PilotingMavsdk
