import PilotingMavsdk.CommandTransfer
import PilotingMavsdk.GroundStationDownload
import PilotingMavsdk.Library.Machine
import PilotingMavsdk.RoboticVehicleDownload
import PilotingMavsdk.UploadWorkItem

/-! The eleven kinds of work item behind the one interface that the queue, the dispatch table and
the timeout handler use, and the life of a single item: everything that can be called on it from
its construction to its destructor, together with the timers that refer to it. -/

namespace PilotingMavsdk
open Library

/-- The member functions that are called from outside, each under the item's mutex. -/
inductive Call where
  | start
  | cancel
  | processMessage (message : Message)
  | processTimeout
deriving DecidableEq, Repr

structure WorkItemClass (State Report : Type) where
  base : State → WorkItem
  /-- The item is as some call of the constructor leaves it. -/
  Created : State → Prop
  handle : Call → Environment → State → Outcome State Report

def GroundStation.UploadWorkItem.workItemClass :
    WorkItemClass (UploadWorkItem PlanId WaypointItem InspectionAck)
      (UploadWorkItem.Report InspectionAck) where
  base := UploadWorkItem.toWorkItem
  Created item := ∃ sender list callback, item = create sender list callback
  handle
    | .start, environment, item => start environment item
    | .cancel, environment, item => item.cancel inspection environment
    | .processMessage message, environment, item =>
      item.processMessage inspection environment message
    | .processTimeout, environment, item => processTimeout environment item

section
variable {Header Item Ack : Type} (protocol : ListProtocol Header Item Ack)

def GroundStation.DownloadWorkItem.workItemClass :
    WorkItemClass (DownloadWorkItem Header Item) (Report Header Item) where
  base := toWorkItem
  Created item := ∃ sender callback, item = create protocol sender callback
  handle
    | .start, environment, item => item.start protocol environment
    | .cancel, environment, item => item.cancel protocol environment
    | .processMessage message, environment, item => item.processMessage protocol environment message
    | .processTimeout, environment, item => item.processTimeout protocol environment

def RoboticVehicle.UploadWorkItem.workItemClass :
    WorkItemClass (UploadWorkItem Header Item Ack) (UploadWorkItem.Report Ack) where
  base := UploadWorkItem.toWorkItem
  Created item := ∃ sender list callback, item = create protocol sender list callback
  handle
    | .start, environment, item => start protocol environment item
    | .cancel, environment, item => item.cancel protocol environment
    | .processMessage message, environment, item => item.processMessage protocol environment message
    | .processTimeout, _, item => processTimeout item

end

def RoboticVehicle.DownloadWorkItem.workItemClass : WorkItemClass DownloadWorkItem Report where
  base := toWorkItem
  Created item := ∃ sender count callback, item = create sender count callback
  handle
    | .start, environment, item => item.start environment
    | .cancel, environment, item => item.cancel environment
    | .processMessage message, environment, item => item.processMessage environment message
    | .processTimeout, environment, item => item.processTimeout environment

def SendWorkItem.workItemClass : WorkItemClass SendWorkItem Report where
  base := toWorkItem
  Created item := ∃ sender command callback, item = create sender command callback
  handle
    | .start, environment, item => item.start environment
    | .cancel, _, item => item.cancel
    | .processMessage message, environment, item => item.processMessage environment message
    | .processTimeout, environment, item => item.processTimeout environment

/-- The classes derived from one of the five `WorkItem` base classes. -/
inductive Kind where
  | inspectionUpload
  | inspectionDownload
  | checklistDownload
  | alarmDownload
  | hlActionDownload
  | vehicleInspectionUpload
  | vehicleInspectionDownload
  | vehicleChecklistUpload
  | vehicleAlarmUpload
  | vehicleHLActionUpload
  | commandSend
deriving DecidableEq, Repr

namespace Kind

abbrev State : Kind → Type
  | inspectionUpload => UploadWorkItem PlanId WaypointItem InspectionAck
  | inspectionDownload => GroundStation.DownloadWorkItem PlanId WaypointItem
  | checklistDownload => GroundStation.DownloadWorkItem Unit ChecklistItem
  | alarmDownload => GroundStation.DownloadWorkItem Unit AlarmItem
  | hlActionDownload => GroundStation.DownloadWorkItem Unit HLActionItem
  | vehicleInspectionUpload => UploadWorkItem PlanId WaypointItem InspectionAck
  | vehicleInspectionDownload => RoboticVehicle.DownloadWorkItem
  | vehicleChecklistUpload => UploadWorkItem Unit ChecklistItem ListAck
  | vehicleAlarmUpload => UploadWorkItem Unit AlarmItem ListAck
  | vehicleHLActionUpload => UploadWorkItem Unit HLActionItem ListAck
  | commandSend => SendWorkItem

abbrev Report : Kind → Type
  | inspectionUpload => UploadWorkItem.Report InspectionAck
  | inspectionDownload => GroundStation.DownloadWorkItem.Report PlanId WaypointItem
  | checklistDownload => GroundStation.DownloadWorkItem.Report Unit ChecklistItem
  | alarmDownload => GroundStation.DownloadWorkItem.Report Unit AlarmItem
  | hlActionDownload => GroundStation.DownloadWorkItem.Report Unit HLActionItem
  | vehicleInspectionUpload => UploadWorkItem.Report InspectionAck
  | vehicleInspectionDownload => RoboticVehicle.DownloadWorkItem.Report
  | vehicleChecklistUpload => UploadWorkItem.Report ListAck
  | vehicleAlarmUpload => UploadWorkItem.Report ListAck
  | vehicleHLActionUpload => UploadWorkItem.Report ListAck
  | commandSend => SendWorkItem.Report

def workItemClass : (kind : Kind) → WorkItemClass kind.State kind.Report
  | inspectionUpload => GroundStation.UploadWorkItem.workItemClass
  | inspectionDownload => GroundStation.DownloadWorkItem.workItemClass inspection
  | checklistDownload => GroundStation.DownloadWorkItem.workItemClass checklist
  | alarmDownload => GroundStation.DownloadWorkItem.workItemClass alarm
  | hlActionDownload => GroundStation.DownloadWorkItem.workItemClass hlAction
  | vehicleInspectionUpload => RoboticVehicle.UploadWorkItem.workItemClass inspection
  | vehicleInspectionDownload => RoboticVehicle.DownloadWorkItem.workItemClass
  | vehicleChecklistUpload => RoboticVehicle.UploadWorkItem.workItemClass checklist
  | vehicleAlarmUpload => RoboticVehicle.UploadWorkItem.workItemClass alarm
  | vehicleHLActionUpload => RoboticVehicle.UploadWorkItem.workItemClass hlAction
  | commandSend => SendWorkItem.workItemClass

/-- Every report of a list transfer is a final one. -/
abbrev everyReport {Report : Type} : Report → Bool := fun _ => true

def terminal : (kind : Kind) → kind.Report → Bool
  | commandSend => SendWorkItem.Report.terminal
  | inspectionUpload | inspectionDownload | checklistDownload | alarmDownload | hlActionDownload
  | vehicleInspectionUpload | vehicleInspectionDownload | vehicleChecklistUpload
  | vehicleAlarmUpload | vehicleHLActionUpload => everyReport

end Kind

/-- An item and the timers whose callback refers to it: those in the table, and whether
`run_once` has taken one out whose callback has not run yet. `run_once` is on one thread only. -/
structure Life (State : Type) where
  item : State
  pending : List Cookie := []
  selected : Bool := false
  used : List Cookie := [0]
  destroyed : Bool := false

inductive LifeEvent where
  | call (call : Call) (environment : Environment)
  | select (cookie : Cookie)
  | destroy
deriving DecidableEq, Repr

def LifeEvent.expiring : LifeEvent → Bool
  | .select _ | .call .processTimeout _ => true
  | _ => false

namespace WorkItemClass
variable {State Report : Type} (workItemClass : WorkItemClass State Report)

/-- `do_work` starts an item once; `process_timeout` is the callback of a timer. -/
def callable (call : Call) (life : Life State) : Bool :=
  match call with
  | .start => !(workItemClass.base life.item).started
  | .processTimeout => life.selected
  | _ => true

/-- The call ran. `run_once` goes on once its callback has returned. -/
def afterCall (call : Call) (environment : Environment) (life : Life State) : Life State :=
  let outcome := workItemClass.handle call environment life.item
  { life with
    item := outcome.item
    pending := outcome.pendingAfter life.pending
    selected := if call = .processTimeout then false else life.selected
    used := environment.cookie :: life.used }

/-- An `add` gets a cookie that no earlier `add` got. The destructor unregisters the item and
removes the timer in its cookie. -/
def step (event : LifeEvent) (life : Life State) : Option (Life State × List (Effect Report)) :=
  match event with
  | .call call environment =>
    if workItemClass.callable call life ∧ environment.cookie ∉ life.used then
      some (workItemClass.afterCall call environment life,
        (workItemClass.handle call environment life.item).effects)
    else none
  | .select cookie =>
    if cookie ∈ life.pending ∧ life.selected = false then
      some ({ life with pending := life.pending.filter (· ≠ cookie), selected := true }, [])
    else none
  | .destroy =>
    let cookie := (workItemClass.base life.item).cookie
    some ({ life with pending := life.pending.filter (· ≠ cookie), destroyed := true },
      [.removeTimeout cookie])

/-- The life up to the destructor. -/
def machine : Machine (Life State) LifeEvent (Effect Report) where
  step life event := if life.destroyed then none else workItemClass.step event life

/-- `run_once` knows the item by its address only, so the destructor does not keep it from a
callback that it has selected, nor from the timers that this callback adds. They work on what the
item was. -/
def machineWithLateTimeouts : Machine (Life State) LifeEvent (Effect Report) where
  step life event :=
    if life.destroyed ∧ event.expiring = false then none else workItemClass.step event life

end WorkItemClass
end PilotingMavsdk
