import PilotingMavsdk.RoboticVehiclePlugins
import PilotingMavsdk.WorkItemClass

/-! The ground station's plugins and the queue of user callbacks: the six functions that start a
transfer, the work items that they queue, and the thread that runs what these report. Each access
to a weak pointer and to the work queue is a step of its own, and so is `call_user_callback`. -/

namespace PilotingMavsdk
open Library

inductive UsageType where
  | groundStation
  | roboticVehicle
deriving DecidableEq, Repr

/-- What distinguishes the six functions. `create` is the work item with the lambda as callback,
`convert` what the lambda makes of a report. With `guarded` the plugin's mutex is held from the
check of the weak pointer to its assignment. -/
structure PluginRequest where
  kind : Kind
  Arguments : Type
  UserReport : Type
  create : Sender → Arguments → kind.State
  convert : kind.Report → UserReport
  busy : UserReport
  terminal : UserReport → Bool
  guarded : Bool
  created : ∀ sender arguments, kind.workItemClass.Created (create sender arguments)
  callback_create : ∀ sender arguments,
    (kind.workItemClass.base (create sender arguments)).callback = true
  terminal_convert : ∀ report, terminal (convert report) = kind.terminal report
  terminal_busy : terminal busy = true

namespace InspectionImpl

def convertToIntItems (items : List InspectionBase.WaypointItem) : List WaypointItem :=
  InspectionRoboticVehicleImpl.convertToIntItems items

def convertResult (result : Result) : InspectionBase.Result :=
  InspectionRoboticVehicleImpl.convertResult result

def convertToResultAndAck (result : Result) (ack : InspectionAck) :
    InspectionBase.Result × InspectionAck :=
  (convertResult result, ack)

def convertToResultAndWaypointList (result : Result) (list : WaypointList) :
    InspectionBase.Result × InspectionBase.WaypointList :=
  InspectionRoboticVehicleImpl.convertToResultAndWaypointList result list

def uploadInspectionAsync : PluginRequest where
  kind := .inspectionUpload
  Arguments := InspectionBase.WaypointList
  UserReport := InspectionBase.Result × InspectionAck
  create sender list := GroundStation.UploadWorkItem.create sender
    ⟨list.header, convertToIntItems list.items⟩ true
  convert report := convertToResultAndAck report.1 report.2
  busy := (.busy, .unknown)
  terminal _ := true
  guarded := false
  created _ _ := ⟨_, _, _, rfl⟩
  callback_create _ _ := rfl
  terminal_convert _ := rfl
  terminal_busy := rfl

def downloadInspectionAsync : PluginRequest where
  kind := .inspectionDownload
  Arguments := Unit
  UserReport := InspectionBase.Result × InspectionBase.WaypointList
  create sender _ := GroundStation.DownloadWorkItem.create inspection sender true
  convert report := convertToResultAndWaypointList report.1 report.2
  busy := (.busy, ⟨{}, []⟩)
  terminal _ := true
  guarded := false
  created _ _ := ⟨_, _, rfl⟩
  callback_create _ _ := rfl
  terminal_convert _ := rfl
  terminal_busy := rfl

instance : DecidableEq downloadInspectionAsync.Arguments := inferInstanceAs (DecidableEq Unit)

end InspectionImpl

/-! The other three lists are only downloaded. Their `Result` has the values of the inspection's,
and their items reach the user as they are. -/

/-- `convert_to_result_and_checklist`, `convert_to_result_and_alarm` and
`convert_to_result_and_hl_action`. -/
def convertToResultAndList {Item : Type} (result : Result) (list : ItemList Unit Item) :
    InspectionBase.Result × List Item :=
  if InspectionImpl.convertResult result = .success then
    (InspectionImpl.convertResult result, list.items)
  else (InspectionImpl.convertResult result, [])

def ChecklistImpl.downloadChecklistAsync : PluginRequest where
  kind := .checklistDownload
  Arguments := Unit
  UserReport := InspectionBase.Result × List ChecklistItem
  create sender _ := GroundStation.DownloadWorkItem.create checklist sender true
  convert report := convertToResultAndList report.1 report.2
  busy := (.busy, [])
  terminal _ := true
  guarded := false
  created _ _ := ⟨_, _, rfl⟩
  callback_create _ _ := rfl
  terminal_convert _ := rfl
  terminal_busy := rfl

def AlarmImpl.downloadAlarmAsync : PluginRequest where
  kind := .alarmDownload
  Arguments := Unit
  UserReport := InspectionBase.Result × List AlarmItem
  create sender _ := GroundStation.DownloadWorkItem.create alarm sender true
  convert report := convertToResultAndList report.1 report.2
  busy := (.busy, [])
  terminal _ := true
  guarded := false
  created _ _ := ⟨_, _, rfl⟩
  callback_create _ _ := rfl
  terminal_convert _ := rfl
  terminal_busy := rfl

def HLActionImpl.downloadHLActionAsync : PluginRequest where
  kind := .hlActionDownload
  Arguments := Unit
  UserReport := InspectionBase.Result × List HLActionItem
  create sender _ := GroundStation.DownloadWorkItem.create hlAction sender true
  convert report := convertToResultAndList report.1 report.2
  busy := (.busy, [])
  terminal _ := true
  guarded := false
  created _ _ := ⟨_, _, rfl⟩
  callback_create _ _ := rfl
  terminal_convert _ := rfl
  terminal_busy := rfl

def CommandImpl.sendCommandAsync : PluginRequest where
  kind := .commandSend
  Arguments := CommandBase.CommandLong
  UserReport := SendWorkItem.Report
  create sender command := SendWorkItem.create sender command true
  convert report := report
  busy := (.busy, {})
  terminal := SendWorkItem.Report.terminal
  guarded := true
  created _ _ := ⟨_, _, _, rfl⟩
  callback_create _ _ := rfl
  terminal_convert _ := rfl
  terminal_busy := rfl

instance : DecidableEq CommandImpl.sendCommandAsync.Arguments :=
  inferInstanceAs (DecidableEq CommandBase.CommandLong)

/-- Where a call stands: the weak pointer could not be locked, the item of that number has been
queued, or it has returned. -/
inductive CallState where
  | checked
  | queued (item : Nat)
  | returned
deriving DecidableEq, Repr

/-- One plugin and everything that its calls of one function have led to. Each item comes with
the number of the call whose callback its lambda has captured; `last` is the item that the weak
pointer refers to. Among the user callbacks `none` is one of somebody else. -/
structure PluginSession (request : PluginRequest) where
  usageType : UsageType
  sender : Sender
  calls : List CallState := []
  items : List (Nat × Life request.kind.State) := []
  last : Option Nat := none
  userCallbacks : List (Option (Nat × request.UserReport)) := []

inductive SessionAction (Arguments : Type) where
  | check
  | pushBack (call : Nat) (arguments : Arguments)
  | assign (call : Nat)
  | item (item : Nat) (event : LifeEvent)
  | otherCallback
  | runCallback
deriving DecidableEq, Repr

inductive SessionOutput (UserReport : Type) where
  | enqueued (call : Nat) (report : UserReport)
  | dropped (call : Nat) (report : UserReport)
  | warned (call : Nat)
  | executed (call : Nat) (report : UserReport)
deriving DecidableEq, Repr

/-- Where `call_user_callback_located` gives up. -/
def userCallbackLimit : Nat := 100

namespace PluginSession
variable {request : PluginRequest}

/-- Nothing has been called, and that many callbacks of others are waiting. -/
def start (request : PluginRequest) (usageType : UsageType) (sender : Sender) (waiting : Nat) :
    PluginSession request where
  usageType := usageType
  sender := sender
  userCallbacks := List.replicate waiting none

/-- `last_upload.lock()` and its like: an item exists until its destructor has run. -/
def lastAlive (session : PluginSession request) : Bool :=
  match session.last with
  | none => false
  | some number =>
    match session.items[number]? with
    | some (_, life) => !life.destroyed
    | none => false

/-- `call_user_callback_located`: at its limit the queue takes nothing. -/
def callUserCallback (callback : Option (Nat × request.UserReport))
    (session : PluginSession request) : PluginSession request :=
  if session.userCallbacks.length = userCallbackLimit then session
  else { session with userCallbacks := session.userCallbacks ++ [callback] }

def handOver (call : Nat) : List request.UserReport → PluginSession request →
    PluginSession request × List (SessionOutput request.UserReport)
  | [], session => (session, [])
  | report :: reports, session =>
    let output := if session.userCallbacks.length = userCallbackLimit then
      SessionOutput.dropped call report else .enqueued call report
    let rest := handOver call reports (session.callUserCallback (some (call, report)))
    (rest.1, output :: rest.2)

/-- A call casts the transfer to the ground station's before it creates the item, and only warns
when it is the vehicle's. `do_work` drops an item once it has started and is done. -/
def machine (request : PluginRequest) :
    Machine (PluginSession request) (SessionAction request.Arguments)
      (SessionOutput request.UserReport) where
  step session
    | .check =>
      if request.guarded = true ∧ ∃ call ∈ session.calls, call ≠ CallState.returned then none
      else if session.lastAlive then
        some ({ session with calls := session.calls ++ [CallState.returned] }.handOver
          session.calls.length [request.busy])
      else some ({ session with calls := session.calls ++ [CallState.checked] }, [])
    | .pushBack call arguments =>
      match session.calls[call]? with
      | some .checked =>
        match session.usageType with
        | .groundStation =>
          let item := request.create session.sender arguments
          some ({ session with
            items := session.items ++ [(call, { item := item })]
            calls := session.calls.set call (.queued session.items.length) }, [])
        | .roboticVehicle =>
          some ({ session with calls := session.calls.set call .returned }, [.warned call])
      | _ => none
    | .assign call =>
      match session.calls[call]? with
      | some (.queued item) =>
        some ({ session with
          last := some item
          calls := session.calls.set call .returned }, [])
      | _ => none
    | .item number event =>
      match session.items[number]? with
      | some (call, life) =>
        let base := request.kind.workItemClass.base life.item
        if event = .destroy → base.started ∧ base.done then
          match request.kind.workItemClass.machine.step life event with
          | some (after, effects) =>
            some ({ session with items := session.items.set number (call, after) }.handOver call
              ((effects.filterMap Effect.reported).map request.convert))
          | none => none
        else none
      | none => none
    | .otherCallback => some (session.callUserCallback none, [])
    | .runCallback =>
      match session.userCallbacks with
      | [] => none
      | none :: rest => some ({ session with userCallbacks := rest }, [])
      | some (call, report) :: rest =>
        some ({ session with userCallbacks := rest }, [.executed call report])

end PluginSession
end PilotingMavsdk
