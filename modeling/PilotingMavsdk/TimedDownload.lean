import PilotingMavsdk.GroundStationPlugins
import PilotingMavsdk.InspectionSystem
import PilotingMavsdk.Library.Instants
import PilotingMavsdk.TimeoutHandler

/-! An inspection download in which time counts. It passes in whole milliseconds; in each of them
either side handles the messages that arrive, calls `run_once` and calls `do_work`, in any order.
Every message takes the same time, but one of them is lost. -/

namespace PilotingMavsdk
open Library

/-- The receiving thread, `work_thread` and `system_thread`. -/
inductive Task where
  | messages
  | timers
  | work
deriving DecidableEq, Repr

/-- The order in which one side does everything once. -/
abbrev Order := { tasks : List Task // tasks.Perm [.messages, .timers, .work] }

/-- `timeout_s` in milliseconds, the same constant in all transfers. -/
def timeoutMilliseconds : Int := 500

def steadyTime (now : Nat) : Int := now * 1000000

/-- An item and the timers that refer to it. `nextCookie` is a key that `add` has not used. -/
structure TimedItem (State : Type) where
  item : State
  timeoutHandler : TimeoutHandler Unit := {}
  nextCookie : Cookie := 1

namespace TimedItem
variable {State Report : Type}

def onTimers (now : Nat) (handler : TimeoutHandler Unit) :
    Effect Report → TimeoutHandler Unit
  | .addTimeout cookie => handler.add () timeoutMilliseconds (steadyTime now) cookie
  | .refreshTimeout cookie => handler.refresh cookie (steadyTime now)
  | .removeTimeout cookie => handler.remove cookie
  | .sendMessage _ _ | .callback _ => handler

variable (workItemClass : WorkItemClass State Report)

def call (call : Call) (now : Nat) (timed : TimedItem State) :
    Reaction (TimedItem State) Message Report :=
  let outcome := workItemClass.handle call ⟨true, timed.nextCookie⟩ timed.item
  { state := {
      item := outcome.item
      timeoutHandler := outcome.effects.foldl (onTimers now) timed.timeoutHandler
      nextCookie := timed.nextCookie + 1 }
    sent := outcome.effects.filterMap Effect.sent
    told := outcome.effects.filterMap Effect.reported }

/-- `run_once` comes to a timer that has expired, unless it is gone by then. -/
def expire (now : Nat) (cookie : Cookie) (timed : TimedItem State) :
    Reaction (TimedItem State) Message Report :=
  if cookie ∈ timed.timeoutHandler.cookies then
    call workItemClass .processTimeout now
      { timed with timeoutHandler := timed.timeoutHandler.remove cookie }
  else { state := timed }

/-- A timer that is added or refreshed meanwhile has not expired. -/
def runOnce (now : Nat) (timed : TimedItem State) : Reaction (TimedItem State) Message Report :=
  let expired := timed.timeoutHandler.timeouts.filter (·.time < steadyTime now)
  Reaction.inOrder (expire workItemClass now) (expired.map Timeout.cookie) timed

/-- The item is at the front of the work queue. -/
def doWork (now : Nat) (timed : TimedItem State) :
    Reaction (Option (TimedItem State)) Message Report :=
  let worked := if (workItemClass.base timed.item).started then { state := timed }
    else call workItemClass .start now timed
  worked.map fun timed => if (workItemClass.base timed.item).done then none else some timed

/-- What the tasks do with an item, if there is one. -/
def perform (now : Nat) (arriving : List Message) (task : Task) :
    Option (TimedItem State) → Reaction (Option (TimedItem State)) Message Report
  | none => { state := none }
  | some timed =>
    match task with
    | .messages =>
      let receive := fun message => call workItemClass (.processMessage message) now
      (Reaction.inOrder receive arriving timed).map some
    | .timers => (runOnce workItemClass now timed).map some
    | .work => doWork workItemClass now timed

end TimedItem

structure TimedVehicle where
  sender : Sender
  plugin : InspectionRoboticVehicleImpl
  upload : Option (TimedItem (UploadWorkItem PlanId WaypointItem InspectionAck)) := none

namespace TimedVehicle

/-- The lambda that `upload_inspection` gives to the transfer. -/
def report (vehicle : TimedVehicle) (report : UploadWorkItem.Report InspectionAck) :
    Option Vehicle.Output :=
  if vehicle.plugin.uploadCallback then
    some (.uploadCallback (InspectionRoboticVehicleImpl.convertResult report.1) report.2)
  else none

/-- Nobody sends the vehicle a COUNT, so there are no downloads to accept. -/
def accept (vehicle : TimedVehicle) : InspectionRoboticVehicleImpl.Effect → TimedVehicle
  | .uploadItems list =>
    let item := RoboticVehicle.UploadWorkItem.create inspection vehicle.sender list true
    { vehicle with upload := some { item := item } }
  | .downloadItems _ _ | .uploadCallback _ _ | .downloadCallback _ _ | .setCurrentCallback _ =>
    vehicle

def perform (now : Nat) (arriving : List Message) (task : Task) (vehicle : TimedVehicle) :
    Reaction TimedVehicle Message Vehicle.Output :=
  let performed := TimedItem.perform (RoboticVehicle.UploadWorkItem.workItemClass inspection) now
    arriving task vehicle.upload
  { state := { vehicle with
      plugin := { vehicle.plugin with lastUpload := performed.state.isSome }
      upload := performed.state }
    sent := performed.sent
    told := performed.told.filterMap vehicle.report }

/-- The dispatch table has a handler of the upload, or of the plugin, for a message. -/
def receive (now : Nat) (message : Message) (vehicle : TimedVehicle) :
    Reaction TimedVehicle Message Vehicle.Output :=
  let performed := vehicle.perform now [message] .messages
  let requests := performed.state.plugin.processMessage message
  let handled := { performed.state with plugin := requests.1 }
  { state := requests.2.foldl accept handled
    sent := performed.sent
    told := performed.told ++ requests.2.filterMap Vehicle.pluginOutput }

def react (now : Nat) (arriving : List Message) (task : Task) (vehicle : TimedVehicle) :
    Reaction TimedVehicle Message Vehicle.Output :=
  match task with
  | .messages => Reaction.inOrder (receive now) arriving vehicle
  | .timers | .work => vehicle.perform now arriving task

def holding (sender : Sender) (plugin : InspectionRoboticVehicleImpl)
    (list : InspectionBase.WaypointList) : TimedVehicle where
  sender := sender
  plugin := InspectionRoboticVehicleImpl.init
    { plugin with list := list, uploadCallback := true, lastUpload := false, transfer := true }

end TimedVehicle

/-- The messages under way come with the millisecond in which they arrive. `loss` is the message
that is still to be lost. -/
structure TimedDownload where
  now : Nat := 0
  groundStation : Option (TimedItem (GroundStation.DownloadWorkItem PlanId WaypointItem))
  vehicle : TimedVehicle
  toGroundStation : List (Nat × Message) := []
  toVehicle : List (Nat × Message) := []
  loss : Option Message

structure Orders where
  groundStation : Order
  vehicle : Order
deriving DecidableEq, Repr

abbrev TimedDownload.Told :=
  InspectionImpl.downloadInspectionAsync.UserReport ⊕ Vehicle.Output

namespace TimedDownload

/-- The first copy of the message to be lost never arrives, all others do. -/
def transmit (arrival : Nat) : List Message → Option Message →
    List (Nat × Message) × Option Message
  | [], loss => ([], loss)
  | message :: messages, loss =>
    if loss = some message then transmit arrival messages none
    else
      let rest := transmit arrival messages loss
      ((arrival, message) :: rest.1, rest.2)

def arriving (now : Nat) (queue : List (Nat × Message)) : List Message :=
  (queue.filter (·.1 = now)).map Prod.snd

def instant (latency : Nat) (orders : Orders) (system : TimedDownload) :
    TimedDownload × List Told :=
  let ground := Reaction.inOrder
    (TimedItem.perform (GroundStation.DownloadWorkItem.workItemClass inspection) system.now
      (arriving system.now system.toGroundStation)) orders.groundStation.val system.groundStation
  let vehicle := Reaction.inOrder
    (TimedVehicle.react system.now (arriving system.now system.toVehicle)) orders.vehicle.val
    system.vehicle
  let upward := transmit (system.now + latency) ground.sent system.loss
  let downward := transmit (system.now + latency) vehicle.sent upward.2
  ({ now := system.now + 1
     groundStation := ground.state
     vehicle := vehicle.state
     toGroundStation := system.toGroundStation.filter (system.now < ·.1) ++ downward.1
     toVehicle := system.toVehicle.filter (system.now < ·.1) ++ upward.1
     loss := downward.2 },
    ground.told.map (.inl ∘ InspectionImpl.downloadInspectionAsync.convert) ++
      vehicle.told.map .inr)

/-- Each action is one millisecond. -/
def machine (latency : Nat) : Machine TimedDownload Orders Told where
  step system orders := some (system.instant latency orders)

/-- The messages that may be lost. -/
inductive Loss where
  | read (seq : UInt16)
  | item (found : WaypointItem)
deriving DecidableEq, Repr

def Loss.message (groundStation vehicle : Sender) : Loss → Message
  | .read seq => groundStation.pack (inspection.payload (.read seq))
  | .item found => vehicle.pack (inspection.payload (.item found))

/-- The ground station has just called `download_inspection_async`. -/
def initial (groundStation vehicle : Sender) (plugin : InspectionRoboticVehicleImpl)
    (list : InspectionBase.WaypointList) (loss : Loss) : TimedDownload where
  groundStation :=
    some { item := InspectionImpl.downloadInspectionAsync.create groundStation () }
  vehicle := .holding vehicle plugin list
  loss := some (loss.message groundStation vehicle)

end TimedDownload
end PilotingMavsdk
