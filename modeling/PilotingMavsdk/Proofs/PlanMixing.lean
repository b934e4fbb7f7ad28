import PilotingMavsdk.Library.Since
import PilotingMavsdk.Proofs.Legibility
import PilotingMavsdk.Proofs.ReceivedPrefix
import PilotingMavsdk.Proofs.TimerOwnership

/-! Uploads to the vehicle, one after the other. READ and ITEM say nothing about the plan, so a
download takes its items from whichever upload is there when it asks for them. -/

namespace PilotingMavsdk
open Library

namespace GroundStation.UploadWorkItem

theorem speaks_handle (call : Call) (environment : Environment)
    {item : UploadWorkItem PlanId WaypointItem InspectionAck}
    (numbered : Numbered inspection item.list) (fits : item.list.items.length ≠ 65536)
    (timed : call = .processTimeout → item.list.items.length < 65536) :
    (workItemClass.handle call environment item).Speaks (Carries inspection item.list) := by
  cases call with
  | start =>
    simp only [workItemClass, start]
    split
    next valid =>
      have bound := inspection.length_le ((inspection.sequenceValid_iff _).mp valid)
      refine (Outcome.speaks_after _ _).mpr ⟨by simp [Effect.sent], ?_⟩
      exact UploadWorkItem.speaks_sendCount environment (by simp only; omega)
    · exact UploadWorkItem.speaks_callbackAndReset _ _ _
  | cancel => exact UploadWorkItem.speaks_cancel environment item
  | processTimeout =>
    simp only [workItemClass, processTimeout]
    split
    · exact UploadWorkItem.speaks_callbackAndReset _ _ _
    · cases item.step with
      | sendCount =>
        refine (Outcome.speaks_after _ _).mpr ⟨by simp [Effect.sent], ?_⟩
        exact UploadWorkItem.speaks_sendCount environment (timed rfl)
      | sendItems => exact UploadWorkItem.speaks_callbackAndReset _ _ _
  | processMessage message =>
    exact UploadWorkItem.speaks_processMessage environment message numbered

/-- The timer of an upload is added when its numbering has been checked. -/
def Armed (life : Life (UploadWorkItem PlanId WaypointItem InspectionAck)) : Prop :=
  life.pending ≠ [] ∨ life.selected = true → life.item.list.items.length < 65536

section
variable {list : InspectionBase.WaypointList}
  {before after : Option (Life (UploadWorkItem PlanId WaypointItem InspectionAck))}
  {effects : List (Effect (UploadWorkItem.Report InspectionAck))}

end
end GroundStation.UploadWorkItem

namespace RoboticVehicle.DownloadWorkItem

/-- An ITEM that counts is the one after those that were received. -/
def NextInOrder (item : DownloadWorkItem) (call : Call) : Prop :=
  item.started = true → item.done = false →
    ∀ received ∈ inspection.arriving item.toWorkItem call,
      inspection.position received = item.list.items.length

theorem unsuccessful_cancel (environment : Environment) (item : DownloadWorkItem)
    (list : WaypointList) : .callback (.success, list) ∉ (item.cancel environment).effects := by
  cases sent : environment.sent <;> cases callback : item.callback <;>
    simp [cancel, sendCancelAndFinish, callbackAndReset, Outcome.sending, sent, callback]

section
variable {list : InspectionBase.WaypointList} {item : DownloadWorkItem} {outcome : After}

end

section
variable {list : InspectionBase.WaypointList} {life : Life DownloadWorkItem} {call : Call}

end
end RoboticVehicle.DownloadWorkItem

abbrev IsCount (message : Message) : Prop := message.payload.msgId = inspection.id .count

namespace Vehicle
open RoboticVehicle

abbrev Active (vehicle : Vehicle) : Prop := ∃ life ∈ vehicle.download, life.item.done = false

variable {list : InspectionBase.WaypointList} {vehicle after : Vehicle} {message : Message}

section
variable {call : Call} {life : Life DownloadWorkItem}

end

section
variable {download : Option (Life DownloadWorkItem)}
  {effects : List (Effect DownloadWorkItem.Report)}

end

end Vehicle

namespace UploadSystem
open GroundStation

/-- The list whose upload began last. -/
def current (system : UploadSystem) : InspectionBase.WaypointList :=
  system.uploaded.getLast?.getD ⟨{}, []⟩

/-- An upload begins when the vehicle is done with the last one and hears of no other; it is not of
65536 items, a number that COUNT cannot express, and its texts have room in their fields. An ITEM
that a download takes while it is on its way is the next one. -/
def Apart (system : UploadSystem) : UploadAction → Prop
  | .uploadInspection list => system.upload = none →
    list.items.length ≠ 65536 ∧ list.HasRoom ∧ ¬system.vehicle.Active ∧
      ∀ message ∈ system.toVehicle, ¬IsCount message
  | .toVehicle _ => ∀ message ∈ system.toVehicle.head?, ∀ life ∈ system.vehicle.download,
    life.item.NextInOrder (.processMessage message)
  | _ => True

instance (system : UploadSystem) (action : UploadAction) : Decidable (system.Apart action) :=
  match action with
  | .uploadInspection _ => inferInstanceAs (Decidable (_ → _ ∧ _ ∧ _ ∧ _))
  | .toVehicle _ => inferInstanceAs (Decidable (∀ _ ∈ _, ∀ _ ∈ _, _ → _ → ∀ _ ∈ _, _ = _))
  | .groundStation _ | .vehicle _ | .toGroundStation _ => isTrue trivial

inductive Stepped (system : UploadSystem) :
    UploadAction → UploadSystem → List Vehicle.Output → Prop where
  | busy {list : InspectionBase.WaypointList} (alive : system.upload ≠ none) :
      Stepped system (.uploadInspection list) system []
  | begin {list : InspectionBase.WaypointList} (free : system.upload = none) :
      Stepped system (.uploadInspection list)
        { system with
          upload := some { item := UploadWorkItem.create system.sender (toIntList list) true }
          uploaded := system.uploaded ++ [list] } []
  | groundStation {event : LifeEvent}
      {upload : Option (Life (UploadWorkItem PlanId WaypointItem InspectionAck))}
      {effects : List (Effect (UploadWorkItem.Report InspectionAck))}
      (advanced : UploadWorkItem.workItemClass.Advanced event system.upload upload effects) :
      Stepped system (.groundStation event)
        { system with
          upload := upload
          toVehicle := system.toVehicle ++ effects.filterMap Effect.sent } []
  | vehicle {event : Vehicle.Event} {after : Vehicle} {outputs : List Vehicle.Output}
      (own : event.received = none) (legal : system.vehicle.step event = some (after, outputs)) :
      Stepped system (.vehicle event)
        { system with
          vehicle := after
          toGroundStation := system.toGroundStation ++ outputs.filterMap Vehicle.Output.sent }
        outputs
  | toGroundStation {message : Message} {rest : List Message} {environment : Environment}
      {upload : Option (Life (UploadWorkItem PlanId WaypointItem InspectionAck))}
      {effects : List (Effect (UploadWorkItem.Report InspectionAck))}
      (queue : system.toGroundStation = message :: rest)
      (delivered : UploadWorkItem.workItemClass.Delivered message environment system.upload upload
        effects) :
      Stepped system (.toGroundStation environment)
        { system with
          upload := upload
          toVehicle := system.toVehicle ++ effects.filterMap Effect.sent
          toGroundStation := rest } []
  | toVehicle {message : Message} {rest : List Message} {environment : Environment}
      {after : Vehicle} {outputs : List Vehicle.Output}
      (queue : system.toVehicle = message :: rest)
      (legal : system.vehicle.step (.receive message environment) = some (after, outputs)) :
      Stepped system (.toVehicle environment)
        { system with
          vehicle := after
          toVehicle := rest
          toGroundStation := system.toGroundStation ++ outputs.filterMap Vehicle.Output.sent }
        outputs

theorem stepped {system after : UploadSystem} {action : UploadAction}
    {outputs : List Vehicle.Output} (legal : machine.Legal ⟨system, action, after, outputs⟩) :
    system.Stepped action after outputs := by
  simp only [Machine.Legal, machine] at legal
  cases action with
  | uploadInspection list =>
    simp only at legal
    split at legal
    next alive =>
      cases legal
      exact .busy (Option.isSome_iff_ne_none.mp alive)
    next free =>
      cases legal
      exact .begin (by simpa using free)
  | groundStation event =>
    simp only at legal
    split at legal
    next advanced => cases legal; exact .groundStation (WorkItemClass.advanced advanced)
    · cases legal
  | vehicle event =>
    simp only at legal
    split at legal
    next own =>
      split at legal
      next stepped => cases legal; exact .vehicle own stepped
      · cases legal
    · cases legal
  | toGroundStation environment =>
    simp only at legal
    split at legal
    · cases legal
    next message rest queue =>
      split at legal
      next delivered =>
        cases legal
        exact .toGroundStation queue (WorkItemClass.delivered delivered)
      · cases legal
  | toVehicle environment =>
    simp only at legal
    split at legal
    · cases legal
    next message rest queue =>
      split at legal
      next stepped => cases legal; exact .toVehicle queue stepped
      · cases legal

variable {system after : UploadSystem} {action : UploadAction} {outputs : List Vehicle.Output}

abbrev Step := Taken UploadSystem UploadAction Vehicle.Output

/-- Any upload is of a list whose texts have room, so that no message to the vehicle is decoded to
anything but itself. -/
structure Legible (system : UploadSystem) : Prop where
  upload : ∀ life ∈ system.upload, ∃ list : InspectionBase.WaypointList, list.HasRoom ∧
    life.item.For life.item.sender (toIntList list)
  toVehicle : ∀ message ∈ system.toVehicle, message.Legible

end UploadSystem
end PilotingMavsdk
