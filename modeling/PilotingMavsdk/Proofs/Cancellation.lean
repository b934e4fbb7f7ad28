import PilotingMavsdk.Proofs.Messages
import PilotingMavsdk.Proofs.Progress

/-! What a cancelled inspection transfer tells the other side. Both work items of a transfer send
the same acknowledgement when they are cancelled, but only the uploading one has a handler for
acknowledgements. -/

namespace PilotingMavsdk
open Library

inductive Direction where
  | upload
  | download
deriving DecidableEq, Repr

inductive Side where
  | groundStation
  | vehicle
deriving DecidableEq, Repr

def Side.other : Side → Side
  | .groundStation => .vehicle
  | .vehicle => .groundStation

abbrev Direction.kind : Direction → Side → Kind
  | .upload, .groundStation => .inspectionUpload
  | .upload, .vehicle => .vehicleInspectionDownload
  | .download, .groundStation => .inspectionDownload
  | .download, .vehicle => .vehicleInspectionUpload

def Direction.downloader : Direction → Side
  | .upload => .vehicle
  | .download => .groundStation

/-- The payload of the acknowledgement that all four work items send. -/
def Cancelled (message : Message) : Prop :=
  message.payload = inspection.payload (.ack inspection.cancelled)

private theorem UploadWorkItem.speaks_cancelled (environment : Environment)
    (item : UploadWorkItem PlanId WaypointItem InspectionAck) :
    (item.cancel inspection environment).Speaks Cancelled := by
  simp [cancel, sendCancelAndFinish, Effect.sent, Cancelled, Sender.pack]

private theorem GroundStation.DownloadWorkItem.speaks_cancelled (environment : Environment)
    (item : DownloadWorkItem PlanId WaypointItem) :
    (item.cancel inspection environment).Speaks Cancelled := by
  cases callback : item.callback <;>
    simp [cancel, sendCancelAndFinish, callbackAndReset, callback, Effect.sent, Cancelled,
      Sender.pack]

private theorem RoboticVehicle.DownloadWorkItem.speaks_cancelled (environment : Environment)
    (item : DownloadWorkItem) : (item.cancel environment).Speaks Cancelled := by
  cases callback : item.callback <;>
    simp [cancel, sendCancelAndFinish, callbackAndReset, callback, Effect.sent, Cancelled,
      Sender.pack]

private theorem Direction.speaks_cancelled (direction : Direction) (side : Side)
    (environment : Environment) (item : (direction.kind side).State) :
    ((direction.kind side).workItemClass.handle .cancel environment item).Speaks Cancelled := by
  cases direction <;> cases side
  case upload.groundStation => exact UploadWorkItem.speaks_cancelled environment item
  case upload.vehicle => exact RoboticVehicle.DownloadWorkItem.speaks_cancelled environment item
  case download.groundStation =>
    exact GroundStation.DownloadWorkItem.speaks_cancelled environment item
  case download.vehicle => exact UploadWorkItem.speaks_cancelled environment item

private theorem dispatched_cancelled {item : WorkItem} {message : Message}
    (cancelled : Cancelled message) :
    inspection.dispatched item message =
      if inspection.id .ack ∈ item.handlers then some (.ack inspection.cancelled) else none := by
  rw [ListProtocol.dispatched, cancelled, inspection.decode_payload, inspection.id_payload]
  rfl

namespace UploadWorkItem
variable {Header Item Ack : Type} {protocol : ListProtocol Header Item Ack}

private theorem handlers_sendCount (environment : Environment)
    (item : UploadWorkItem Header Item Ack) :
    (item.sendCount protocol environment).item.handlers = item.handlers := by
  rw [sendCount_item]
  split <;> rfl

private theorem handlers_processMessage (environment : Environment) (message : Message)
    (item : UploadWorkItem Header Item Ack) :
    (item.processMessage protocol environment message).item.handlers = item.handlers := by
  simp only [processMessage]
  split
  · simp only [processRead]
    split
    · rfl
    split
    · rfl
    · simp only [sendItem]
      split
      · rfl
      · rw [Outcome.after_item, Outcome.sending_item]
        split <;> rfl
  · rfl
  · rfl

/-- An acknowledgement reaches the item once it has been started. -/
def Acknowledgeable (item : UploadWorkItem PlanId WaypointItem InspectionAck) : Prop :=
  item.started = true → inspection.id .ack ∈ item.handlers

private theorem done_of_cancelled {item : UploadWorkItem PlanId WaypointItem InspectionAck}
    (acknowledgeable : item.Acknowledgeable) (started : item.started = true)
    (environment : Environment) {message : Message}
    (cancelled : Cancelled message) :
    (item.processMessage inspection environment message).item.done = true := by
  rw [processMessage, dispatched_cancelled cancelled, if_pos (acknowledgeable started)]
  rfl

end UploadWorkItem

private theorem GroundStation.UploadWorkItem.handlers_handle (call : Call)
    (environment : Environment) (item : UploadWorkItem PlanId WaypointItem InspectionAck) :
    (workItemClass.handle call environment item).item.handlers = item.handlers := by
  cases call with
  | start =>
    simp only [workItemClass, start]
    split
    · rw [Outcome.after_item, UploadWorkItem.handlers_sendCount]
    · rfl
  | cancel =>
    simp only [workItemClass]
    rw [UploadWorkItem.cancel_item]
  | processTimeout =>
    simp only [workItemClass, processTimeout]
    split
    · rfl
    · cases item.step with
      | sendCount => rw [Outcome.after_item, UploadWorkItem.handlers_sendCount]
      | sendItems => rfl
  | processMessage message =>
    exact UploadWorkItem.handlers_processMessage environment message item

private theorem RoboticVehicle.UploadWorkItem.acknowledgeable_handle (call : Call)
    (environment : Environment) {item : UploadWorkItem PlanId WaypointItem InspectionAck}
    (acknowledgeable : item.Acknowledgeable) :
    ((workItemClass inspection).handle call environment item).item.Acknowledgeable := by
  intro started
  have earlier (running : call ≠ .start) : item.started = true :=
    ((reporting_handle inspection call environment item).proceeds.started.mp
      started).resolve_left running
  cases call with
  | start =>
    simp only [workItemClass, start, Outcome.after_item]
    split
    · rw [UploadWorkItem.handlers_sendCount]
      simp
    split
    · rw [UploadWorkItem.handlers_sendCount]
      simp
    · simp
  | cancel =>
    simp only [workItemClass]
    rw [UploadWorkItem.cancel_item]
    exact acknowledgeable (earlier (by decide))
  | processTimeout => exact acknowledgeable (earlier (by decide))
  | processMessage message =>
    simp only [workItemClass]
    rw [UploadWorkItem.handlers_processMessage]
    apply acknowledgeable
    apply earlier
    intro same
    cases same

private theorem GroundStation.DownloadWorkItem.ignores_cancelled (environment : Environment)
    (item : DownloadWorkItem PlanId WaypointItem) {message : Message}
    (cancelled : Cancelled message) :
    (item.processMessage inspection environment message).item = item := by
  rw [processMessage, dispatched_cancelled cancelled]
  by_cases registered : inspection.id .ack ∈ item.handlers
  · rw [if_pos registered]
  · rw [if_neg registered]

private theorem RoboticVehicle.DownloadWorkItem.ignores_cancelled (environment : Environment)
    (item : DownloadWorkItem) {message : Message} (cancelled : Cancelled message) :
    (item.processMessage environment message).item = item := by
  rw [processMessage, dispatched_cancelled cancelled]
  by_cases registered : inspection.id .ack ∈ item.handlers
  · rw [if_pos registered]
  · rw [if_neg registered]

namespace Direction

/-- In every life of the uploading item. The downloading one never takes acknowledgements. -/
def Acknowledgeable (direction : Direction) (side : Side)
    (life : Life (direction.kind side).State) : Prop :=
  match direction, side, life with
  | .upload, .groundStation, life => inspection.id .ack ∈ life.item.handlers
  | .download, .vehicle, life => UploadWorkItem.Acknowledgeable life.item
  | .upload, .vehicle, _ | .download, .groundStation, _ => True

private theorem acknowledgeable_created {direction : Direction} {side : Side}
    {item : (direction.kind side).State}
    (created : (direction.kind side).workItemClass.Created item) :
    direction.Acknowledgeable side { item := item } := by
  cases direction <;> cases side
  case upload.groundStation =>
    obtain ⟨_, _, _, rfl⟩ := created
    simp [Acknowledgeable, GroundStation.UploadWorkItem.create]
  case download.vehicle =>
    obtain ⟨_, _, _, rfl⟩ := created
    nofun
  case upload.vehicle => trivial
  case download.groundStation => trivial

private theorem acknowledgeable_step {direction : Direction} {side : Side}
    {taken : (direction.kind side).Step}
    (legal : (direction.kind side).workItemClass.machine.Legal taken)
    (acknowledgeable : direction.Acknowledgeable side taken.before) :
    direction.Acknowledgeable side taken.after := by
  obtain ⟨before, event, after, effects⟩ := taken
  obtain ⟨_, lived⟩ := WorkItemClass.lived legal
  cases direction <;> cases side
  case upload.groundStation =>
    cases lived with
    | @call call environment =>
      have kept := GroundStation.UploadWorkItem.handlers_handle call environment before.item
      simp only [Acknowledgeable] at acknowledgeable ⊢
      rw [← kept] at acknowledgeable
      exact acknowledgeable
    | select => exact acknowledgeable
    | destroy => exact acknowledgeable
  case download.vehicle =>
    cases lived with
    | @call call environment =>
      exact RoboticVehicle.UploadWorkItem.acknowledgeable_handle call environment acknowledgeable
    | select => exact acknowledgeable
    | destroy => exact acknowledgeable
  case upload.vehicle => trivial
  case download.groundStation => trivial

/-- What the work item of the cancelling side sent ends the one of the other side exactly if it
is the downloading side that cancels. -/
private theorem done_iff_of_cancelled (direction : Direction) (canceller : Side)
    {peer : Life (direction.kind canceller.other).State}
    (acknowledgeable : direction.Acknowledgeable canceller.other peer)
    (active : (direction.kind canceller.other).Active peer) (environment : Environment)
    {message : Message} (cancelled : Cancelled message) :
    ((direction.kind canceller.other).workItemClass.base
      ((direction.kind canceller.other).workItemClass.handle (.processMessage message) environment
        peer.item).item).done = true ↔ canceller = direction.downloader := by
  cases direction <;> cases canceller
  case upload.groundStation =>
    have ignored := RoboticVehicle.DownloadWorkItem.ignores_cancelled environment peer.item
      cancelled
    refine iff_of_false ?_ nofun
    intro done
    have running : peer.item.done = false := active.running
    rw [← ignored] at running
    exact Bool.false_ne_true (running.symm.trans done)
  case upload.vehicle =>
    refine iff_of_true ?_ rfl
    exact UploadWorkItem.done_of_cancelled (fun _ => acknowledgeable) active.started environment
      cancelled
  case download.groundStation =>
    refine iff_of_true ?_ rfl
    exact UploadWorkItem.done_of_cancelled acknowledgeable active.started environment cancelled
  case download.vehicle =>
    have ignored := GroundStation.DownloadWorkItem.ignores_cancelled environment peer.item
      cancelled
    refine iff_of_false ?_ nofun
    intro done
    have running : peer.item.done = false := active.running
    rw [← ignored] at running
    exact Bool.false_ne_true (running.symm.trans done)

/-- The work item of this side is active after some life so far. -/
def InProgress (direction : Direction) (side : Side) (life : Life (direction.kind side).State) :
    Prop :=
  ∃ item log, (direction.kind side).workItemClass.Created item ∧
    (direction.kind side).workItemClass.machine.Run { item := item } log life ∧
    (direction.kind side).Active life

/-- The step in which the user cancels on this side and the acknowledgement goes out. -/
structure Cancels (direction : Direction) (side : Side) (before : Life (direction.kind side).State)
    (message : Message) : Prop where
  taken : ∃ environment after effects, (direction.kind side).workItemClass.machine.Legal
    ⟨before, .call .cancel environment, after, effects⟩ ∧
      message ∈ effects.filterMap Effect.sent

theorem Cancels.cancelled {direction : Direction} {side : Side}
    {before : Life (direction.kind side).State} {message : Message}
    (cancels : direction.Cancels side before message) : Cancelled message := by
  obtain ⟨environment, after, effects, legal, sent⟩ := cancels.taken
  obtain ⟨_, cancelling⟩ := WorkItemClass.lived legal
  cases cancelling with
  | call =>
    exact (direction.speaks_cancelled side environment before.item).filterMap message sent

/-- Both work items are in progress, one is cancelled, and its acknowledgement is delivered to the
other: that one is done exactly if the user has cancelled on the downloading side. -/
theorem cancel_ends_peer_iff (direction : Direction) (canceller : Side)
    {own : Life (direction.kind canceller).State}
    {peer told : Life (direction.kind canceller.other).State} {message : Message}
    {environment : Environment} {effects : List (Effect (direction.kind canceller.other).Report)}
    (cancels : direction.Cancels canceller own message)
    (inProgress : direction.InProgress canceller.other peer)
    (delivered : (direction.kind canceller.other).workItemClass.machine.Legal
      ⟨peer, .call (.processMessage message) environment, told, effects⟩) :
    ((direction.kind canceller.other).workItemClass.base told.item).done = true ↔
      canceller = direction.downloader := by
  obtain ⟨item, log, created, run, active⟩ := inProgress
  have acknowledgeable := (run.invariant (fun _ => acknowledgeable_step)
    (acknowledgeable_created created)).1
  obtain ⟨_, receiving⟩ := WorkItemClass.lived delivered
  cases receiving with
  | call =>
    exact done_iff_of_cancelled direction canceller acknowledgeable active environment
      cancels.cancelled

/-- The vehicle's user cancels the upload of one item before the ground station has heard of it:
the download of the ground station goes on. -/
theorem cancel_not_heard : ¬∀ (direction : Direction) (canceller : Side)
    (own : Life (direction.kind canceller).State)
    (peer told : Life (direction.kind canceller.other).State) (message : Message)
    (environment : Environment) (effects : List (Effect (direction.kind canceller.other).Report)),
    direction.InProgress canceller own → direction.Cancels canceller own message →
    direction.InProgress canceller.other peer →
    (direction.kind canceller.other).workItemClass.machine.Legal
      ⟨peer, .call (.processMessage message) environment, told, effects⟩ →
    ((direction.kind canceller.other).workItemClass.base told.item).done = true := by
  intro heard
  let vehicle : Sender := ⟨⟨1, 1⟩, ⟨245, 190⟩⟩
  let groundStation : Sender := ⟨⟨245, 190⟩, ⟨1, 1⟩⟩
  let own : (download.kind .vehicle).State :=
    RoboticVehicle.UploadWorkItem.create inspection vehicle ⟨{}, [{ seq := 0 }]⟩ true
  let other : (download.kind .groundStation).State :=
    GroundStation.DownloadWorkItem.create inspection groundStation true
  let message := vehicle.pack (inspection.payload (.ack inspection.cancelled))
  have ownRun := (download.kind .vehicle).workItemClass.machine.run_last { item := own }
    [.call .start ⟨true, 1⟩] (by decide)
  have otherRun := (download.kind .groundStation).workItemClass.machine.run_last
    { item := other } [.call .start ⟨true, 1⟩] (by decide)
  have done := heard .download .vehicle _ _ _ message ⟨true, 2⟩ _
    ⟨_, _, ⟨_, _, _, rfl⟩, ownRun, by decide, by decide, by decide⟩
    ⟨⟨true, 2⟩, _, _, WorkItemClass.legal_call rfl rfl (by decide), by decide⟩
    ⟨_, _, ⟨_, _, rfl⟩, otherRun, by decide, by decide, by decide⟩
    (WorkItemClass.legal_call rfl rfl (by decide))
  revert done
  decide

/-- The ground station's user cancels the same download instead. -/
theorem cancel_ends_peer_iff_download :
    let vehicle : Sender := ⟨⟨1, 1⟩, ⟨245, 190⟩⟩
    let groundStation : Sender := ⟨⟨245, 190⟩, ⟨1, 1⟩⟩
    let own : (download.kind .groundStation).State :=
      GroundStation.DownloadWorkItem.create inspection groundStation true
    let other : (download.kind .vehicle).State :=
      RoboticVehicle.UploadWorkItem.create inspection vehicle ⟨{}, [{ seq := 0 }]⟩ true
    let message := groundStation.pack (inspection.payload (.ack inspection.cancelled))
    let told := (download.kind .vehicle).workItemClass.machine.last { item := other }
      [.call .start ⟨true, 1⟩, .call (.processMessage message) ⟨true, 2⟩]
    download.Cancels .groundStation { item := own } message ∧
      (((download.kind .vehicle).workItemClass.base told.item).done = true ↔
        Side.groundStation = download.downloader) := by
  intro vehicle groundStation own other message told
  have run := (download.kind .vehicle).workItemClass.machine.run_last { item := other }
    [.call .start ⟨true, 1⟩] (by decide)
  have cancels : download.Cancels .groundStation { item := own } message :=
    ⟨⟨true, 1⟩, _, _, WorkItemClass.legal_call rfl rfl (by decide), by decide⟩
  exact ⟨cancels, cancel_ends_peer_iff .download .groundStation cancels
    ⟨_, _, ⟨_, _, _, rfl⟩, run, by decide, by decide, by decide⟩
    (WorkItemClass.legal_call rfl rfl (by decide))⟩

end Direction
end PilotingMavsdk
