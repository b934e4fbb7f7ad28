import PilotingMavsdk.Proofs.Life

/-! What a done item still does. No handler tests `_done`, so a call on a done item is silent
only where the handler happens to take a branch without sends and timers. -/

namespace PilotingMavsdk
open Library

namespace GroundStation.DownloadWorkItem
variable {Header Item Ack : Type} {protocol : ListProtocol Header Item Ack}

/-- The calls that a done item takes in silence. -/
def Quiet (protocol : ListProtocol Header Item Ack) (item : DownloadWorkItem Header Item) :
    Call → Prop
  | .start | .cancel => False
  | .processMessage message =>
    match protocol.dispatched item.toWorkItem message with
    | some (.count _ _) | some (.item _) => False
    | _ => True
  | .processTimeout => retries ≤ item.retriesDone

private theorem silent_handle (call : Call) (environment : Environment)
    {item : DownloadWorkItem Header Item} (empty : item.callback = false) :
    ((workItemClass protocol).handle call environment item).Silent ↔ item.Quiet protocol call := by
  cases call with
  | start => simp [workItemClass, start, requestList, Quiet]
  | cancel => simp [workItemClass, cancel, sendCancelAndFinish, Quiet]
  | processTimeout =>
    simp only [workItemClass, processTimeout, Quiet]
    split
    next exhausted => simpa [empty] using exhausted
    next remaining => cases item.step <;> simpa [requestList, requestItem] using remaining
  | processMessage message =>
    simp only [workItemClass, processMessage, Quiet]
    generalize protocol.dispatched item.toWorkItem message = received
    split
    · simp only [processCount]
      split <;> simp [sendAckAndFinish, requestItem]
    · simp only [processItem]
      split <;> simp [sendAckAndFinish, requestItem]
    · simp

end GroundStation.DownloadWorkItem

namespace UploadWorkItem
variable {Header Item Ack : Type} (protocol : ListProtocol Header Item Ack)

/-- A READ is answered unless it runs ahead, comes back too often or lies beyond the end. -/
def QuietMessage (item : UploadWorkItem Header Item Ack) (message : Message) : Prop :=
  match protocol.dispatched item.toWorkItem message with
  | some (.read seq) =>
    item.nextSequence < seq.toNat ∨
      seq.toNat < item.nextSequence ∧ retries ≤ item.retriesDone ∨
      item.list.items.length ≤ seq.toNat
  | _ => True

private theorem silent_sendItem (environment : Environment)
    (item : UploadWorkItem Header Item Ack) : (item.sendItem protocol environment).Silent ↔
      item.list.items.length ≤ item.nextSequence := by
  simp only [sendItem]
  split
  next missing => simpa using missing
  next found present =>
    have inside := (List.getElem?_eq_some_iff.mp present).1
    simpa using inside

private theorem not_silent_sendCount (environment : Environment)
    (item : UploadWorkItem Header Item Ack) :
    ¬(item.sendCount protocol environment).Silent := by
  simp [sendCount]

private theorem not_silent_cancel (environment : Environment)
    (item : UploadWorkItem Header Item Ack) :
    ¬(item.cancel protocol environment).Silent := by
  simp [cancel, sendCancelAndFinish]

private theorem silent_processMessage (environment : Environment) (message : Message)
    {item : UploadWorkItem Header Item Ack} (empty : item.callback = false) :
    (item.processMessage protocol environment message).Silent ↔
      item.QuietMessage protocol message := by
  simp only [processMessage, QuietMessage]
  generalize protocol.dispatched item.toWorkItem message = received
  split
  next seq =>
    simp only [processRead]
    by_cases ahead : item.nextSequence < seq.toNat
    · simp [ahead]
    by_cases behind : seq.toNat < item.nextSequence ∧ retries ≤ item.retriesDone
    · simp [ahead, behind, empty]
    · simp [ahead, behind, silent_sendItem]
  · simp [processAck, empty]
  · simp

end UploadWorkItem

namespace GroundStation.UploadWorkItem

def Quiet (item : UploadWorkItem PlanId WaypointItem InspectionAck) : Call → Prop
  | .start => inspection.sequenceValid 0 item.list.items = false
  | .cancel => False
  | .processMessage message => item.QuietMessage inspection message
  | .processTimeout => retries ≤ item.retriesDone ∨ item.step = .sendItems

private theorem silent_handle (call : Call) (environment : Environment)
    {item : UploadWorkItem PlanId WaypointItem InspectionAck} (empty : item.callback = false) :
    (workItemClass.handle call environment item).Silent ↔ Quiet item call := by
  cases call with
  | start =>
    simp only [workItemClass, start, Quiet]
    split
    next valid => simp [valid, UploadWorkItem.not_silent_sendCount]
    next invalid => simp [invalid, empty]
  | cancel => simp [workItemClass, Quiet, UploadWorkItem.not_silent_cancel]
  | processTimeout =>
    simp only [workItemClass, processTimeout, Quiet]
    split
    next exhausted => simp [empty, exhausted]
    next remaining =>
      cases step : item.step with
      | sendCount => simp [remaining, UploadWorkItem.not_silent_sendCount]
      | sendItems => simp [empty]
  | processMessage message =>
    exact UploadWorkItem.silent_processMessage inspection environment message empty

end GroundStation.UploadWorkItem

namespace RoboticVehicle.UploadWorkItem
variable {Header Item Ack : Type} (protocol : ListProtocol Header Item Ack)

def Quiet (item : UploadWorkItem Header Item Ack) : Call → Prop
  | .start | .cancel => False
  | .processMessage message => item.QuietMessage protocol message
  | .processTimeout => True

private theorem silent_handle (call : Call) (environment : Environment)
    {item : UploadWorkItem Header Item Ack} (empty : item.callback = false) :
    ((workItemClass protocol).handle call environment item).Silent ↔ Quiet protocol item call := by
  cases call with
  | start => simp [workItemClass, start, Quiet]
  | cancel => simp [workItemClass, Quiet, UploadWorkItem.not_silent_cancel]
  | processTimeout => simp [workItemClass, processTimeout, Quiet, empty]
  | processMessage message =>
    exact UploadWorkItem.silent_processMessage protocol environment message empty

end RoboticVehicle.UploadWorkItem

namespace RoboticVehicle.DownloadWorkItem

def Quiet (item : DownloadWorkItem) : Call → Prop
  | .start => item.expectedCount = 0
  | .cancel => False
  | .processMessage message =>
    match inspection.dispatched item.toWorkItem message with
    | some (.item _) => item.nextSequence + 1 = item.expectedCount
    | _ => True
  | .processTimeout => retries ≤ item.retriesDone

private theorem silent_handle (call : Call) (environment : Environment) {item : DownloadWorkItem}
    (empty : item.callback = false) :
    (workItemClass.handle call environment item).Silent ↔ item.Quiet call := by
  cases call with
  | start =>
    simp only [workItemClass, start, Quiet]
    split
    next nothing => simp [nothing, empty]
    next announced => simp [announced, requestItem]
  | cancel => simp [workItemClass, cancel, sendCancelAndFinish, Quiet]
  | processTimeout =>
    simp only [workItemClass, processTimeout, Quiet]
    split
    next exhausted => simpa [empty] using exhausted
    next remaining => simpa [requestItem] using remaining
  | processMessage message =>
    simp only [workItemClass, processMessage, Quiet]
    generalize inspection.dispatched item.toWorkItem message = received
    split
    · simp only [processItem]
      split
      next last => simp [last, empty]
      next more => simp [more, requestItem]
    · simp

end RoboticVehicle.DownloadWorkItem

namespace SendWorkItem

def Quiet (item : SendWorkItem) : Call → Prop
  | .start => False
  | .cancel => True
  | .processMessage message =>
    match dispatched item.toWorkItem message with
    | some commandAck =>
      item.command.command ≠ commandAck.command ∨ commandAck.result ≠ mavResultInProgress
    | none => True
  | .processTimeout => retries ≤ item.retriesDone

private theorem silent_handle (call : Call) (environment : Environment) {item : SendWorkItem}
    (empty : item.callback = false) :
    (workItemClass.handle call environment item).Silent ↔ item.Quiet call := by
  cases call with
  | start => simp [workItemClass, start, sendCommand, Quiet]
  | cancel => simp [workItemClass, cancel, empty, Quiet]
  | processTimeout =>
    simp only [workItemClass, processTimeout, Quiet]
    split
    next exhausted => simpa [empty] using exhausted
    next remaining => simpa [sendCommand] using remaining
  | processMessage message =>
    simp only [workItemClass, processMessage, Quiet]
    generalize dispatched item.toWorkItem message = received
    split
    next commandAck =>
      simp only [processCommandAck]
      by_cases other : item.command.command = commandAck.command
      · by_cases progress : commandAck.result = mavResultInProgress
        · simp [other, progress]
        · simp [other, progress, empty]
      · simp [other]
    · simp

end SendWorkItem

namespace Kind

def Quiet : (kind : Kind) → kind.State → Call → Prop
  | inspectionUpload => GroundStation.UploadWorkItem.Quiet
  | inspectionDownload => GroundStation.DownloadWorkItem.Quiet inspection
  | checklistDownload => GroundStation.DownloadWorkItem.Quiet checklist
  | alarmDownload => GroundStation.DownloadWorkItem.Quiet alarm
  | hlActionDownload => GroundStation.DownloadWorkItem.Quiet hlAction
  | vehicleInspectionUpload => RoboticVehicle.UploadWorkItem.Quiet inspection
  | vehicleInspectionDownload => RoboticVehicle.DownloadWorkItem.Quiet
  | vehicleChecklistUpload => RoboticVehicle.UploadWorkItem.Quiet checklist
  | vehicleAlarmUpload => RoboticVehicle.UploadWorkItem.Quiet alarm
  | vehicleHLActionUpload => RoboticVehicle.UploadWorkItem.Quiet hlAction
  | commandSend => SendWorkItem.Quiet

private theorem silent_handle (kind : Kind) (call : Call) (environment : Environment)
    {item : kind.State} (empty : (kind.workItemClass.base item).callback = false) :
    (kind.workItemClass.handle call environment item).Silent ↔ kind.Quiet item call := by
  cases kind with
  | inspectionUpload => exact GroundStation.UploadWorkItem.silent_handle _ _ empty
  | inspectionDownload | checklistDownload | alarmDownload | hlActionDownload =>
    exact GroundStation.DownloadWorkItem.silent_handle _ _ empty
  | vehicleInspectionUpload | vehicleChecklistUpload | vehicleAlarmUpload
  | vehicleHLActionUpload => exact RoboticVehicle.UploadWorkItem.silent_handle _ _ _ empty
  | vehicleInspectionDownload => exact RoboticVehicle.DownloadWorkItem.silent_handle _ _ empty
  | commandSend => exact SendWorkItem.silent_handle _ _ empty

variable (kind : Kind)

abbrev Step := Taken (Life kind.State) LifeEvent (Effect kind.Report)

def Finished (life : Life kind.State) : Prop := (kind.workItemClass.base life.item).Finished

/-- If the step is taken by a done item, it sends nothing, adds no timer and reports nothing. -/
def SilentWhenDone (taken : kind.Step) : Prop :=
  (kind.workItemClass.base taken.before.item).done = true →
    ∀ effect ∈ taken.outputs, effect.loud = false

/-- If the step is a call on a done item, it is one of the quiet ones. -/
def QuietWhenDone (taken : kind.Step) : Prop :=
  (kind.workItemClass.base taken.before.item).done = true →
    match taken.action with
    | .call call _ => kind.Quiet taken.before.item call
    | _ => True

variable {kind}

private theorem silent_iff_quiet {taken : kind.Step}
    (legal : kind.workItemClass.machine.Legal taken) (finished : kind.Finished taken.before) :
    kind.SilentWhenDone taken ↔ kind.QuietWhenDone taken := by
  obtain ⟨before, event, after, effects⟩ := taken
  obtain ⟨_, lived⟩ := WorkItemClass.lived legal
  unfold SilentWhenDone QuietWhenDone
  apply imp_congr_right
  intro done
  cases lived with
  | call => exact kind.silent_handle _ _ (finished done)
  | select => simp
  | destroy => simp

theorem finished_step {taken : kind.Step} (legal : kind.workItemClass.machine.Legal taken)
    (finished : kind.Finished taken.before) : kind.Finished taken.after := by
  obtain ⟨before, event, after, effects⟩ := taken
  obtain ⟨_, lived⟩ := WorkItemClass.lived legal
  cases lived with
  | call => exact (kind.proceeds_handle _ _ _).finished finished
  | select => exact finished
  | destroy => exact finished

/-- In the life of an item of any kind, being done is final exactly if every call that reaches
the done item finds it where its handler is quiet. -/
theorem done_final_iff (kind : Kind) {item : kind.State}
    (created : kind.workItemClass.Created item) {log : List kind.Step} {last : Life kind.State}
    (run : kind.workItemClass.machine.Run { item := item } log last) :
    (∀ taken ∈ log, kind.SilentWhenDone taken) ↔ (∀ taken ∈ log, kind.QuietWhenDone taken) := by
  have fresh : kind.Finished { item := item } := by
    intro done
    rw [(kind.created_fields created).2.1] at done
    cases done
  refine run.all_iff ?_ ?_ fresh
  · exact fun taken legal finished => silent_iff_quiet legal finished
  · exact fun taken legal finished _ => finished_step legal finished

/-- An acknowledgement reaches a command that still waits in the queue: the user is told
`Success`, and then `do_work` starts the item and the command goes out. -/
theorem done_not_final : ¬∀ (kind : Kind) (item : kind.State), kind.workItemClass.Created item →
    ∀ (log : List kind.Step) (last : Life kind.State),
      kind.workItemClass.machine.Run { item := item } log last →
      ∀ taken ∈ log, kind.SilentWhenDone taken := by
  intro final
  let item := SendWorkItem.create ⟨⟨245, 190⟩, ⟨1, 1⟩⟩ { command := 400 } true
  let ack : Message := ⟨⟨1, 1⟩, ⟨245, 190⟩, .commandAck { command := 400 }⟩
  let events : List LifeEvent :=
    [.call (.processMessage ack) ⟨true, 1⟩, .call .start ⟨true, 2⟩]
  obtain ⟨last, run⟩ := commandSend.workItemClass.machine.run_log
    { item := item } events (by decide)
  have loud : ∃ taken ∈ commandSend.workItemClass.machine.log { item := item } events,
      (commandSend.workItemClass.base taken.before.item).done = true ∧
        ∃ effect ∈ taken.outputs, effect.loud = true := by decide
  obtain ⟨taken, member, done, effect, produced, loud⟩ := loud
  have silent := final .commandSend item ⟨_, _, _, rfl⟩ _ last run taken member done effect produced
  rw [silent] at loud
  cases loud

/-- A command is acknowledged, and a second acknowledgement comes before it is destroyed. -/
theorem done_final_iff_acknowledged :
    let item : commandSend.State :=
      SendWorkItem.create ⟨⟨245, 190⟩, ⟨1, 1⟩⟩ { command := 400 } true
    let ack : Message := ⟨⟨1, 1⟩, ⟨245, 190⟩, .commandAck { command := 400 }⟩
    let events : List LifeEvent := [.call .start ⟨true, 1⟩,
      .call (.processMessage ack) ⟨true, 2⟩, .call (.processMessage ack) ⟨true, 3⟩, .destroy]
    let log := commandSend.workItemClass.machine.log { item := item } events
    log.length = 4 ∧ ((∀ taken ∈ log, commandSend.SilentWhenDone taken) ↔
      (∀ taken ∈ log, commandSend.QuietWhenDone taken)) := by
  intro item ack events log
  obtain ⟨last, run⟩ := commandSend.workItemClass.machine.run_log
    { item := item } events (by decide)
  exact ⟨by decide, done_final_iff commandSend ⟨_, _, _, rfl⟩ run⟩

end Kind
end PilotingMavsdk
