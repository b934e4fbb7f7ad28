import PilotingMavsdk.Proofs.Finality

/-! Messages that reach an item before `do_work` has started it. The ground station's items
register their handlers in the constructor and act at once; the vehicle's register in `start()`. -/

namespace PilotingMavsdk
open Library

namespace GroundStation.DownloadWorkItem
variable {Header Item Ack : Type} (protocol : ListProtocol Header Item Ack)

def Unchanged (before after : DownloadWorkItem Header Item) : Prop :=
  after.step = before.step ∧ after.nextSequence = before.nextSequence ∧
    after.expectedCount = before.expectedCount ∧ after.retriesDone = before.retriesDone ∧
    after.list = before.list ∧ after.done = before.done

/-- Neither COUNT nor ITEM. -/
def HarmlessMessage (item : DownloadWorkItem Header Item) (message : Message) : Prop :=
  match protocol.dispatched item.toWorkItem message with
  | some (.count _ _) | some (.item _) => False
  | _ => True

private theorem inert_iff (environment : Environment) (message : Message)
    (item : DownloadWorkItem Header Item) :
    let outcome := item.processMessage protocol environment message
    (item.Unchanged outcome.item ∧ ∀ effect ∈ outcome.effects, effect.Idle []) ↔
      item.HarmlessMessage protocol message := by
  intro outcome
  simp only [outcome, processMessage, HarmlessMessage]
  generalize protocol.dispatched item.toWorkItem message = received
  split
  · simp only [processCount]
    split <;> simp [sendAckAndFinish, requestItem, Outcome.sending]
  · simp only [processItem]
    split <;> simp [sendAckAndFinish, requestItem, Outcome.sending]
  · simp [Unchanged]

end GroundStation.DownloadWorkItem

namespace UploadWorkItem
variable {Header Item Ack : Type} (protocol : ListProtocol Header Item Ack)

def Unchanged (before after : UploadWorkItem Header Item Ack) : Prop :=
  after.step = before.step ∧ after.nextSequence = before.nextSequence ∧
    after.retriesDone = before.retriesDone ∧ after.done = before.done

/-- Not READ, and ACK only when the item was cancelled in the queue. -/
def HarmlessMessage (item : UploadWorkItem Header Item Ack) (message : Message) : Prop :=
  match protocol.dispatched item.toWorkItem message with
  | some (.read _) => False
  | some (.ack _) => item.done = true
  | _ => True

private theorem step_sendItem (environment : Environment) (item : UploadWorkItem Header Item Ack) :
    (item.sendItem protocol environment).item.step = item.step := by
  simp only [sendItem]
  split
  · rfl
  · rw [Outcome.sending_item]
    split <;> rfl

private theorem inert_iff (environment : Environment) (message : Message)
    {item : UploadWorkItem Header Item Ack} (finished : item.Finished)
    (counting : item.step = .sendCount) :
    let outcome := item.processMessage protocol environment message
    (item.Unchanged outcome.item ∧ ∀ effect ∈ outcome.effects, effect.Idle []) ↔
      item.HarmlessMessage protocol message := by
  intro outcome
  simp only [outcome, processMessage, HarmlessMessage]
  generalize protocol.dispatched item.toWorkItem message = received
  split
  next seq =>
    have advanced : (item.processRead protocol environment seq).item.step = .sendItems := by
      simp only [processRead]
      split
      · rfl
      · split
        · rfl
        · exact step_sendItem protocol environment _
    simp [Unchanged, advanced, counting]
  next type =>
    simp only [processAck, callbackAndReset, Outcome.after_item, Outcome.after_effects, Unchanged]
    constructor
    · exact fun inert => inert.1.2.2.2.symm
    · intro done
      simp [done, finished done]
  · simp [Unchanged]

private theorem processMessage_of_unregistered (environment : Environment) (message : Message)
    {item : UploadWorkItem Header Item Ack} (unregistered : item.handlers = []) :
    item.processMessage protocol environment message = ⟨item, []⟩ := by
  simp [processMessage, ListProtocol.dispatched, unregistered]

private theorem still_unregistered (environment : Environment) (message : Message)
    {item : UploadWorkItem Header Item Ack} (unregistered : item.handlers = []) :
    (item.processMessage protocol environment message).item.handlers = [] := by
  rw [processMessage_of_unregistered protocol environment message unregistered]
  exact unregistered

private theorem inert_of_unregistered (environment : Environment) (message : Message)
    {item : UploadWorkItem Header Item Ack} (unregistered : item.handlers = []) :
    let outcome := item.processMessage protocol environment message
    item.Unchanged outcome.item ∧ ∀ effect ∈ outcome.effects, effect.Idle [] := by
  simp [processMessage_of_unregistered protocol environment message unregistered, Unchanged]

end UploadWorkItem

namespace RoboticVehicle.DownloadWorkItem

def Unchanged (before after : DownloadWorkItem) : Prop :=
  after.nextSequence = before.nextSequence ∧ after.expectedCount = before.expectedCount ∧
    after.retriesDone = before.retriesDone ∧ after.list = before.list ∧ after.done = before.done

private theorem processMessage_of_unregistered (environment : Environment) (message : Message)
    {item : DownloadWorkItem} (unregistered : item.handlers = []) :
    item.processMessage environment message = ⟨item, []⟩ := by
  simp [processMessage, ListProtocol.dispatched, unregistered]

private theorem still_unregistered (environment : Environment) (message : Message)
    {item : DownloadWorkItem} (unregistered : item.handlers = []) :
    (item.processMessage environment message).item.handlers = [] := by
  rw [processMessage_of_unregistered environment message unregistered]
  exact unregistered

private theorem inert_of_unregistered (environment : Environment) (message : Message)
    {item : DownloadWorkItem} (unregistered : item.handlers = []) :
    let outcome := item.processMessage environment message
    item.Unchanged outcome.item ∧ ∀ effect ∈ outcome.effects, effect.Idle [] := by
  simp [processMessage_of_unregistered environment message unregistered, Unchanged]

end RoboticVehicle.DownloadWorkItem

namespace SendWorkItem

def Unchanged (before after : SendWorkItem) : Prop :=
  after.retriesDone = before.retriesDone ∧ after.done = before.done

/-- No acknowledgement of the command, or a final one after the item was cancelled in the queue. -/
def HarmlessMessage (item : SendWorkItem) (message : Message) : Prop :=
  match dispatched item.toWorkItem message with
  | some commandAck => item.command.command = commandAck.command →
    commandAck.result ≠ mavResultInProgress ∧ item.done = true
  | none => True

private theorem inert_iff (environment : Environment) (message : Message) {item : SendWorkItem}
    (finished : item.Finished) :
    let outcome := item.processMessage environment message
    (item.Unchanged outcome.item ∧ ∀ effect ∈ outcome.effects, effect.Idle []) ↔
      item.HarmlessMessage message := by
  intro outcome
  simp only [outcome, processMessage, HarmlessMessage]
  generalize dispatched item.toWorkItem message = received
  split
  next commandAck =>
    simp only [processCommandAck]
    by_cases other : item.command.command = commandAck.command
    · by_cases progress : commandAck.result = mavResultInProgress
      · simp [other, progress]
      · simp only [other, ne_eq, not_true_eq_false, if_false, progress, not_false_eq_true,
          true_and, forall_const, Outcome.after_item, Outcome.after_effects, callbackAndReset,
          report, Unchanged]
        constructor
        · exact fun inert => inert.1.symm
        · intro done
          simp [done, finished done]
    · simp [other, Unchanged]
  · simp [Unchanged]

end SendWorkItem

namespace Kind

/-- The fields in which the progress of the transfer is kept. -/
def Unchanged : (kind : Kind) → kind.State → kind.State → Prop
  | inspectionUpload | vehicleInspectionUpload | vehicleChecklistUpload | vehicleAlarmUpload
  | vehicleHLActionUpload => UploadWorkItem.Unchanged
  | inspectionDownload | checklistDownload | alarmDownload | hlActionDownload =>
    GroundStation.DownloadWorkItem.Unchanged
  | vehicleInspectionDownload => RoboticVehicle.DownloadWorkItem.Unchanged
  | commandSend => SendWorkItem.Unchanged

/-- The messages that a queued item of this kind takes without a trace. -/
def HarmlessMessage : (kind : Kind) → kind.State → Message → Prop
  | inspectionUpload => UploadWorkItem.HarmlessMessage inspection
  | inspectionDownload => GroundStation.DownloadWorkItem.HarmlessMessage inspection
  | checklistDownload => GroundStation.DownloadWorkItem.HarmlessMessage checklist
  | alarmDownload => GroundStation.DownloadWorkItem.HarmlessMessage alarm
  | hlActionDownload => GroundStation.DownloadWorkItem.HarmlessMessage hlAction
  | commandSend => SendWorkItem.HarmlessMessage
  | _ => fun _ _ => True

/-- What stays true of an item that waits in the queue as long as no message has acted on it. -/
def Waiting : (kind : Kind) → kind.State → Prop
  | inspectionUpload => fun item => item.step = .sendCount
  | vehicleInspectionUpload | vehicleChecklistUpload | vehicleAlarmUpload
  | vehicleHLActionUpload => fun item => item.handlers = []
  | vehicleInspectionDownload => fun item => item.handlers = []
  | _ => fun _ => True

variable {kind : Kind}

private theorem inert_iff (environment : Environment) (message : Message) {item : kind.State}
    (finished : (kind.workItemClass.base item).Finished) (waiting : kind.Waiting item) :
    let outcome := kind.workItemClass.handle (.processMessage message) environment item
    (kind.Unchanged item outcome.item ∧ ∀ effect ∈ outcome.effects, effect.Idle []) ↔
      kind.HarmlessMessage item message := by
  intro outcome
  cases kind with
  | inspectionUpload =>
    exact UploadWorkItem.inert_iff inspection environment message finished waiting
  | inspectionDownload | checklistDownload | alarmDownload | hlActionDownload =>
    exact GroundStation.DownloadWorkItem.inert_iff _ environment message item
  | vehicleInspectionUpload | vehicleChecklistUpload | vehicleAlarmUpload
  | vehicleHLActionUpload =>
    exact iff_of_true (UploadWorkItem.inert_of_unregistered _ environment message waiting) trivial
  | vehicleInspectionDownload =>
    exact iff_of_true
      (RoboticVehicle.DownloadWorkItem.inert_of_unregistered environment message waiting) trivial
  | commandSend => exact SendWorkItem.inert_iff environment message finished

private theorem waiting_of_unchanged (environment : Environment) (message : Message)
    {item : kind.State} (waiting : kind.Waiting item)
    (unchanged : kind.Unchanged item
      (kind.workItemClass.handle (.processMessage message) environment item).item) :
    kind.Waiting (kind.workItemClass.handle (.processMessage message) environment item).item := by
  cases kind with
  | inspectionUpload => exact unchanged.1.trans waiting
  | vehicleInspectionUpload | vehicleChecklistUpload | vehicleAlarmUpload
  | vehicleHLActionUpload => exact UploadWorkItem.still_unregistered _ environment message waiting
  | vehicleInspectionDownload =>
    exact RoboticVehicle.DownloadWorkItem.still_unregistered environment message waiting
  | inspectionDownload | checklistDownload | alarmDownload | hlActionDownload | commandSend =>
    trivial

private theorem waiting_cancel (environment : Environment) {item : kind.State}
    (waiting : kind.Waiting item) :
    kind.Waiting (kind.workItemClass.handle .cancel environment item).item := by
  cases kind with
  | inspectionUpload =>
    show (item.cancel inspection environment).item.step = .sendCount
    rw [UploadWorkItem.cancel_item]
    exact waiting
  | vehicleInspectionUpload | vehicleChecklistUpload | vehicleAlarmUpload
  | vehicleHLActionUpload =>
    show (item.cancel _ environment).item.handlers = []
    rw [UploadWorkItem.cancel_item]
    exact waiting
  | vehicleInspectionDownload =>
    show (item.cancel environment).item.handlers = []
    rw [RoboticVehicle.DownloadWorkItem.cancel_item]
    exact waiting
  | inspectionDownload | checklistDownload | alarmDownload | hlActionDownload | commandSend =>
    trivial

private theorem waiting_of_created (kind : Kind) {item : kind.State}
    (created : kind.workItemClass.Created item) : kind.Waiting item := by
  cases kind with
  | inspectionUpload | vehicleInspectionUpload | vehicleChecklistUpload | vehicleAlarmUpload
  | vehicleHLActionUpload => obtain ⟨_, _, _, rfl⟩ := created; rfl
  | vehicleInspectionDownload => obtain ⟨_, _, _, rfl⟩ := created; rfl
  | inspectionDownload | checklistDownload | alarmDownload | hlActionDownload | commandSend =>
    trivial

/-- If the step is a message for an item that has not started, it leaves no trace. -/
def InertWhenQueued (kind : Kind) (taken : kind.Step) : Prop :=
  match taken.action with
  | .call (.processMessage _) _ =>
    (kind.workItemClass.base taken.before.item).started = false →
      kind.Unchanged taken.before.item taken.after.item ∧
        ∀ effect ∈ taken.outputs, effect.Idle taken.before.pending
  | _ => True

/-- If the step is a message for an item that has not started, it is a harmless one. -/
def HarmlessWhenQueued (kind : Kind) (taken : kind.Step) : Prop :=
  match taken.action with
  | .call (.processMessage message) _ =>
    (kind.workItemClass.base taken.before.item).started = false →
      kind.HarmlessMessage taken.before.item message
  | _ => True

structure Untouched (kind : Kind) (life : Life kind.State) : Prop where
  finished : (kind.workItemClass.base life.item).Finished
  waiting : (kind.workItemClass.base life.item).started = false →
    kind.Waiting life.item ∧ life.pending = [] ∧ life.selected = false

private theorem inertWhenQueued_iff {taken : kind.Step}
    (legal : kind.workItemClass.machine.Legal taken) (untouched : kind.Untouched taken.before) :
    kind.InertWhenQueued taken ↔ kind.HarmlessWhenQueued taken := by
  obtain ⟨before, event, after, effects⟩ := taken
  obtain ⟨_, lived⟩ := WorkItemClass.lived legal
  cases lived with
  | @call call environment callable fresh =>
    cases call with
    | processMessage message =>
      apply imp_congr_right
      intro queued
      obtain ⟨waiting, none, _⟩ := untouched.waiting queued
      rw [none]
      exact kind.inert_iff environment message untouched.finished waiting
    | start | cancel | processTimeout => rfl
  | select | destroy => rfl

private theorem untouched_step {taken : kind.Step} (legal : kind.workItemClass.machine.Legal taken)
    (untouched : kind.Untouched taken.before) (inert : kind.InertWhenQueued taken) :
    kind.Untouched taken.after := by
  refine ⟨finished_step legal untouched.finished, ?_⟩
  obtain ⟨before, event, after, effects⟩ := taken
  obtain ⟨_, lived⟩ := WorkItemClass.lived legal
  cases lived with
  | @call call environment callable fresh =>
    intro queued
    have earlier := kind.started_of_handle call environment queued
    obtain ⟨waiting, none, idle⟩ := untouched.waiting earlier.2
    simp only at waiting none idle
    cases call with
    | start => cases earlier.1 rfl
    | processTimeout =>
      rw [WorkItemClass.callable, idle] at callable
      cases callable
    | cancel =>
      refine ⟨kind.waiting_cancel environment waiting, ?_, idle⟩
      simp [WorkItemClass.afterCall, kind.pendingAfter_cancel, none]
    | processMessage message =>
      obtain ⟨unchanged, quiet⟩ := inert earlier.2
      refine ⟨kind.waiting_of_unchanged environment message waiting unchanged, ?_, idle⟩
      simp only at quiet
      rw [none] at quiet
      simpa [WorkItemClass.afterCall, Outcome.pendingAfter, none] using
        Effect.pendingAfter_of_idle quiet
  | select expired _ =>
    intro queued
    obtain ⟨_, none, _⟩ := untouched.waiting queued
    simp only at none
    rw [none] at expired
    cases expired
  | destroy =>
    intro queued
    obtain ⟨waiting, none, idle⟩ := untouched.waiting queued
    simp only at none
    exact ⟨waiting, by simp [none], idle⟩

/-- A queued item of any kind is inert throughout its life exactly if no message that reaches it
there is one of those that its constructor has already registered a live handler for. -/
theorem queued_inert_iff (kind : Kind) {item : kind.State}
    (created : kind.workItemClass.Created item) {log : List kind.Step} {last : Life kind.State}
    (run : kind.workItemClass.machine.Run { item := item } log last) :
    (∀ taken ∈ log, kind.InertWhenQueued taken) ↔
      (∀ taken ∈ log, kind.HarmlessWhenQueued taken) := by
  have start : kind.Untouched { item := item } := by
    refine ⟨?_, fun _ => ⟨kind.waiting_of_created created, rfl, rfl⟩⟩
    intro done
    rw [(kind.created_fields created).2.1] at done
    cases done
  refine run.all_iff ?_ ?_ start
  · exact fun taken legal untouched => inertWhenQueued_iff legal untouched
  · exact fun taken legal untouched inert => untouched_step legal untouched inert

/-- A READ meant for the upload at the front of the queue also reaches the one behind it, which
sends its own first item. -/
theorem queued_not_inert : ¬∀ (kind : Kind) (item : kind.State),
    kind.workItemClass.Created item → ∀ (log : List kind.Step) (last : Life kind.State),
      kind.workItemClass.machine.Run { item := item } log last →
      ∀ taken ∈ log, kind.InertWhenQueued taken := by
  intro inert
  let list : WaypointList := ⟨{}, [{ seq := 0 }]⟩
  let item := GroundStation.UploadWorkItem.create ⟨⟨245, 190⟩, ⟨1, 1⟩⟩ list true
  let read : Message := ⟨⟨1, 1⟩, ⟨245, 190⟩, .waypointList (.read 0)⟩
  let event : LifeEvent := .call (.processMessage read) ⟨true, 1⟩
  obtain ⟨last, run⟩ := inspectionUpload.workItemClass.machine.run_log
    { item := item } [event] (by decide)
  obtain ⟨taken, member, same, queued, advanced⟩ :
      ∃ taken ∈ inspectionUpload.workItemClass.machine.log { item := item } [event],
        taken.action = event ∧ taken.before.item.started = false ∧
          taken.after.item.step ≠ taken.before.item.step := by decide
  have quiet := inert .inspectionUpload item ⟨_, _, _, rfl⟩ _ last run taken member
  unfold InertWhenQueued at quiet
  rw [same] at quiet
  exact advanced (quiet queued).1.1

/-- A vehicle's upload in the queue, a READ for another transfer, then its start. -/
theorem queued_inert_iff_vehicle :
    let item : vehicleInspectionUpload.State :=
      RoboticVehicle.UploadWorkItem.create inspection ⟨⟨1, 1⟩, ⟨245, 190⟩⟩ ⟨{}, []⟩ true
    let read : Message := ⟨⟨245, 190⟩, ⟨1, 1⟩, .waypointList (.read 0)⟩
    let events : List LifeEvent := [.call (.processMessage read) ⟨true, 1⟩, .call .start ⟨true, 2⟩]
    let log := vehicleInspectionUpload.workItemClass.machine.log { item := item } events
    log.length = 2 ∧ ((∀ taken ∈ log, vehicleInspectionUpload.InertWhenQueued taken) ↔
      (∀ taken ∈ log, vehicleInspectionUpload.HarmlessWhenQueued taken)) := by
  intro item read events log
  obtain ⟨last, run⟩ := vehicleInspectionUpload.workItemClass.machine.run_log
    { item := item } events (by decide)
  exact ⟨by decide, queued_inert_iff vehicleInspectionUpload ⟨_, _, _, rfl⟩ run⟩

end Kind
end PilotingMavsdk
