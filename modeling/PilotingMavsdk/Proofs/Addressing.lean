import PilotingMavsdk.RoboticVehiclePlugins
import PilotingMavsdk.WorkItemClass

/-! Messages for another receiver on the same link. No handler reads the target fields, so such a
message is ignored only where any message of its kind would be. -/

namespace PilotingMavsdk

/-- Both target fields are set and name another component. -/
def Message.ForOthers (message : Message) (ownAddress : MAVLinkAddress) : Prop :=
  message.target.systemId ≠ 0 ∧ message.target.componentId ≠ 0 ∧ message.target ≠ ownAddress

/-- The message leaves no trace: not in the item, not on the network, not with the user, and not
in the timer table, where `pending` are the timers of the item. -/
def Outcome.Ignored {Item Report : Type} (outcome : Outcome Item Report) (item : Item)
    (pending : List Cookie) : Prop :=
  outcome.item = item ∧ ∀ effect ∈ outcome.effects, effect.Idle pending

namespace GroundStation.DownloadWorkItem
variable {Header Item Ack : Type} (protocol : ListProtocol Header Item Ack)

def Ignores (item : DownloadWorkItem Header Item) (message : Message) : Prop :=
  match protocol.dispatched item.toWorkItem message with
  | some (.count _ _) | some (.item _) => False
  | _ => True

private theorem ignored_iff (environment : Environment) (message : Message)
    (item : DownloadWorkItem Header Item) (pending : List Cookie) :
    (item.processMessage protocol environment message).Ignored item pending ↔
      item.Ignores protocol message := by
  simp only [processMessage, Ignores, Outcome.Ignored]
  generalize protocol.dispatched item.toWorkItem message = received
  split
  · simp only [processCount]
    split <;> simp [sendAckAndFinish, requestItem, Outcome.sending]
  · simp only [processItem]
    split <;> simp [sendAckAndFinish, requestItem, Outcome.sending]
  · simp

end GroundStation.DownloadWorkItem

namespace UploadWorkItem
variable {Header Item Ack : Type} (protocol : ListProtocol Header Item Ack)

/-- Repeating the acknowledgement or a READ changes nothing once the first one has been taken. -/
def Ignores (item : UploadWorkItem Header Item Ack) (pending : List Cookie) (message : Message) :
    Prop :=
  match protocol.dispatched item.toWorkItem message with
  | some (.read seq) => item.step = .sendItems ∧
    (item.nextSequence < seq.toNat ∨
      item.cookie ∉ pending ∧
        (seq.toNat < item.nextSequence ∧ retries ≤ item.retriesDone ∧
            item.done = true ∧ item.callback = false ∨
          seq.toNat = item.nextSequence ∧ item.list.items.length ≤ seq.toNat ∧
            item.retriesDone = 0))
  | some (.ack type) => item.cookie ∉ pending ∧ item.done = true ∧ item.callback = false ∧
    item.ack = protocol.toAck type
  | _ => True

private theorem ignored_processRead_iff (environment : Environment) (seq : UInt16)
    (item : UploadWorkItem Header Item Ack) (pending : List Cookie) :
    (item.processRead protocol environment seq).Ignored item pending ↔
      item.step = .sendItems ∧
        (item.nextSequence < seq.toNat ∨
          item.cookie ∉ pending ∧
            (seq.toNat < item.nextSequence ∧ retries ≤ item.retriesDone ∧
                item.done = true ∧ item.callback = false ∨
              seq.toNat = item.nextSequence ∧ item.list.items.length ≤ seq.toNat ∧
                item.retriesDone = 0)) := by
  obtain ⟨base, step, list, ack, next⟩ := item
  obtain ⟨sender, handlers, started, done, callback, cookie, retriesDone⟩ := base
  simp only [processRead, Outcome.Ignored]
  by_cases ahead : next < seq.toNat
  · simp [ahead, eq_comm]
  by_cases behind : seq.toNat < next ∧ retries ≤ retriesDone
  · have apart : seq.toNat ≠ next := by omega
    simp only [ahead, behind, apart, and_self, if_true, if_false, Outcome.after_item,
      Outcome.after_effects, callbackAndReset, false_or, false_and, or_false, true_and]
    cases callback <;> cases done <;> cases step <;> simp
  · simp only [ahead, behind, if_false, sendItem, false_or]
    split
    next missing =>
      have beyond : list.items.length ≤ seq.toNat := by simpa using missing
      simp only [Outcome.after_item, Outcome.after_effects, beyond]
      by_cases same : seq.toNat = next
      · subst same
        cases step <;> simp [eq_comm, and_comm]
      · have apart : next ≠ seq.toNat := fun equal => same equal.symm
        have rarely : ¬(seq.toNat < next ∧ retries ≤ retriesDone ∧ done = true ∧
            callback = false) := fun all => behind ⟨all.1, all.2.1⟩
        simp [same, rarely]
    next found present =>
      have inside : ¬list.items.length ≤ seq.toNat := by
        simpa using (List.getElem?_eq_some_iff.mp present).1
      have rarely : ¬(seq.toNat < next ∧ retries ≤ retriesDone ∧ done = true ∧
          callback = false) := fun all => behind ⟨all.1, all.2.1⟩
      simp [Outcome.sending, rarely, inside]

private theorem ignored_iff (environment : Environment) (message : Message)
    (item : UploadWorkItem Header Item Ack) (pending : List Cookie) :
    (item.processMessage protocol environment message).Ignored item pending ↔
      item.Ignores protocol pending message := by
  simp only [processMessage, Ignores]
  generalize protocol.dispatched item.toWorkItem message = received
  split
  next seq => exact ignored_processRead_iff protocol environment seq item pending
  next type =>
    obtain ⟨base, step, list, ack, next⟩ := item
    obtain ⟨sender, handlers, started, done, callback, cookie, retriesDone⟩ := base
    simp only [processAck, callbackAndReset, Outcome.Ignored, Outcome.after_item,
      Outcome.after_effects]
    cases callback <;> cases done <;> simp [eq_comm, and_comm]
  · simp [Outcome.Ignored]

end UploadWorkItem

namespace RoboticVehicle.DownloadWorkItem

def Ignores (item : DownloadWorkItem) (message : Message) : Prop :=
  match inspection.dispatched item.toWorkItem message with
  | some (.item _) => False
  | _ => True

private theorem ignored_iff (environment : Environment) (message : Message)
    (item : DownloadWorkItem) (pending : List Cookie) :
    (item.processMessage environment message).Ignored item pending ↔ item.Ignores message := by
  simp only [processMessage, Ignores]
  generalize inspection.dispatched item.toWorkItem message = received
  split
  next received =>
    have longer : (item.processItem environment received).item.list.items =
        item.list.items ++ [received] := by
      simp only [processItem]
      split
      · rfl
      · rw [Outcome.after_item, requestItem_item]
        split <;> rfl
    refine iff_of_false ?_ id
    intro ignored
    rw [ignored.1] at longer
    simp at longer
  · simp [Outcome.Ignored]

end RoboticVehicle.DownloadWorkItem

namespace SendWorkItem

def Ignores (item : SendWorkItem) (pending : List Cookie) (message : Message) : Prop :=
  match dispatched item.toWorkItem message with
  | some commandAck => item.command.command = commandAck.command →
    commandAck.result ≠ mavResultInProgress ∧ item.cookie ∉ pending ∧ item.done = true ∧
      item.callback = false ∧ item.ack = commandAck
  | none => True

private theorem ignored_iff (environment : Environment) (message : Message) (item : SendWorkItem)
    (pending : List Cookie) : (item.processMessage environment message).Ignored item pending ↔
      item.Ignores pending message := by
  simp only [processMessage, Ignores]
  generalize dispatched item.toWorkItem message = received
  split
  next commandAck =>
    obtain ⟨base, command, ack⟩ := item
    obtain ⟨sender, handlers, started, done, callback, cookie, retriesDone⟩ := base
    simp only [processCommandAck, Outcome.Ignored]
    by_cases same : command.command = commandAck.command
    · by_cases progress : commandAck.result = mavResultInProgress
      · simp [same, progress]
      · cases callback <;> cases done <;>
          simp [same, progress, callbackAndReset, report, eq_comm, and_comm]
    · simp [same]
  · simp [Outcome.Ignored]

end SendWorkItem

namespace Kind

/-- The messages that an item of this kind ignores in a given state, whomever they are for. -/
def Ignores : (kind : Kind) → kind.State → List Cookie → Message → Prop
  | inspectionUpload => UploadWorkItem.Ignores inspection
  | inspectionDownload => fun item _ => item.Ignores inspection
  | checklistDownload => fun item _ => item.Ignores checklist
  | alarmDownload => fun item _ => item.Ignores alarm
  | hlActionDownload => fun item _ => item.Ignores hlAction
  | vehicleInspectionUpload => UploadWorkItem.Ignores inspection
  | vehicleInspectionDownload => fun item _ => item.Ignores
  | vehicleChecklistUpload => UploadWorkItem.Ignores checklist
  | vehicleAlarmUpload => UploadWorkItem.Ignores alarm
  | vehicleHLActionUpload => UploadWorkItem.Ignores hlAction
  | commandSend => SendWorkItem.Ignores

private theorem ignored_iff (kind : Kind) (environment : Environment) (message : Message)
    (item : kind.State) (pending : List Cookie) :
    (kind.workItemClass.handle (.processMessage message) environment item).Ignored item pending ↔
      kind.Ignores item pending message := by
  cases kind with
  | inspectionUpload | vehicleInspectionUpload | vehicleChecklistUpload | vehicleAlarmUpload
  | vehicleHLActionUpload => exact UploadWorkItem.ignored_iff _ environment message item pending
  | inspectionDownload | checklistDownload | alarmDownload | hlActionDownload =>
    exact GroundStation.DownloadWorkItem.ignored_iff _ environment message item pending
  | vehicleInspectionDownload =>
    exact RoboticVehicle.DownloadWorkItem.ignored_iff environment message item pending
  | commandSend => exact SendWorkItem.ignored_iff environment message item pending

end Kind

/-- A plugin passes over the messages whose handler it has not registered. -/
private theorem unregistered_or_ignored {Outcome : Type} {registered ignores : Prop}
    [Decidable registered] {handled unchanged : Outcome}
    (handling : handled = unchanged ↔ ignores) :
    (if registered then handled else unchanged) = unchanged ↔ ¬registered ∨ ignores := by
  by_cases present : registered <;> simp [present, handling]

namespace InspectionRoboticVehicleImpl

def Ignores (plugin : InspectionRoboticVehicleImpl) (message : Message) : Prop :=
  message.payload.msgId ∉ plugin.handlers ∨
    match message.payload with
    | .waypointList (.count _ _) => plugin.downloadCallback = false ∨
      plugin.lastDownload = false ∧ plugin.transfer = false
    | .waypointList .request => plugin.uploadCallback = false ∨
      plugin.lastUpload = false ∧ plugin.transfer = false
    | .waypointListSetCurrentItem _ => plugin.setCurrentCallback = false
    | _ => True

private theorem ignored_iff (plugin : InspectionRoboticVehicleImpl) (message : Message) :
    plugin.processMessage message = (plugin, []) ↔ plugin.Ignores message := by
  refine unregistered_or_ignored ?_
  obtain ⟨handlers, list, upload, download, current, lastUpload, lastDownload, transfer⟩ := plugin
  generalize message.payload = payload
  split
  · cases download <;> cases lastDownload <;> cases transfer <;> simp [downloadInspection]
  · cases upload <;> cases lastUpload <;> cases transfer <;> simp [uploadInspection]
  · cases current <;> simp [processInspectionSetCurrent]
  · simp

end InspectionRoboticVehicleImpl

namespace ListRoboticVehicleImpl
variable {Item : Type} (protocol : ListProtocol Unit Item ListAck)

def Ignores (plugin : ListRoboticVehicleImpl Item) (message : Message) : Prop :=
  message.payload.msgId ∉ plugin.handlers ∨
    match protocol.decode message.payload with
    | some .request => plugin.uploadCallback = false ∨
      plugin.lastUpload = false ∧ plugin.transfer = false
    | _ => True

private theorem ignored_iff (plugin : ListRoboticVehicleImpl Item) (message : Message) :
    plugin.processMessage protocol message = (plugin, []) ↔ plugin.Ignores protocol message := by
  refine unregistered_or_ignored ?_
  obtain ⟨handlers, items, upload, lastUpload, transfer⟩ := plugin
  generalize protocol.decode message.payload = decoded
  split
  · cases upload <;> cases lastUpload <;> cases transfer <;> simp [ListRoboticVehicleImpl.upload]
  · simp

end ListRoboticVehicleImpl

namespace CommandRoboticVehicleImpl

def Ignores (plugin : CommandRoboticVehicleImpl) (message : Message) : Prop :=
  message.payload.msgId ∉ plugin.handlers ∨
    match message.payload with
    | .commandLong _ => plugin.commandCallback = false
    | _ => True

private theorem ignored_iff (plugin : CommandRoboticVehicleImpl) (message : Message) :
    plugin.processMessage message = (plugin, []) ↔ plugin.Ignores message := by
  refine unregistered_or_ignored ?_
  generalize message.payload = payload
  split
  · cases callback : plugin.commandCallback <;> simp
  · simp

end CommandRoboticVehicleImpl

namespace Plugin

def Ignores : (plugin : Plugin) → plugin.State → Message → Prop
  | inspection => InspectionRoboticVehicleImpl.Ignores
  | checklist => ListRoboticVehicleImpl.Ignores PilotingMavsdk.checklist
  | alarm => ListRoboticVehicleImpl.Ignores PilotingMavsdk.alarm
  | hlAction => ListRoboticVehicleImpl.Ignores PilotingMavsdk.hlAction
  | command => CommandRoboticVehicleImpl.Ignores

private theorem ignored_iff (plugin : Plugin) (state : plugin.State) (message : Message) :
    plugin.processMessage message state = (state, []) ↔ plugin.Ignores state message := by
  cases plugin with
  | inspection => exact InspectionRoboticVehicleImpl.ignored_iff state message
  | checklist | alarm | hlAction => exact ListRoboticVehicleImpl.ignored_iff _ state message
  | command => exact CommandRoboticVehicleImpl.ignored_iff state message

end Plugin

/-- An address is not among what decides whether a work item or a plugin ignores a message that is
meant for others. -/
theorem for_others_ignored_iff (message : Message) (ownAddress : MAVLinkAddress)
    (_others : message.ForOthers ownAddress) :
    (∀ (kind : Kind) (item : kind.State) (pending : List Cookie) (environment : Environment),
      (kind.workItemClass.base item).sender.ownAddress = ownAddress →
      ((kind.workItemClass.handle (.processMessage message) environment item).Ignored item pending ↔
        kind.Ignores item pending message)) ∧
    ∀ (plugin : Plugin) (state : plugin.State),
      plugin.processMessage message state = (state, []) ↔ plugin.Ignores state message := by
  constructor
  · intro kind item pending environment _
    exact kind.ignored_iff environment message item pending
  · intro plugin state
    exact plugin.ignored_iff state message

/-- An ITEM for ground station 246 that ground station 245 overhears. -/
private def overheard : Message :=
  ⟨⟨1, 1⟩, ⟨246, 190⟩, .waypointList (.item { seq := 0 })⟩

theorem for_others_ignored_iff_overheard :
    let item := GroundStation.DownloadWorkItem.create inspection ⟨⟨245, 190⟩, ⟨1, 1⟩⟩ true
    ¬(Kind.inspectionDownload.workItemClass.handle (.processMessage overheard) ⟨true, 1⟩
        item).Ignored
      item [] := by
  intro item ignored
  have others : overheard.ForOthers ⟨245, 190⟩ := by unfold Message.ForOthers; decide
  exact ((for_others_ignored_iff overheard ⟨245, 190⟩ others).1 .inspectionDownload item []
    ⟨true, 1⟩ rfl).mp ignored

/-- Ground station 245 appends the overheard item to its own download. -/
theorem for_others_not_ignored : ¬∀ (message : Message) (kind : Kind) (item : kind.State)
    (pending : List Cookie) (environment : Environment),
    message.ForOthers (kind.workItemClass.base item).sender.ownAddress →
    (kind.workItemClass.handle (.processMessage message) environment item).Ignored item
      pending := by
  intro ignores
  let item := GroundStation.DownloadWorkItem.create inspection ⟨⟨245, 190⟩, ⟨1, 1⟩⟩ true
  have others : overheard.ForOthers ⟨245, 190⟩ := by unfold Message.ForOthers; decide
  have ignored := ignores overheard .inspectionDownload item [] ⟨true, 1⟩ others
  have same := congrArg (fun item => item.list.items.length) ignored.1
  revert same
  decide

end PilotingMavsdk
