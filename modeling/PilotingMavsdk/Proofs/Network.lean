import PilotingMavsdk.Proofs.Messages

/-! What the parties of the inspection transfer do in one step, as far as the other side can see
it: which items they hold afterwards and which messages they have sent. -/

namespace PilotingMavsdk
open Library

namespace WorkItemClass
variable {State Report : Type}

/-- What becomes of an item, if there is one, when a message is dispatched. -/
inductive Delivered (workItemClass : WorkItemClass State Report) (message : Message)
    (environment : Environment) :
    Option (Life State) → Option (Life State) → List (Effect Report) → Prop where
  | missing : Delivered workItemClass message environment none none []
  | handled (life : Life State) :
      Delivered workItemClass message environment (some life)
        (some (workItemClass.afterCall (.processMessage message) environment life))
        (workItemClass.handle (.processMessage message) environment life.item).effects

inductive Advanced (workItemClass : WorkItemClass State Report) :
    LifeEvent → Option (Life State) → Option (Life State) → List (Effect Report) → Prop where
  | call {call : Call} {environment : Environment} {life : Life State}
      (callable : workItemClass.callable call life = true)
      (own : ∀ message, call ≠ .processMessage message) :
      Advanced workItemClass (.call call environment) (some life)
        (some (workItemClass.afterCall call environment life))
        (workItemClass.handle call environment life.item).effects
  | select {cookie : Cookie} {life : Life State} (expired : cookie ∈ life.pending) :
      Advanced workItemClass (.select cookie) (some life)
        (some { life with pending := life.pending.filter (· ≠ cookie), selected := true }) []
  | destroy {life : Life State} (done : (workItemClass.base life.item).done = true) :
      Advanced workItemClass .destroy (some life) none
        [.removeTimeout (workItemClass.base life.item).cookie]

variable {workItemClass : WorkItemClass State Report} {before after : Option (Life State)}
  {effects : List (Effect Report)}

theorem delivered {message : Message} {environment : Environment}
    (stepped : workItemClass.deliver message environment before = some (after, effects)) :
    workItemClass.Delivered message environment before after effects := by
  cases before with
  | none => cases stepped; exact .missing
  | some life =>
    simp only [deliver] at stepped
    split at stepped
    next legal =>
      cases stepped
      obtain ⟨_, lived⟩ := lived legal
      cases lived with
      | call => exact .handled life
    · cases stepped

theorem advanced {event : LifeEvent}
    (stepped : workItemClass.advance event before = some (after, effects)) :
    workItemClass.Advanced event before after effects := by
  cases before with
  | none => cases stepped
  | some life =>
    simp only [advance] at stepped
    split at stepped
    next allowed =>
      split at stepped
      next legal =>
        cases stepped
        obtain ⟨_, lived⟩ := lived legal
        cases lived with
        | call callable =>
          apply Advanced.call callable
          rintro message rfl
          cases allowed.1
        | select expired => exact .select expired
        | destroy => exact .destroy (allowed.2 rfl).2
      · cases stepped
    · cases stepped

/-- Every call keeps a property of the item and sends only what is allowed. -/
def Keeps (workItemClass : WorkItemClass State Report) (holds : State → Prop)
    (allowed : Message → Prop) : Prop :=
  ∀ call environment item, holds item →
    holds (workItemClass.handle call environment item).item ∧
      (workItemClass.handle call environment item).Speaks allowed

variable {holds : State → Prop} {allowed : Message → Prop}

theorem Delivered.keeps {message : Message} {environment : Environment}
    (keeps : workItemClass.Keeps holds allowed)
    (delivered : workItemClass.Delivered message environment before after effects)
    (held : ∀ life ∈ before, holds life.item) : (∀ life ∈ after, holds life.item) ∧
      ∀ message ∈ effects.filterMap Effect.sent, allowed message := by
  cases delivered with
  | missing => exact ⟨held, by simp⟩
  | handled life =>
    have called := keeps (.processMessage message) environment life.item (held life rfl)
    refine ⟨?_, called.2.filterMap⟩
    intro other present
    cases present
    exact called.1

theorem Advanced.keeps {event : LifeEvent} (keeps : workItemClass.Keeps holds allowed)
    (advanced : workItemClass.Advanced event before after effects)
    (held : ∀ life ∈ before, holds life.item) : (∀ life ∈ after, holds life.item) ∧
      ∀ message ∈ effects.filterMap Effect.sent, allowed message := by
  cases advanced with
  | @call call environment life =>
    have called := keeps call environment life.item (held life rfl)
    refine ⟨?_, called.2.filterMap⟩
    intro other present
    cases present
    exact called.1
  | @select cookie life =>
    refine ⟨?_, by simp⟩
    intro other present
    cases present
    exact held life rfl
  | destroy => exact ⟨by simp, by simp [Effect.sent]⟩

end WorkItemClass

@[simp] theorem length_toIntList (list : InspectionBase.WaypointList) :
    (toIntList list).items.length = list.items.length := by
  simp [toIntList, InspectionRoboticVehicleImpl.convertToIntItems]

private theorem getElem?_toIntList {list : InspectionBase.WaypointList} {place : Nat}
    {item : WaypointItem}
    (found : (toIntList list).items[place]? = some item) : item.seq = UInt16.ofNat place := by
  simp only [toIntList, InspectionRoboticVehicleImpl.convertToIntItems, List.getElem?_mapIdx,
    Option.map_eq_some_iff] at found
  obtain ⟨original, _, rfl⟩ := found
  rfl

theorem numbered_toIntList (list : InspectionBase.WaypointList) :
    Numbered inspection (toIntList list) := by
  intro place item found
  rw [← getElem?_toIntList found]
  rfl

theorem indexed_toIntList {list : InspectionBase.WaypointList}
    (fits : list.items.length ≤ 65536) :
    Indexed inspection.position (toIntList list).items := by
  intro place item found
  have inside := (List.getElem?_eq_some_iff.mp found).1
  rw [length_toIntList] at inside
  have number : inspection.position item = (UInt16.ofNat place).toNat :=
    congrArg UInt16.toNat (getElem?_toIntList found)
  rw [number, UInt16.toNat_ofNat']
  exact Nat.mod_eq_of_lt (by omega)

theorem map_toIntList (list : InspectionBase.WaypointList) :
    (toIntList list).items.map WaypointItem.toWaypointItem = list.items := by
  apply List.ext_getElem?
  intro place
  cases found : list.items[place]? <;>
    simp [toIntList, InspectionRoboticVehicleImpl.convertToIntItems, found]

namespace InspectionRoboticVehicleImpl
variable {plugin : InspectionRoboticVehicleImpl} {message : Message}

/-- Why the plugin hands out work or reports to the user. -/
def Justified (plugin : InspectionRoboticVehicleImpl) (message : Message) : Effect → Prop
  | .uploadItems list =>
    inspection.decode message.payload = some .request ∧ list = toIntList plugin.list
  | .downloadItems count planId =>
    inspection.decode message.payload = some (.count planId count)
  | .downloadCallback result _ => result = .busy
  | .uploadCallback _ _ | .setCurrentCallback _ => True

private theorem list_uploadInspection : plugin.uploadInspection.1.list = plugin.list := by
  simp only [uploadInspection]
  split
  · rfl
  split
  · rfl
  split <;> rfl

private theorem list_downloadInspection (planId : PlanId) (count : UInt16) :
    (plugin.downloadInspection planId count).1.list = plugin.list := by
  simp only [downloadInspection]
  split
  · rfl
  split
  · rfl
  split <;> rfl

theorem list_processMessage : (plugin.processMessage message).1.list = plugin.list := by
  simp only [processMessage]
  split
  · split
    · exact list_downloadInspection _ _
    · exact list_uploadInspection
    · rfl
    · rfl
  · rfl

theorem justified_processMessage :
    ∀ request ∈ (plugin.processMessage message).2, plugin.Justified message request := by
  simp only [processMessage]
  split
  · cases payload : message.payload with
    | waypointList content =>
      have decoded : inspection.decode message.payload = some content := by rw [payload]; rfl
      cases content with
      | count planId count =>
        simp only [downloadInspection]
        split
        · simp
        split
        · simp [Justified]
        split
        · simp
        · simpa [Justified] using decoded
      | request =>
        simp only [uploadInspection]
        split
        · simp
        split
        · simp [Justified]
        split
        · simp
        · simpa [Justified, toIntList] using decoded
      | read | item | ack => simp
    | waypointListSetCurrentItem seq =>
      simp only [processInspectionSetCurrent]
      split <;> simp [Justified]
    | checkList | alarmList | hlActionList | commandLong | commandAck => simp
  · simp

end InspectionRoboticVehicleImpl

theorem RoboticVehicle.DownloadWorkItem.speaks_handle (call : Call) (environment : Environment)
    (item : DownloadWorkItem) (list : WaypointList) :
    (workItemClass.handle call environment item).Speaks (Carries inspection list) := by
  have finishing (result : Result) (other : DownloadWorkItem) :
      (other.callbackAndReset result).Speaks (Carries inspection list) := by
    cases callback : other.callback <;> simp [callbackAndReset, callback, Effect.sent]
  have requesting (other : DownloadWorkItem) :
      (other.requestItem environment).Speaks (Carries inspection list) := by
    simp [requestItem, connectionError, finishing, Carries, Sender.pack, inspection.decode_payload,
      Effect.sent]
  cases call with
  | start =>
    simp only [workItemClass, start]
    split <;> simp [finishing, requesting, Effect.sent]
  | cancel =>
    simp [workItemClass, cancel, sendCancelAndFinish, finishing, Carries, Sender.pack,
      inspection.decode_payload, Effect.sent]
  | processTimeout =>
    simp only [workItemClass, processTimeout]
    split <;> simp [finishing, requesting, Effect.sent]
  | processMessage message =>
    simp only [workItemClass, processMessage, processItem]
    split
    · split <;> simp [finishing, requesting, Effect.sent]
    · simp

private theorem RoboticVehicle.DownloadWorkItem.keeps_any (list : WaypointList) :
    workItemClass.Keeps (fun _ => True) (Carries inspection list) :=
  fun call environment item _ => ⟨trivial, speaks_handle call environment item list⟩

private theorem RoboticVehicle.UploadWorkItem.keeps_list {list : InspectionBase.WaypointList}
    (fits : list.items.length < 65536) :
    (workItemClass inspection).Keeps (fun item => item.list = toIntList list)
      (Carries inspection (toIntList list)) := by
  intro call environment item same
  refine ⟨(list_handle call environment item).trans same, ?_⟩
  rw [← same]
  apply speaks_handle call environment
  · simpa [same] using fits
  · simpa [same] using numbered_toIntList list

namespace Vehicle

theorem sent_uploadOutput (vehicle : Vehicle)
    (effects : List (Effect (UploadWorkItem.Report InspectionAck))) :
    (effects.filterMap vehicle.uploadOutput).filterMap Output.sent =
      effects.filterMap Effect.sent := by
  rw [List.filterMap_filterMap]
  apply List.filterMap_congr
  intro effect _
  cases effect with
  | sendMessage message sent => cases sent <;> rfl
  | callback report =>
    simp only [uploadOutput, Effect.sent]
    split <;> rfl
  | addTimeout | refreshTimeout | removeTimeout => rfl

theorem sent_downloadOutput (vehicle : Vehicle)
    (effects : List (Effect RoboticVehicle.DownloadWorkItem.Report)) :
    (effects.filterMap vehicle.downloadOutput).filterMap Output.sent =
      effects.filterMap Effect.sent := by
  rw [List.filterMap_filterMap]
  apply List.filterMap_congr
  intro effect _
  cases effect with
  | sendMessage message sent => cases sent <;> rfl
  | callback report =>
    simp only [downloadOutput, Effect.sent]
    split <;> rfl
  | addTimeout | refreshTimeout | removeTimeout => rfl

theorem sent_pluginOutput (requests : List InspectionRoboticVehicleImpl.Effect) :
    (requests.filterMap pluginOutput).filterMap Output.sent = [] := by
  rw [List.filterMap_filterMap, List.filterMap_eq_nil_iff]
  intro request _
  cases request <;> rfl

inductive Stepped (vehicle : Vehicle) : Event → Vehicle → List Output → Prop where
  | receive {message : Message} {environment : Environment}
      {upload : Option (Life (UploadWorkItem PlanId WaypointItem InspectionAck))}
      {download : Option (Life RoboticVehicle.DownloadWorkItem)}
      {first : List (Effect (UploadWorkItem.Report InspectionAck))}
      {second : List (Effect RoboticVehicle.DownloadWorkItem.Report)}
      (uploading : (RoboticVehicle.UploadWorkItem.workItemClass inspection).Delivered message
        environment vehicle.upload upload first)
      (downloading : RoboticVehicle.DownloadWorkItem.workItemClass.Delivered message environment
        vehicle.download download second) :
      Stepped vehicle (.receive message environment)
        ((vehicle.plugin.processMessage message).2.foldl accept
          { vehicle with
            plugin := (vehicle.plugin.processMessage message).1
            upload := upload
            download := download })
        (first.filterMap vehicle.uploadOutput ++ second.filterMap vehicle.downloadOutput ++
          (vehicle.plugin.processMessage message).2.filterMap pluginOutput)
  | upload {event : LifeEvent}
      {upload : Option (Life (UploadWorkItem PlanId WaypointItem InspectionAck))}
      {effects : List (Effect (UploadWorkItem.Report InspectionAck))}
      (advanced : (RoboticVehicle.UploadWorkItem.workItemClass inspection).Advanced event
        vehicle.upload upload effects) :
      Stepped vehicle (.upload event)
        { vehicle with
          plugin := { vehicle.plugin with lastUpload := upload.isSome }
          upload := upload }
        (effects.filterMap vehicle.uploadOutput)
  | download {event : LifeEvent} {download : Option (Life RoboticVehicle.DownloadWorkItem)}
      {effects : List (Effect RoboticVehicle.DownloadWorkItem.Report)}
      (advanced : RoboticVehicle.DownloadWorkItem.workItemClass.Advanced event
        vehicle.download download effects) :
      Stepped vehicle (.download event)
        { vehicle with
          plugin := { vehicle.plugin with lastDownload := download.isSome }
          download := download }
        (effects.filterMap vehicle.downloadOutput)
  | sendDownloadAck {type : UInt8} {sent : Bool} :
      Stepped vehicle (.sendDownloadAck type sent) vehicle
        (if sent then [.sendMessage (vehicle.sender.pack (inspection.payload (.ack type)))] else [])

theorem stepped {vehicle after : Vehicle} {event : Event} {outputs : List Output}
    (legal : vehicle.step event = some (after, outputs)) : vehicle.Stepped event after outputs := by
  simp only [step] at legal
  cases event with
  | receive message environment =>
    simp only at legal
    split at legal
    next upload first download second uploading downloading =>
      cases legal
      exact .receive (WorkItemClass.delivered uploading) (WorkItemClass.delivered downloading)
    · cases legal
  | upload event =>
    simp only at legal
    split at legal
    next advanced => cases legal; exact .upload (WorkItemClass.advanced advanced)
    · cases legal
  | download event =>
    simp only at legal
    split at legal
    next advanced => cases legal; exact .download (WorkItemClass.advanced advanced)
    · cases legal
  | sendDownloadAck type sent => cases legal; exact .sendDownloadAck

/-- The vehicle uploads this list and no other. -/
structure Serves (list : InspectionBase.WaypointList) (vehicle : Vehicle) : Prop where
  plugin : vehicle.plugin.list = list
  upload : ∀ life ∈ vehicle.upload, life.item.list = toIntList list

variable {list : InspectionBase.WaypointList} {vehicle after : Vehicle}

private theorem serves_accept {message : Message} {plugin : InspectionRoboticVehicleImpl}
    (same : plugin.list = list) (requests : List InspectionRoboticVehicleImpl.Effect)
    (justified : ∀ request ∈ requests, plugin.Justified message request)
    (serves : vehicle.Serves list) : (requests.foldl accept vehicle).Serves list := by
  induction requests generalizing vehicle with
  | nil => exact serves
  | cons request requests ih =>
    apply ih (fun other member => justified other (by simp [member]))
    have first := justified request (by simp)
    cases request with
    | uploadItems uploaded =>
      refine ⟨serves.plugin, ?_⟩
      intro life created
      cases created
      simp only [RoboticVehicle.UploadWorkItem.create, first.2, same]
    | downloadItems | uploadCallback | downloadCallback | setCurrentCallback =>
      exact ⟨serves.plugin, serves.upload⟩

theorem carries_step {event : Event} {outputs : List Output} (fits : list.items.length < 65536)
    (serves : vehicle.Serves list) (legal : vehicle.step event = some (after, outputs)) :
    after.Serves list ∧
      ∀ message ∈ outputs.filterMap Output.sent, Carries inspection (toIntList list) message := by
  cases stepped legal with
  | @receive message environment upload download first second uploaded downloaded =>
    have uploads := uploaded.keeps (RoboticVehicle.UploadWorkItem.keeps_list fits) serves.upload
    have downloads := downloaded.keeps (RoboticVehicle.DownloadWorkItem.keeps_any (toIntList list))
      fun _ _ => trivial
    constructor
    · apply serves_accept serves.plugin _ InspectionRoboticVehicleImpl.justified_processMessage
      exact ⟨InspectionRoboticVehicleImpl.list_processMessage.trans serves.plugin, uploads.1⟩
    · intro sent member
      simp only [List.filterMap_append, sent_uploadOutput, sent_downloadOutput, sent_pluginOutput,
        List.mem_append, List.not_mem_nil, or_false] at member
      rcases member with member | member
      · exact uploads.2 sent member
      · exact downloads.2 sent member
  | @upload event upload effects advanced =>
    have uploads := advanced.keeps (RoboticVehicle.UploadWorkItem.keeps_list fits) serves.upload
    rw [sent_uploadOutput]
    exact ⟨⟨serves.plugin, uploads.1⟩, uploads.2⟩
  | @download event download effects advanced =>
    have downloads := advanced.keeps (RoboticVehicle.DownloadWorkItem.keeps_any (toIntList list))
      fun _ _ => trivial
    rw [sent_downloadOutput]
    exact ⟨⟨serves.plugin, serves.upload⟩, downloads.2⟩
  | @sendDownloadAck type sent =>
    refine ⟨serves, ?_⟩
    cases sent <;> simp [Output.sent, Carries, Sender.pack, inspection.decode_payload]

end Vehicle
end PilotingMavsdk
