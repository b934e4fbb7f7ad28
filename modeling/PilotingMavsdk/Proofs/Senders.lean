import PilotingMavsdk.Proofs.Network

/-! In whose name the messages of an inspection download are sent, and what they can be about: both
sides send under their own address only, and the vehicle nothing but its list. -/

namespace PilotingMavsdk
open Library

section
variable {Header Item Ack : Type} (protocol : ListProtocol Header Item Ack)

/-- The content belongs to the list as far as it has texts. -/
def ListMessage.Of (list : ItemList Header Item) : ListMessage Header Item → Prop
  | .count header _ => header = list.header
  | .item found => found ∈ list.items
  | .request | .read _ | .ack _ => True

/-- The sender has packed the message, and it is about the list. -/
def SentBy (sender : Sender) (list : ItemList Header Item) (message : Message) : Prop :=
  ∃ content, message = sender.pack (protocol.payload content) ∧ content.Of list

variable {protocol} {sender : Sender} {list : ItemList Header Item}

theorem SentBy.request : SentBy protocol sender list (sender.pack (protocol.payload .request)) :=
  ⟨.request, rfl, trivial⟩

theorem SentBy.read (seq : UInt16) :
    SentBy protocol sender list (sender.pack (protocol.payload (.read seq))) :=
  ⟨.read seq, rfl, trivial⟩

theorem SentBy.ack (type : UInt8) :
    SentBy protocol sender list (sender.pack (protocol.payload (.ack type))) :=
  ⟨.ack type, rfl, trivial⟩

theorem SentBy.count (count : UInt16) :
    SentBy protocol sender list (sender.pack (protocol.payload (.count list.header count))) :=
  ⟨.count list.header count, rfl, rfl⟩

theorem SentBy.item {item : Item} (member : item ∈ list.items) :
    SentBy protocol sender list (sender.pack (protocol.payload (.item item))) :=
  ⟨.item item, rfl, member⟩

end

structure Outcome.Keeping {Item Report : Type} (holds : Item → Prop) (allowed : Message → Prop)
    (outcome : Outcome Item Report) : Prop where
  holds : holds outcome.item
  speaks : outcome.Speaks allowed

namespace Outcome.Keeping
variable {Item Report : Type} {holds : Item → Prop} {allowed : Message → Prop}
  {outcome : Outcome Item Report} {timers : List (Effect Report)}

private theorem silent_timers (plain : ∀ timer ∈ timers, timer.timer = true) :
    ∀ timer ∈ timers, ∀ message ∈ timer.sent, allowed message := by
  intro timer member
  have silent := plain timer member
  cases timer with
  | sendMessage | callback => cases silent
  | addTimeout | refreshTimeout | removeTimeout => simp [Effect.sent]

theorem after (keeping : outcome.Keeping holds allowed)
    (plain : ∀ timer ∈ timers, timer.timer = true) :
    (outcome.after timers).Keeping holds allowed :=
  ⟨keeping.holds, (Outcome.speaks_after _ _).mpr ⟨silent_timers plain, keeping.speaks⟩⟩

theorem followedBy (keeping : outcome.Keeping holds allowed)
    (plain : ∀ timer ∈ timers, timer.timer = true) :
    (outcome.followedBy timers).Keeping holds allowed :=
  ⟨keeping.holds, (Outcome.speaks_followedBy _ _).mpr ⟨keeping.speaks, silent_timers plain⟩⟩

theorem sending (environment : Environment) {message : Message} {failed sent : Outcome Item Report}
    (fine : allowed message) (first : failed.Keeping holds allowed)
    (second : sent.Keeping holds allowed) :
    (Outcome.sending environment message failed sent).Keeping holds allowed := by
  constructor
  · rw [Outcome.sending_item]
    split
    · exact second.holds
    · exact first.holds
  · rw [Outcome.speaks_sending]
    split
    · exact ⟨fine, second.speaks⟩
    · exact first.speaks

theorem silent {item : Item} (held : holds item) :
    Outcome.Keeping holds allowed (⟨item, []⟩ : Outcome Item Report) :=
  ⟨held, by simp⟩

end Outcome.Keeping

namespace GroundStation.DownloadWorkItem
variable {Header Item Ack : Type} {protocol : ListProtocol Header Item Ack}
  {list : ItemList Header Item} {sender : Sender}

/-- The item speaks for this sender. -/
abbrev Speaking (protocol : ListProtocol Header Item Ack) (sender : Sender)
    (list : ItemList Header Item) (outcome : After Header Item) : Prop :=
  outcome.Keeping (fun item => item.sender = sender) (SentBy protocol sender list)

variable {item : DownloadWorkItem Header Item} (environment : Environment)

private theorem speaking_callbackAndReset (result : Result) (own : item.sender = sender) :
    Speaking protocol sender list (item.callbackAndReset result) := by
  refine ⟨own, ?_⟩
  cases callback : item.callback <;> simp [callbackAndReset, callback, Effect.sent]

private theorem speaking_connectionError (own : item.sender = sender) :
    Speaking protocol sender list item.connectionError :=
  (speaking_callbackAndReset _ own).after (by simp)

private theorem speaking_requestList (own : item.sender = sender) :
    Speaking protocol sender list (item.requestList protocol environment) := by
  subst own
  exact .sending environment .request (speaking_connectionError rfl) (.silent rfl)

private theorem speaking_requestItem (own : item.sender = sender) :
    Speaking protocol sender list (item.requestItem protocol environment) := by
  subst own
  exact .sending environment (.read _) (speaking_connectionError rfl) (.silent rfl)

private theorem speaking_sendAckAndFinish (own : item.sender = sender) :
    Speaking protocol sender list (item.sendAckAndFinish protocol environment) := by
  subst own
  exact .sending environment (.ack _) (speaking_callbackAndReset _ rfl)
    (speaking_callbackAndReset _ rfl)

private theorem speaking_handle (call : Call) (own : item.sender = sender) :
    Speaking protocol sender list ((workItemClass protocol).handle call environment item) := by
  cases call with
  | start =>
    apply Outcome.Keeping.after
    · exact speaking_requestList environment own
    · simp
  | cancel =>
    subst own
    apply Outcome.Keeping.after
    · exact .sending environment (.ack _) (speaking_callbackAndReset _ rfl)
        (speaking_callbackAndReset _ rfl)
    · simp
  | processTimeout =>
    simp only [workItemClass, processTimeout]
    split
    · exact speaking_callbackAndReset _ own
    · cases item.step with
      | requestList =>
        apply Outcome.Keeping.after
        · exact speaking_requestList environment own
        · simp
      | requestItem =>
        apply Outcome.Keeping.after
        · exact speaking_requestItem environment own
        · simp
  | processMessage message =>
    simp only [workItemClass, processMessage]
    split
    · simp only [processCount]
      split
      · exact (speaking_sendAckAndFinish environment own).followedBy (by simp)
      · apply Outcome.Keeping.after
        · exact speaking_requestItem environment own
        · simp
    · simp only [processItem]
      split
      · apply Outcome.Keeping.after
        · exact speaking_sendAckAndFinish environment own
        · simp
      · apply Outcome.Keeping.after
        · exact speaking_requestItem environment own
        · simp
    · exact .silent own

theorem keeps_sender (sender : Sender) (list : ItemList Header Item) :
    (workItemClass protocol).Keeps (fun item => item.sender = sender)
      (SentBy protocol sender list) := by
  intro call environment item own
  have speaking : Speaking protocol sender list
      ((workItemClass protocol).handle call environment item) :=
    speaking_handle environment call own
  exact ⟨speaking.holds, speaking.speaks⟩

end GroundStation.DownloadWorkItem

namespace RoboticVehicle.DownloadWorkItem
variable {list : WaypointList} {sender : Sender} {item : DownloadWorkItem}
  (environment : Environment)

abbrev Speaking (sender : Sender) (list : WaypointList) (outcome : After) : Prop :=
  outcome.Keeping (fun item => item.sender = sender) (SentBy inspection sender list)

private theorem speaking_callbackAndReset (result : Result) (own : item.sender = sender) :
    Speaking sender list (item.callbackAndReset result) := by
  refine ⟨own, ?_⟩
  cases callback : item.callback <;> simp [callbackAndReset, callback, Effect.sent]

private theorem speaking_requestItem (own : item.sender = sender) :
    Speaking sender list (item.requestItem environment) := by
  subst own
  exact .sending environment (.read _) ((speaking_callbackAndReset _ rfl).after (by simp))
    (.silent rfl)

private theorem speaking_handle (call : Call) (own : item.sender = sender) :
    Speaking sender list (workItemClass.handle call environment item) := by
  cases call with
  | start =>
    simp only [workItemClass, start]
    split
    · exact speaking_callbackAndReset _ own
    · apply Outcome.Keeping.after
      · exact speaking_requestItem environment own
      · simp
  | cancel =>
    subst own
    apply Outcome.Keeping.after
    · exact .sending environment (.ack _) (speaking_callbackAndReset _ rfl)
        (speaking_callbackAndReset _ rfl)
    · simp
  | processTimeout =>
    simp only [workItemClass, processTimeout]
    split
    · exact speaking_callbackAndReset _ own
    · apply Outcome.Keeping.after
      · exact speaking_requestItem environment own
      · simp
  | processMessage message =>
    simp only [workItemClass, processMessage]
    split
    · simp only [processItem]
      split
      · apply Outcome.Keeping.after
        · exact speaking_callbackAndReset _ own
        · simp
      · apply Outcome.Keeping.after
        · exact speaking_requestItem environment own
        · simp
    · exact .silent own

theorem keeps_sender (sender : Sender) (list : WaypointList) :
    workItemClass.Keeps (fun item => item.sender = sender) (SentBy inspection sender list) := by
  intro call environment item own
  have speaking : Speaking sender list (workItemClass.handle call environment item) :=
    speaking_handle environment call own
  exact ⟨speaking.holds, speaking.speaks⟩

end RoboticVehicle.DownloadWorkItem

namespace UploadWorkItem
variable {Header Item Ack : Type} {protocol : ListProtocol Header Item Ack}
  {list : ItemList Header Item} {sender : Sender} {item : UploadWorkItem Header Item Ack}
  (environment : Environment)

structure For (sender : Sender) (list : ItemList Header Item)
    (item : UploadWorkItem Header Item Ack) : Prop where
  own : item.sender = sender
  list : item.list = list

abbrev Speaking (protocol : ListProtocol Header Item Ack) (sender : Sender)
    (list : ItemList Header Item) (outcome : After Header Item Ack) : Prop :=
  outcome.Keeping (For sender list) (SentBy protocol sender list)

private theorem speaking_callbackAndReset (result : Result) (own : item.For sender list) :
    Speaking protocol sender list (item.callbackAndReset result) := by
  refine ⟨⟨own.own, own.list⟩, ?_⟩
  cases callback : item.callback <;> simp [callbackAndReset, callback, Effect.sent]

private theorem speaking_connectionError (own : item.For sender list) :
    Speaking protocol sender list item.connectionError :=
  (speaking_callbackAndReset _ own).after (by simp)

private theorem speaking_sendCount (own : item.For sender list) :
    Speaking protocol sender list (item.sendCount protocol environment) := by
  obtain ⟨rfl, rfl⟩ := own
  exact .sending environment (.count _) (speaking_connectionError ⟨rfl, rfl⟩) (.silent ⟨rfl, rfl⟩)

private theorem speaking_cancel (own : item.For sender list) :
    Speaking protocol sender list (item.cancel protocol environment) := by
  obtain ⟨rfl, rfl⟩ := own
  apply Outcome.Keeping.after
  · exact .sending environment (.ack _) (speaking_callbackAndReset _ ⟨rfl, rfl⟩)
      (speaking_callbackAndReset _ ⟨rfl, rfl⟩)
  · simp

private theorem speaking_sendItem (numbered : Numbered protocol list) (own : item.For sender list) :
    Speaking protocol sender list (item.sendItem protocol environment) := by
  obtain ⟨rfl, rfl⟩ := own
  simp only [sendItem]
  split
  · exact .silent ⟨rfl, rfl⟩
  next found present =>
    rw [numbered item.nextSequence found present]
    exact .sending environment (.item (List.mem_of_getElem? present))
      (speaking_connectionError ⟨rfl, rfl⟩) (.silent ⟨rfl, rfl⟩)

private theorem speaking_processMessage (message : Message) (numbered : Numbered protocol list)
    (own : item.For sender list) :
    Speaking protocol sender list (item.processMessage protocol environment message) := by
  simp only [processMessage]
  split
  · simp only [processRead]
    split
    · exact .silent ⟨own.own, own.list⟩
    split
    · apply Outcome.Keeping.after
      · exact speaking_callbackAndReset _ ⟨own.own, own.list⟩
      · simp
    · apply Outcome.Keeping.after
      · exact speaking_sendItem environment numbered ⟨own.own, own.list⟩
      · simp
  · apply Outcome.Keeping.after
    · exact speaking_callbackAndReset _ ⟨own.own, own.list⟩
    · simp
  · exact .silent own

end UploadWorkItem

theorem GroundStation.UploadWorkItem.keeps_sender {list : WaypointList} (sender : Sender)
    (numbered : Numbered inspection list) :
    workItemClass.Keeps (UploadWorkItem.For sender list) (SentBy inspection sender list) := by
  intro call environment item own
  have speaking : UploadWorkItem.Speaking inspection sender list
      (workItemClass.handle call environment item) := by
    cases call with
    | start =>
      simp only [workItemClass, start]
      split
      · apply Outcome.Keeping.after
        · exact UploadWorkItem.speaking_sendCount environment ⟨own.own, own.list⟩
        · simp
      · exact UploadWorkItem.speaking_callbackAndReset _ ⟨own.own, own.list⟩
    | cancel => exact UploadWorkItem.speaking_cancel environment own
    | processTimeout =>
      simp only [workItemClass, processTimeout]
      split
      · exact UploadWorkItem.speaking_callbackAndReset _ own
      · split
        · apply Outcome.Keeping.after
          · exact UploadWorkItem.speaking_sendCount environment ⟨own.own, own.list⟩
          · simp
        · exact UploadWorkItem.speaking_callbackAndReset _ own
    | processMessage message =>
      exact UploadWorkItem.speaking_processMessage environment message numbered own
  exact ⟨speaking.holds, speaking.speaks⟩

namespace RoboticVehicle.UploadWorkItem
variable {Header Item Ack : Type} {protocol : ListProtocol Header Item Ack}
  {list : ItemList Header Item}

theorem keeps_sender (sender : Sender) (numbered : Numbered protocol list) :
    (workItemClass protocol).Keeps (UploadWorkItem.For sender list)
      (SentBy protocol sender list) := by
  intro call environment item own
  have speaking : UploadWorkItem.Speaking protocol sender list
      ((workItemClass protocol).handle call environment item) := by
    cases call with
    | start =>
      apply Outcome.Keeping.after
      · split
        · exact UploadWorkItem.speaking_sendCount environment ⟨own.own, own.list⟩
        split
        · exact UploadWorkItem.speaking_sendCount environment ⟨own.own, own.list⟩
        · exact UploadWorkItem.speaking_callbackAndReset _ ⟨own.own, own.list⟩
      · simp
    | cancel => exact UploadWorkItem.speaking_cancel environment own
    | processTimeout => exact UploadWorkItem.speaking_callbackAndReset _ own
    | processMessage message =>
      exact UploadWorkItem.speaking_processMessage environment message numbered own
  exact ⟨speaking.holds, speaking.speaks⟩

end RoboticVehicle.UploadWorkItem

theorem WorkItemClass.Lived.keeps {State Report : Type} {workItemClass : WorkItemClass State Report}
    {holds : State → Prop} {allowed : Message → Prop} {life after : Life State} {event : LifeEvent}
    {effects : List (Effect Report)} (keeps : workItemClass.Keeps holds allowed)
    (lived : workItemClass.Lived life event after effects) (held : holds life.item) :
    holds after.item ∧ ∀ message ∈ effects.filterMap Effect.sent, allowed message := by
  cases lived with
  | @call call environment =>
    have called := keeps call environment life.item held
    exact ⟨called.1, called.2.filterMap⟩
  | select => exact ⟨held, by simp⟩
  | destroy => exact ⟨held, by simp [Effect.sent]⟩

namespace Vehicle

/-- Its plugin has this list, and whatever it does it does under this sender. -/
structure SpeaksFor (sender : Sender) (list : InspectionBase.WaypointList) (vehicle : Vehicle) :
    Prop where
  own : vehicle.sender = sender
  plugin : vehicle.plugin.list = list
  upload : ∀ life ∈ vehicle.upload, life.item.For sender (toIntList list)
  download : ∀ life ∈ vehicle.download, life.item.sender = sender

variable {sender : Sender} {list : InspectionBase.WaypointList} {vehicle after : Vehicle}

private theorem speaksFor_accept {message : Message} {plugin : InspectionRoboticVehicleImpl}
    (same : plugin.list = list) (requests : List InspectionRoboticVehicleImpl.Effect)
    (justified : ∀ request ∈ requests, plugin.Justified message request)
    (speaksFor : vehicle.SpeaksFor sender list) :
    (requests.foldl accept vehicle).SpeaksFor sender list := by
  induction requests generalizing vehicle with
  | nil => exact speaksFor
  | cons request requests ih =>
    apply ih (fun other member => justified other (by simp [member]))
    have first := justified request (by simp)
    cases request with
    | uploadItems uploaded =>
      refine ⟨speaksFor.own, speaksFor.plugin, ?_, speaksFor.download⟩
      intro life created
      cases created
      refine ⟨speaksFor.own, ?_⟩
      simp only [RoboticVehicle.UploadWorkItem.create, first.2, same]
    | downloadItems count planId =>
      refine ⟨speaksFor.own, speaksFor.plugin, speaksFor.upload, ?_⟩
      intro life created
      cases created
      exact speaksFor.own
    | uploadCallback | downloadCallback | setCurrentCallback =>
      exact ⟨speaksFor.own, speaksFor.plugin, speaksFor.upload, speaksFor.download⟩

theorem speaksFor_step {event : Event} {outputs : List Output}
    (speaksFor : vehicle.SpeaksFor sender list)
    (legal : vehicle.step event = some (after, outputs)) :
    after.SpeaksFor sender list ∧ ∀ message ∈ outputs.filterMap Output.sent,
      SentBy inspection sender (toIntList list) message := by
  have uploading := RoboticVehicle.UploadWorkItem.keeps_sender sender (numbered_toIntList list)
  have downloading := RoboticVehicle.DownloadWorkItem.keeps_sender sender (toIntList list)
  cases stepped legal with
  | receive uploaded downloaded =>
    have uploads := uploaded.keeps uploading speaksFor.upload
    have downloads := downloaded.keeps downloading speaksFor.download
    constructor
    · apply speaksFor_accept speaksFor.plugin _
        InspectionRoboticVehicleImpl.justified_processMessage
      exact ⟨speaksFor.own,
        InspectionRoboticVehicleImpl.list_processMessage.trans speaksFor.plugin, uploads.1,
        downloads.1⟩
    · intro sent member
      simp only [List.filterMap_append, sent_uploadOutput, sent_downloadOutput, sent_pluginOutput,
        List.mem_append, List.not_mem_nil, or_false] at member
      rcases member with member | member
      · exact uploads.2 sent member
      · exact downloads.2 sent member
  | upload advanced =>
    have uploads := advanced.keeps uploading speaksFor.upload
    rw [sent_uploadOutput]
    exact ⟨⟨speaksFor.own, speaksFor.plugin, uploads.1, speaksFor.download⟩, uploads.2⟩
  | download advanced =>
    have downloads := advanced.keeps downloading speaksFor.download
    rw [sent_downloadOutput]
    exact ⟨⟨speaksFor.own, speaksFor.plugin, speaksFor.upload, downloads.1⟩, downloads.2⟩
  | @sendDownloadAck type sent =>
    refine ⟨speaksFor, ?_⟩
    cases sent with
    | false => simp
    | true =>
      intro message member
      rw [speaksFor.own] at member
      cases List.mem_singleton.mp member
      exact .ack type

end Vehicle
end PilotingMavsdk
