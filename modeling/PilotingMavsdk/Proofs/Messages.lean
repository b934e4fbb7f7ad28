import PilotingMavsdk.InspectionSystem
import PilotingMavsdk.Proofs.Life

/-! What an upload puts on the network, and what a download makes of it. An upload keeps its list
and sends nothing that is not in it; a download reports what it has stored. -/

namespace PilotingMavsdk
open Library

namespace Outcome
variable {Item Report : Type} {allowed : Message → Prop}

def Speaks (allowed : Message → Prop) (outcome : Outcome Item Report) : Prop :=
  ∀ effect ∈ outcome.effects, ∀ message ∈ effect.sent, allowed message

@[simp] theorem speaks_mk (item : Item) (effects : List (Effect Report)) :
    Speaks allowed ⟨item, effects⟩ ↔ ∀ effect ∈ effects, ∀ message ∈ effect.sent, allowed message :=
  Iff.rfl

@[simp] theorem speaks_after (effects : List (Effect Report)) (outcome : Outcome Item Report) :
    (outcome.after effects).Speaks allowed ↔
      (∀ effect ∈ effects, ∀ message ∈ effect.sent, allowed message) ∧ outcome.Speaks allowed := by
  simp [Speaks, or_imp, forall_and]

@[simp] theorem speaks_followedBy (effects : List (Effect Report))
    (outcome : Outcome Item Report) : (outcome.followedBy effects).Speaks allowed ↔
      outcome.Speaks allowed ∧ ∀ effect ∈ effects, ∀ message ∈ effect.sent, allowed message := by
  simp [Speaks, or_imp, forall_and]

@[simp] theorem speaks_sending (environment : Environment) (message : Message)
    (failed sent : Outcome Item Report) : (sending environment message failed sent).Speaks allowed ↔
      if environment.sent then allowed message ∧ sent.Speaks allowed
      else failed.Speaks allowed := by
  cases delivered : environment.sent <;> simp [sending, delivered, Effect.sent]

theorem Speaks.filterMap {outcome : Outcome Item Report} (speaks : outcome.Speaks allowed) :
    ∀ message ∈ outcome.effects.filterMap Effect.sent, allowed message := by
  intro message member
  obtain ⟨effect, inside, sent⟩ := List.mem_filterMap.mp member
  exact speaks effect inside message sent

end Outcome

section
variable {Header Item Ack : Type} (protocol : ListProtocol Header Item Ack)

/-- If the message is a COUNT or an ITEM, it is one of the list. -/
def Carries (list : ItemList Header Item) (message : Message) : Prop :=
  match protocol.decode message.payload with
  | some (.count header count) => header = list.header ∧ count.toNat = list.items.length
  | some (.item item) => item ∈ list.items
  | _ => True

def Numbered (list : ItemList Header Item) : Prop :=
  ∀ place item, list.items[place]? = some item →
    protocol.numbered (UInt16.ofNat place) item = item

variable {protocol}

theorem decode_of_dispatched {item : WorkItem} {message : Message}
    {content : ListMessage Header Item}
    (dispatched : protocol.dispatched item message = some content) :
    protocol.decode message.payload = some content := by
  unfold ListProtocol.dispatched at dispatched
  split at dispatched
  · exact dispatched
  · cases dispatched

theorem Carries.counted {list : ItemList Header Item} {item : WorkItem} {message : Message}
    {header : Header} {count : UInt16} (carries : Carries protocol list message)
    (dispatched : protocol.dispatched item message = some (.count header count)) :
    header = list.header ∧ count.toNat = list.items.length := by
  simpa [Carries, decode_of_dispatched dispatched] using carries

theorem Carries.item {list : ItemList Header Item} {item : WorkItem} {message : Message}
    {received : Item} (carries : Carries protocol list message)
    (dispatched : protocol.dispatched item message = some (.item received)) :
    received ∈ list.items := by
  simpa [Carries, decode_of_dispatched dispatched] using carries

end

namespace UploadWorkItem
variable {Header Item Ack : Type} {protocol : ListProtocol Header Item Ack}

@[simp] theorem speaks_callbackAndReset (allowed : Message → Prop) (result : Result)
    (item : UploadWorkItem Header Item Ack) :
    (item.callbackAndReset result).Speaks allowed := by
  cases callback : item.callback <;> simp [callbackAndReset, callback, Effect.sent]

@[simp] theorem speaks_connectionError (allowed : Message → Prop)
    (item : UploadWorkItem Header Item Ack) : item.connectionError.Speaks allowed := by
  simp [connectionError, Effect.sent]

private theorem list_sendCount (environment : Environment) (item : UploadWorkItem Header Item Ack) :
    (item.sendCount protocol environment).item.list = item.list := by
  rw [sendCount_item]
  split <;> rfl

private theorem list_sendItem (environment : Environment) (item : UploadWorkItem Header Item Ack) :
    (item.sendItem protocol environment).item.list = item.list := by
  simp only [sendItem]
  split
  · rfl
  · rw [Outcome.sending_item]
    split <;> rfl

theorem list_processMessage (environment : Environment) (message : Message)
    (item : UploadWorkItem Header Item Ack) :
    (item.processMessage protocol environment message).item.list = item.list := by
  simp only [processMessage]
  split
  · simp only [processRead]
    split
    · rfl
    · split
      · rfl
      · exact list_sendItem environment _
  · rfl
  · rfl

theorem speaks_sendCount (environment : Environment) {item : UploadWorkItem Header Item Ack}
    (fits : item.list.items.length < 65536) :
    (item.sendCount protocol environment).Speaks (Carries protocol item.list) := by
  have exact : item.list.items.length % 65536 = item.list.items.length := Nat.mod_eq_of_lt fits
  simp [sendCount, Carries, Sender.pack, protocol.decode_payload, exact]

theorem speaks_cancel (environment : Environment) (item : UploadWorkItem Header Item Ack) :
    (item.cancel protocol environment).Speaks (Carries protocol item.list) := by
  simp [cancel, sendCancelAndFinish, Carries, Sender.pack, protocol.decode_payload, Effect.sent]

private theorem speaks_sendItem (environment : Environment) {item : UploadWorkItem Header Item Ack}
    (numbered : Numbered protocol item.list) :
    (item.sendItem protocol environment).Speaks (Carries protocol item.list) := by
  simp only [sendItem]
  split
  · simp
  next found present =>
    have unchanged := numbered item.nextSequence found present
    have inside : found ∈ item.list.items := List.mem_of_getElem? present
    simp [Carries, Sender.pack, protocol.decode_payload, unchanged, inside]

theorem speaks_processMessage (environment : Environment) (message : Message)
    {item : UploadWorkItem Header Item Ack} (numbered : Numbered protocol item.list) :
    (item.processMessage protocol environment message).Speaks (Carries protocol item.list) := by
  simp only [processMessage]
  split
  next seq =>
    simp only [processRead]
    split
    · simp
    split
    · simp [Effect.sent]
    · refine (Outcome.speaks_after _ _).mpr ⟨by simp [Effect.sent], ?_⟩
      exact speaks_sendItem environment numbered
  · simp [processAck, Effect.sent]
  · simp

end UploadWorkItem

namespace RoboticVehicle.UploadWorkItem
variable {Header Item Ack : Type} {protocol : ListProtocol Header Item Ack}

theorem list_handle (call : Call) (environment : Environment)
    (item : UploadWorkItem Header Item Ack) :
    ((workItemClass protocol).handle call environment item).item.list = item.list := by
  cases call with
  | start =>
    simp only [workItemClass, start, Outcome.after_item]
    split
    · simp [UploadWorkItem.list_sendCount]
    · split <;> simp [UploadWorkItem.list_sendCount]
  | cancel => simp [workItemClass]
  | processTimeout => rfl
  | processMessage message => exact UploadWorkItem.list_processMessage environment message item

theorem speaks_handle (call : Call) (environment : Environment)
    {item : UploadWorkItem Header Item Ack} (fits : item.list.items.length < 65536)
    (numbered : Numbered protocol item.list) :
    ((workItemClass protocol).handle call environment item).Speaks
      (Carries protocol item.list) := by
  cases call with
  | start =>
    refine (Outcome.speaks_after _ _).mpr ⟨by simp [Effect.sent], ?_⟩
    split
    · exact UploadWorkItem.speaks_sendCount environment fits
    · split
      · exact UploadWorkItem.speaks_sendCount environment fits
      · exact UploadWorkItem.speaks_callbackAndReset _ _ _
  | cancel => exact UploadWorkItem.speaks_cancel environment item
  | processTimeout => exact UploadWorkItem.speaks_callbackAndReset _ _ _
  | processMessage message =>
    exact UploadWorkItem.speaks_processMessage environment message numbered

end RoboticVehicle.UploadWorkItem

namespace GroundStation.UploadWorkItem

theorem list_handle (call : Call) (environment : Environment)
    (item : UploadWorkItem PlanId WaypointItem InspectionAck) :
    (workItemClass.handle call environment item).item.list = item.list := by
  cases call with
  | start =>
    simp only [workItemClass, start]
    split <;> simp [UploadWorkItem.list_sendCount]
  | cancel => simp [workItemClass]
  | processTimeout =>
    simp only [workItemClass, processTimeout]
    split
    · rfl
    · cases item.step <;> simp [UploadWorkItem.list_sendCount]
  | processMessage message => exact UploadWorkItem.list_processMessage environment message item

end GroundStation.UploadWorkItem

section
variable {Item Report : Type} {told : Item → Report → Prop}

def Outcome.Reports (told : Item → Report → Prop) (outcome : Outcome Item Report) : Prop :=
  ∀ report, .callback report ∈ outcome.effects → told outcome.item report

@[simp] private theorem Outcome.reports_after_iff {effects : List (Effect Report)}
    {outcome : Outcome Item Report} (silent : ∀ report, .callback report ∉ effects) :
    (outcome.after effects).Reports told ↔ outcome.Reports told := by
  simp [Reports, silent]

private theorem Outcome.reports_sending {environment : Environment} {message : Message}
    {failed sent : Outcome Item Report} (first : failed.Reports told)
    (second : sent.Reports told) :
    (Outcome.sending environment message failed sent).Reports told := by
  refine (reports_after_iff (by simp)).mpr ?_
  split
  · exact second
  · exact first

end

def ListProtocol.arriving {Header Item Ack : Type} (protocol : ListProtocol Header Item Ack)
    (item : WorkItem) : Call → List Item
  | .processMessage message =>
    match protocol.dispatched item message with
    | some (.item received) => [received]
    | _ => []
  | _ => []

theorem ListProtocol.arriving_eq {Header Item Ack : Type} {protocol : ListProtocol Header Item Ack}
    {item : WorkItem} {call : Call} {received : Item}
    (member : received ∈ protocol.arriving item call) :
    protocol.arriving item call = [received] := by
  cases call with
  | start | cancel | processTimeout => cases member
  | processMessage message =>
    simp only [arriving] at member ⊢
    split at member
    · rw [List.mem_singleton.mp member]
    · cases member

theorem Carries.arriving {Header Item Ack : Type} {protocol : ListProtocol Header Item Ack}
    {list : ItemList Header Item} {item : WorkItem} {message : Message}
    (carries : Carries protocol list message) :
    ∀ received ∈ protocol.arriving item (.processMessage message), received ∈ list.items := by
  intro received member
  simp only [ListProtocol.arriving] at member
  split at member
  next dispatched =>
    rw [List.mem_singleton.mp member]
    exact carries.item dispatched
  · cases member

namespace GroundStation.DownloadWorkItem
variable {Header Item Ack : Type} {protocol : ListProtocol Header Item Ack}

def Told (item : DownloadWorkItem Header Item) (report : Report Header Item) : Prop :=
  item.done = true ∧ report.2 = item.list

private theorem reports_callbackAndReset (result : Result) (item : DownloadWorkItem Header Item) :
    (item.callbackAndReset result).Reports Told := by
  intro report reported
  cases callback : item.callback <;> simp_all [callbackAndReset, Told]

private theorem reports_connectionError (item : DownloadWorkItem Header Item) :
    item.connectionError.Reports Told :=
  (Outcome.reports_after_iff (by simp)).mpr (reports_callbackAndReset _ _)

private theorem reports_requestList (environment : Environment)
    (item : DownloadWorkItem Header Item) : (item.requestList protocol environment).Reports Told :=
  Outcome.reports_sending (reports_connectionError item) (by simp [Outcome.Reports])

private theorem reports_requestItem (environment : Environment)
    (item : DownloadWorkItem Header Item) : (item.requestItem protocol environment).Reports Told :=
  Outcome.reports_sending (reports_connectionError item) (by simp [Outcome.Reports])

theorem reports_handle (call : Call) (environment : Environment)
    (item : DownloadWorkItem Header Item) :
    ((workItemClass protocol).handle call environment item).Reports Told := by
  have finishing (first second : Result) (message : Message)
      (finished : DownloadWorkItem Header Item) : Outcome.Reports Told
        (.sending environment message (finished.callbackAndReset first)
          (finished.callbackAndReset second)) :=
    Outcome.reports_sending (reports_callbackAndReset _ _) (reports_callbackAndReset _ _)
  cases call with
  | start => exact (Outcome.reports_after_iff (by simp)).mpr (reports_requestList _ _)
  | cancel => exact (Outcome.reports_after_iff (by simp)).mpr (finishing _ _ _ _)
  | processTimeout =>
    simp only [workItemClass, processTimeout]
    split
    · exact reports_callbackAndReset _ _
    · cases item.step with
      | requestList => exact (Outcome.reports_after_iff (by simp)).mpr (reports_requestList _ _)
      | requestItem => exact (Outcome.reports_after_iff (by simp)).mpr (reports_requestItem _ _)
  | processMessage message =>
    simp only [workItemClass, processMessage]
    split
    · simp only [processCount]
      split
      · have acknowledged : (item.sendAckAndFinish protocol environment).Reports Told :=
          finishing _ _ _ _
        intro report reported
        exact acknowledged report (by simpa using reported)
      · exact (Outcome.reports_after_iff (by simp)).mpr (reports_requestItem _ _)
    · simp only [processItem]
      split
      · exact (Outcome.reports_after_iff (by simp)).mpr (finishing _ _ _ _)
      · exact (Outcome.reports_after_iff (by simp)).mpr (reports_requestItem _ _)
    · simp [Outcome.Reports]

theorem items_handle {call : Call} (environment : Environment) (running : call ≠ .start)
    (item : DownloadWorkItem Header Item) :
    ((workItemClass protocol).handle call environment item).item.list.items =
      item.list.items ++ protocol.arriving item.toWorkItem call := by
  cases call with
  | start => exact absurd rfl running
  | cancel => simp [workItemClass, ListProtocol.arriving]
  | processTimeout =>
    simp only [workItemClass, processTimeout, ListProtocol.arriving, List.append_nil]
    split
    · rfl
    · cases item.step with
      | requestList => rw [Outcome.after_item, requestList_item]; split <;> rfl
      | requestItem => rw [Outcome.after_item, requestItem_item]; split <;> rfl
  | processMessage message =>
    simp only [workItemClass, processMessage, ListProtocol.arriving]
    split
    next counted =>
      simp only [counted, processCount, List.append_nil]
      split
      · rw [Outcome.followedBy_item, sendAckAndFinish_item]
      · rw [Outcome.after_item, requestItem_item]
        split <;> rfl
    next arrived =>
      simp only [arrived, processItem]
      split
      · rw [Outcome.after_item, sendAckAndFinish_item]
      · rw [Outcome.after_item, requestItem_item]
        split <;> rfl
    next others => cases received : protocol.dispatched item.toWorkItem message <;> simp_all

end GroundStation.DownloadWorkItem

namespace RoboticVehicle.DownloadWorkItem

def Told (item : DownloadWorkItem) (report : Report) : Prop :=
  item.done = true ∧ report.2 = item.list

private theorem reports_callbackAndReset (result : Result) (item : DownloadWorkItem) :
    (item.callbackAndReset result).Reports Told := by
  intro report reported
  cases callback : item.callback <;> simp_all [callbackAndReset, Told]

private theorem reports_requestItem (environment : Environment) (item : DownloadWorkItem) :
    (item.requestItem environment).Reports Told := by
  refine Outcome.reports_sending ?_ (by simp [Outcome.Reports])
  exact (Outcome.reports_after_iff (by simp)).mpr (reports_callbackAndReset _ _)

theorem reports_handle (call : Call) (environment : Environment) (item : DownloadWorkItem) :
    (workItemClass.handle call environment item).Reports Told := by
  cases call with
  | start =>
    simp only [workItemClass, start]
    split
    · exact reports_callbackAndReset _ _
    · exact (Outcome.reports_after_iff (by simp)).mpr (reports_requestItem _ _)
  | cancel =>
    refine (Outcome.reports_after_iff (by simp)).mpr ?_
    exact Outcome.reports_sending (reports_callbackAndReset _ _) (reports_callbackAndReset _ _)
  | processTimeout =>
    simp only [workItemClass, processTimeout]
    split
    · exact reports_callbackAndReset _ _
    · exact (Outcome.reports_after_iff (by simp)).mpr (reports_requestItem _ _)
  | processMessage message =>
    simp only [workItemClass, processMessage]
    split
    · simp only [processItem]
      split
      · exact (Outcome.reports_after_iff (by simp)).mpr (reports_callbackAndReset _ _)
      · exact (Outcome.reports_after_iff (by simp)).mpr (reports_requestItem _ _)
    · simp [Outcome.Reports]

theorem items_handle {call : Call} (environment : Environment) (running : call ≠ .start)
    (item : DownloadWorkItem) :
    (workItemClass.handle call environment item).item.list.items =
      item.list.items ++ inspection.arriving item.toWorkItem call := by
  cases call with
  | start => exact absurd rfl running
  | cancel => simp [workItemClass, ListProtocol.arriving]
  | processTimeout =>
    simp only [workItemClass, processTimeout, ListProtocol.arriving, List.append_nil]
    split
    · rfl
    · rw [Outcome.after_item, requestItem_item]
      split <;> rfl
  | processMessage message =>
    simp only [workItemClass, processMessage, ListProtocol.arriving]
    split
    next arrived =>
      simp only [arrived, processItem]
      split
      · rfl
      · rw [Outcome.after_item, requestItem_item]
        split <;> rfl
    next others => cases received : inspection.dispatched item.toWorkItem message <;> simp_all

end RoboticVehicle.DownloadWorkItem
end PilotingMavsdk
