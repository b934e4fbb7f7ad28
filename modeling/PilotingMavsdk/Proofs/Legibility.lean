import PilotingMavsdk.Proofs.PayloadRoundTrip
import PilotingMavsdk.Proofs.Senders
import PilotingMavsdk.UdpWire

/-! When a message may be carried as it is. A text that fills its field is read on beyond it; where
all texts are shorter, a handler decodes what has been packed, whatever lies in memory. -/

namespace PilotingMavsdk
open Library

/-- However it is packed, and whatever lies behind the structure, a handler decodes the message as
it was. -/
def Message.Legible (message : Message) : Prop :=
  ∀ (memory : PackMemory) (behind : Bytes), (message.packed memory).decode behind = some message

theorem Message.legible {message : Message} (fits : message.payload.Fits message.target) :
    message.Legible := by
  intro memory behind
  let posting : Posting := ⟨message, memory.behind, memory.buffer, memory.status, fits,
    memory.second⟩
  exact posting.decode_eq posting.sending.frame_finalized behind

/-- The texts of the list have room in its messages. -/
structure ItemList.Fits {Header Item Ack : Type} (protocol : ListProtocol Header Item Ack)
    (list : ItemList Header Item) : Prop where
  count : ∀ target count, (protocol.payload (.count list.header count)).Fits target
  item : ∀ target, ∀ item ∈ list.items, (protocol.payload (.item item)).Fits target

theorem fits_checklist {items : List ChecklistItem}
    (room : ∀ item ∈ items, (Layout.text 20).Fits item.name ∧
      (Layout.text 231).Fits item.description) : ItemList.Fits checklist ⟨(), items⟩ := by
  constructor
  · intro target count
    exact ⟨trivial, trivial, trivial⟩
  · intro target item member
    exact ⟨trivial, ⟨trivial, trivial⟩, room item member⟩

theorem fits_alarm {items : List AlarmItem}
    (room : ∀ item ∈ items, (Layout.text 20).Fits item.name ∧
      (Layout.text 231).Fits item.description) : ItemList.Fits alarm ⟨(), items⟩ := by
  constructor
  · intro target count
    exact ⟨trivial, trivial, trivial⟩
  · intro target item member
    exact ⟨trivial, ⟨trivial, trivial⟩, room item member⟩

theorem fits_hlAction {items : List HLActionItem}
    (room : ∀ item ∈ items, (Layout.text 20).Fits item.name ∧
      (Layout.text 229).Fits item.description) : ItemList.Fits hlAction ⟨(), items⟩ := by
  constructor
  · intro target count
    exact ⟨trivial, trivial, trivial⟩
  · intro target item member
    exact ⟨trivial, trivial, ⟨trivial, trivial⟩, room item member⟩

private theorem fits_inspection {list : WaypointList}
    (plan : (Layout.text 37).Fits list.header.planUuid)
    (room : ∀ item ∈ list.items, (Layout.text 37).Fits item.taskUuid ∧
      (Layout.text 37).Fits item.taskTypeUuid) : list.Fits inspection := by
  constructor
  · intro target count
    exact ⟨trivial, trivial, ⟨trivial, trivial⟩, plan⟩
  · intro target item member
    obtain ⟨task, type⟩ := room item member
    exact ⟨trivial, trivial, trivial, trivial, trivial, trivial, trivial, trivial, trivial,
      ⟨trivial, trivial⟩, task, type, trivial⟩

/-- The texts of the user's list hold no zero and are shorter than their fields. -/
def InspectionBase.WaypointList.HasRoom (list : InspectionBase.WaypointList) : Prop :=
  (Layout.text 37).Fits list.header.planUuid ∧ ∀ item ∈ list.items,
    (Layout.text 37).Fits item.taskUuid ∧ (Layout.text 37).Fits item.taskTypeUuid

instance (list : InspectionBase.WaypointList) : Decidable list.HasRoom :=
  inferInstanceAs (Decidable (_ ∧ _))

theorem InspectionBase.WaypointList.HasRoom.fits {list : InspectionBase.WaypointList}
    (room : list.HasRoom) : (toIntList list).Fits inspection := by
  apply fits_inspection room.1
  intro item member
  have original : item.toWaypointItem ∈ list.items := by
    rw [← map_toIntList list]
    exact List.mem_map_of_mem member
  exact room.2 _ original

/-- The other messages have no texts. -/
structure ListProtocol.Bare {Header Item Ack : Type} (protocol : ListProtocol Header Item Ack) :
    Prop where
  request : ∀ target, (protocol.payload .request).Fits target
  read : ∀ target seq, (protocol.payload (.read seq)).Fits target
  ack : ∀ target type, (protocol.payload (.ack type)).Fits target

theorem bare_inspection : inspection.Bare :=
  ⟨fun _ => trivial, fun _ _ => trivial, fun _ _ => trivial⟩

theorem bare_checklist : checklist.Bare :=
  ⟨fun _ => trivial, fun _ _ => trivial, fun _ _ => trivial⟩

theorem bare_alarm : alarm.Bare := ⟨fun _ => trivial, fun _ _ => trivial, fun _ _ => trivial⟩

theorem bare_hlAction : hlAction.Bare := ⟨fun _ => trivial, fun _ _ => trivial, fun _ _ => trivial⟩

section
variable {Header Item Ack : Type} {protocol : ListProtocol Header Item Ack} {sender : Sender}
  {list : ItemList Header Item} {message : Message}

theorem SentBy.fits (bare : protocol.Bare) (room : list.Fits protocol)
    (sent : SentBy protocol sender list message) :
    message.source = sender.ownAddress ∧ message.payload.Fits message.target := by
  obtain ⟨content, rfl, about⟩ := sent
  refine ⟨rfl, ?_⟩
  cases content with
  | request => exact bare.request _
  | read seq => exact bare.read _ seq
  | ack type => exact bare.ack _ type
  | count header count =>
    cases about
    exact room.count _ count
  | item found => exact room.item _ found about

theorem SentBy.legible (bare : protocol.Bare) (room : list.Fits protocol)
    (sent : SentBy protocol sender list message) : message.Legible :=
  Message.legible (sent.fits bare room).2

end
end PilotingMavsdk
