import PilotingMavsdk.Proofs.Turns

/-! The script of a download without faults, and that both sides keep to it: the ground station's
item with any of the four protocols, and the vehicle's two kinds of plugin. -/

namespace PilotingMavsdk
open Library

section
variable {Header Item Ack Told : Type}

/-- The REQUEST is under way at `requested`, READ at `reading` and ITEM at `sending`, the count at
`counted` and the acknowledgement at `acknowledged`. -/
inductive DownloadStage where
  | created
  | requested
  | accepted
  | counted
  | reading (place : Nat)
  | sending (place : Nat)
  | acknowledged
  | finished

/-- What differs from one download to the next, with the reports to both users at its end. -/
structure DownloadPlan (Header Item Ack Told : Type) where
  protocol : ListProtocol Header Item Ack
  ground : Sender
  vehicle : Sender
  list : ItemList Header Item
  groundTold : Told
  vehicleTold : Told
  inhabited : list.items ≠ []
  fits : list.items.length < 65536
  indexed : Indexed protocol.position list.items

namespace DownloadPlan
variable (plan : DownloadPlan Header Item Ack Told)

def request : Message := plan.ground.pack (plan.protocol.payload .request)

def count : Message :=
  plan.vehicle.pack (plan.protocol.payload
    (.count plan.list.header (UInt16.ofNat plan.list.items.length)))

def read (place : Nat) : Message :=
  plan.ground.pack (plan.protocol.payload (.read (UInt16.ofNat place)))

def item (found : Item) : Message := plan.vehicle.pack (plan.protocol.payload (.item found))

def ack : Message := plan.ground.pack (plan.protocol.payload (.ack plan.protocol.accepted))

def turn : DownloadStage → Option (Turn DownloadStage Message Told)
  | .created => some ⟨.first, none, some plan.request, [], .requested⟩
  | .requested => some ⟨.second, some plan.request, none, [], .accepted⟩
  | .accepted => some ⟨.second, none, some plan.count, [], .counted⟩
  | .counted => some ⟨.first, some plan.count, some (plan.read 0), [], .reading 0⟩
  | .reading place =>
    match plan.list.items[place]? with
    | some found =>
      some ⟨.second, some (plan.read place), some (plan.item found), [], .sending place⟩
    | none => none
  | .sending place =>
    match plan.list.items[place]? with
    | some found =>
      if place + 1 = plan.list.items.length then
        some ⟨.first, some (plan.item found), some plan.ack, [plan.groundTold], .acknowledged⟩
      else
        some ⟨.first, some (plan.item found), some (plan.read (place + 1)), [],
          .reading (place + 1)⟩
    | none => none
  | .acknowledged => some ⟨.second, some plan.ack, none, [plan.vehicleTold], .finished⟩
  | .finished => none

def rank : DownloadStage → Nat
  | .created => 2 * plan.list.items.length + 5
  | .requested => 2 * plan.list.items.length + 4
  | .accepted => 2 * plan.list.items.length + 3
  | .counted => 2 * plan.list.items.length + 2
  | .reading place => 2 * (plan.list.items.length - place) + 1
  | .sending place => 2 * (plan.list.items.length - place)
  | .acknowledged => 1
  | .finished => 0

def told : DownloadStage → List Told
  | .acknowledged => [plan.groundTold]
  | .finished => [plan.groundTold, plan.vehicleTold]
  | _ => []

inductive Going : DownloadStage → Turn DownloadStage Message Told → Prop where
  | created : Going .created ⟨.first, none, some plan.request, [], .requested⟩
  | requested : Going .requested ⟨.second, some plan.request, none, [], .accepted⟩
  | accepted : Going .accepted ⟨.second, none, some plan.count, [], .counted⟩
  | counted : Going .counted ⟨.first, some plan.count, some (plan.read 0), [], .reading 0⟩
  | reading {place : Nat} {found : Item} (present : plan.list.items[place]? = some found) :
      Going (.reading place)
        ⟨.second, some (plan.read place), some (plan.item found), [], .sending place⟩
  | last {place : Nat} {found : Item} (present : plan.list.items[place]? = some found)
      (last : place + 1 = plan.list.items.length) :
      Going (.sending place)
        ⟨.first, some (plan.item found), some plan.ack, [plan.groundTold], .acknowledged⟩
  | sending {place : Nat} {found : Item} (present : plan.list.items[place]? = some found)
      (more : place + 1 ≠ plan.list.items.length) :
      Going (.sending place)
        ⟨.first, some (plan.item found), some (plan.read (place + 1)), [], .reading (place + 1)⟩
  | acknowledged :
      Going .acknowledged ⟨.second, some plan.ack, none, [plan.vehicleTold], .finished⟩

variable {plan}

theorem going {stage : DownloadStage} {turn : Turn DownloadStage Message Told}
    (turned : plan.turn stage = some turn) : plan.Going stage turn := by
  cases stage with
  | created => cases turned; exact .created
  | requested => cases turned; exact .requested
  | accepted => cases turned; exact .accepted
  | counted => cases turned; exact .counted
  | reading place =>
    simp only [DownloadPlan.turn] at turned
    split at turned
    next found present => cases turned; exact .reading present
    · cases turned
  | sending place =>
    simp only [DownloadPlan.turn] at turned
    split at turned
    next found present =>
      split at turned
      next last => cases turned; exact .last present last
      next more => cases turned; exact .sending present more
    · cases turned
  | acknowledged => cases turned; exact .acknowledged
  | finished => cases turned

theorem inside {place : Nat} {found : Item} (present : plan.list.items[place]? = some found) :
    place < plan.list.items.length :=
  (List.getElem?_eq_some_iff.mp present).1

theorem linked {stage : DownloadStage} {turn : Turn DownloadStage Message Told}
    (going : plan.Going stage turn) : turn.Linked (plan.turn turn.next) := by
  cases going with
  | created | requested | accepted | acknowledged => simp [DownloadPlan.turn, Turn.Linked]
  | counted =>
    have positive := List.length_pos_iff.mpr plan.inhabited
    simp [DownloadPlan.turn, Turn.Linked, List.getElem?_eq_getElem positive]
  | @reading place found present =>
    by_cases last : place + 1 = plan.list.items.length
    · simp [DownloadPlan.turn, Turn.Linked, present, last]
    · simp [DownloadPlan.turn, Turn.Linked, present, last]
  | last => simp [DownloadPlan.turn, Turn.Linked]
  | @sending place found present more =>
    have bound := inside present
    have following : place + 1 < plan.list.items.length := by omega
    simp [DownloadPlan.turn, Turn.Linked, List.getElem?_eq_getElem following]

variable (plan)

def script : Script DownloadStage Message Told where
  turn := plan.turn
  rank := plan.rank
  told := plan.told
  rank_next {stage turn} turned := by
    cases going turned with
    | created | requested | accepted | acknowledged => simp [rank]
    | counted => simp [rank]
    | reading => simp [rank]
    | last present last =>
      have bound := inside present
      simp only [rank]
      omega
    | sending present more =>
      have bound := inside present
      simp only [rank]
      omega
  told_next {stage turn} turned := by
    cases going turned <;> rfl
  heard_next turned := linked (going turned)

def groundAt : DownloadStage → Option (Life (GroundStation.DownloadWorkItem Header Item)) → Prop
  | .created =>
    WorkItemClass.Holds (· = GroundStation.DownloadWorkItem.create plan.protocol plan.ground true)
  | .requested | .accepted | .counted =>
    WorkItemClass.Holds (GroundStation.DownloadWorkItem.Requesting plan.protocol plan.ground)
  | .reading place | .sending place => fun life => place < plan.list.items.length ∧
    WorkItemClass.Holds
      (GroundStation.DownloadWorkItem.Reading plan.protocol plan.ground plan.list place) life
  | .acknowledged | .finished =>
    (GroundStation.DownloadWorkItem.workItemClass plan.protocol).Ended

variable {plan}

theorem ground_keeps {tell : GroundStation.DownloadWorkItem.Report Header Item → Told}
    (ending : tell (.success, plan.list) = plan.groundTold) :
    ((GroundStation.DownloadWorkItem.workItemClass plan.protocol).party tell).Keeps .first
      plan.script plan.groundAt WorkItemClass.weight where
  act {stage life act after sent reports} here acted := by
    obtain ⟨effects, advanced, rfl, rfl⟩ := WorkItemClass.party_act acted
    cases stage with
    | created =>
      obtain ⟨held, sent, heard⟩ := advanced.does_start here rfl
        (fun cookie => GroundStation.DownloadWorkItem.does_start rfl)
      left
      exact ⟨_, rfl, rfl, rfl, held, sent, by rw [heard]; rfl⟩
    | requested | accepted | counted =>
      exact absurd advanced (WorkItemClass.Advanced.not_running here
        fun item requesting => ⟨requesting.started, requesting.running⟩)
    | reading place | sending place =>
      exact absurd advanced (WorkItemClass.Advanced.not_running here.2
        fun item reading => ⟨reading.started, reading.running⟩)
    | acknowledged | finished =>
      obtain ⟨rfl, sent, heard, lighter⟩ := advanced.of_ended here
      right
      exact ⟨by simp [groundAt, WorkItemClass.Ended], sent, by simp [heard], lighter⟩
  hear {stage life turn message choice after sent reports} here turned mine hearing heard := by
    obtain ⟨effects, delivered, rfl, rfl⟩ := WorkItemClass.party_hear heard
    cases going turned with
    | created => cases hearing
    | requested | accepted | reading | acknowledged => cases mine
    | counted =>
      cases hearing
      obtain ⟨held, sent, heard⟩ := delivered.does here fun item requesting =>
        GroundStation.DownloadWorkItem.does_count rfl requesting plan.inhabited plan.fits rfl
      exact ⟨⟨List.length_pos_iff.mpr plan.inhabited, held⟩, sent, by simp [heard]⟩
    | last present last =>
      cases hearing
      obtain ⟨held, sent, heard⟩ := delivered.does here.2 fun item reading =>
        GroundStation.DownloadWorkItem.does_last rfl reading present last rfl
      exact ⟨WorkItemClass.Ended.of_holds held, sent, by simp [heard, ending]⟩
    | sending present more =>
      cases hearing
      obtain ⟨held, sent, heard⟩ := delivered.does here.2 fun item reading =>
        GroundStation.DownloadWorkItem.does_item rfl reading present
          (plan.indexed _ _ present) more rfl
      have bound := inside present
      exact ⟨⟨by omega, held⟩, sent, by simp [heard]⟩
  wait {stage life turn} here turned other := by
    cases going turned with
    | created | counted | last | sending => exact absurd rfl other
    | requested | accepted | reading | acknowledged => exact here
  can_act {stage life turn} here turned mine own := by
    cases going turned with
    | created =>
      obtain ⟨cookie, possible⟩ : ∃ cookie,
          ((GroundStation.DownloadWorkItem.workItemClass plan.protocol).advance
            (ItemAct.start cookie).event life).isSome = true := WorkItemClass.can_start here rfl
      exact ⟨.start cookie, WorkItemClass.party_can_act possible⟩
    | accepted => cases mine
    | requested | counted | reading | last | sending | acknowledged => cases own
  can_hear {stage life turn message} here turned mine hearing := by
    cases going turned with
    | created | accepted => cases hearing
    | requested | reading | acknowledged => cases mine
    | counted =>
      obtain ⟨cookie, possible⟩ := WorkItemClass.can_deliver message here
      exact ⟨cookie, WorkItemClass.party_can_hear possible⟩
    | last | sending =>
      obtain ⟨cookie, possible⟩ := WorkItemClass.can_deliver message here.2
      exact ⟨cookie, WorkItemClass.party_can_hear possible⟩
  light := WorkItemClass.weight_le

end DownloadPlan
end
end PilotingMavsdk
