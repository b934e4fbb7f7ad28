import PilotingMavsdk.Proofs.HoldingVehicle

/-! The script of an inspection upload without faults, and that both sides keep to it. The vehicle
is told of the list before its user answers, and only then does the ground station's upload end. -/

namespace PilotingMavsdk
open Library

/-- READ is under way at `reading` and ITEM at `sending`, the count at `counted` and the
acknowledgement at `acknowledged`. -/
inductive UploadStage where
  | created
  | counted
  | accepted
  | reading (place : Nat)
  | sending (place : Nat)
  | received
  | acknowledged
  | finished

/-- What differs from one upload to the next, with the reports to both users at its end. -/
structure UploadPlan (Told : Type) where
  ground : Sender
  vehicle : Sender
  list : WaypointList
  groundTold : Told
  vehicleTold : Told
  inhabited : list.items ≠ []
  fits : list.items.length < 65536
  indexed : Indexed inspection.position list.items

namespace UploadPlan
variable {Told : Type} (plan : UploadPlan Told)

def count : Message :=
  plan.ground.pack (inspection.payload
    (.count plan.list.header (UInt16.ofNat plan.list.items.length)))

def read (place : Nat) : Message :=
  plan.vehicle.pack (inspection.payload (.read (UInt16.ofNat place)))

def item (found : WaypointItem) : Message := plan.ground.pack (inspection.payload (.item found))

def ack : Message := plan.vehicle.pack (inspection.payload (.ack inspection.accepted))

def turn : UploadStage → Option (Turn UploadStage Message Told)
  | .created => some ⟨.first, none, some plan.count, [], .counted⟩
  | .counted => some ⟨.second, some plan.count, none, [], .accepted⟩
  | .accepted => some ⟨.second, none, some (plan.read 0), [], .reading 0⟩
  | .reading place =>
    match plan.list.items[place]? with
    | some found =>
      some ⟨.first, some (plan.read place), some (plan.item found), [], .sending place⟩
    | none => none
  | .sending place =>
    match plan.list.items[place]? with
    | some found =>
      if place + 1 = plan.list.items.length then
        some ⟨.second, some (plan.item found), none, [plan.vehicleTold], .received⟩
      else
        some ⟨.second, some (plan.item found), some (plan.read (place + 1)), [],
          .reading (place + 1)⟩
    | none => none
  | .received => some ⟨.second, none, some plan.ack, [], .acknowledged⟩
  | .acknowledged => some ⟨.first, some plan.ack, none, [plan.groundTold], .finished⟩
  | .finished => none

def rank : UploadStage → Nat
  | .created => 2 * plan.list.items.length + 5
  | .counted => 2 * plan.list.items.length + 4
  | .accepted => 2 * plan.list.items.length + 3
  | .reading place => 2 * (plan.list.items.length - place) + 2
  | .sending place => 2 * (plan.list.items.length - place) + 1
  | .received => 2
  | .acknowledged => 1
  | .finished => 0

def told : UploadStage → List Told
  | .received | .acknowledged => [plan.vehicleTold]
  | .finished => [plan.vehicleTold, plan.groundTold]
  | _ => []

inductive Going : UploadStage → Turn UploadStage Message Told → Prop where
  | created : Going .created ⟨.first, none, some plan.count, [], .counted⟩
  | counted : Going .counted ⟨.second, some plan.count, none, [], .accepted⟩
  | accepted : Going .accepted ⟨.second, none, some (plan.read 0), [], .reading 0⟩
  | reading {place : Nat} {found : WaypointItem} (present : plan.list.items[place]? = some found) :
      Going (.reading place)
        ⟨.first, some (plan.read place), some (plan.item found), [], .sending place⟩
  | last {place : Nat} {found : WaypointItem} (present : plan.list.items[place]? = some found)
      (last : place + 1 = plan.list.items.length) :
      Going (.sending place)
        ⟨.second, some (plan.item found), none, [plan.vehicleTold], .received⟩
  | sending {place : Nat} {found : WaypointItem} (present : plan.list.items[place]? = some found)
      (more : place + 1 ≠ plan.list.items.length) :
      Going (.sending place)
        ⟨.second, some (plan.item found), some (plan.read (place + 1)), [], .reading (place + 1)⟩
  | received : Going .received ⟨.second, none, some plan.ack, [], .acknowledged⟩
  | acknowledged :
      Going .acknowledged ⟨.first, some plan.ack, none, [plan.groundTold], .finished⟩

variable {plan}

theorem going {stage : UploadStage} {turn : Turn UploadStage Message Told}
    (turned : plan.turn stage = some turn) : plan.Going stage turn := by
  cases stage with
  | created => cases turned; exact .created
  | counted => cases turned; exact .counted
  | accepted => cases turned; exact .accepted
  | reading place =>
    simp only [UploadPlan.turn] at turned
    split at turned
    next found present => cases turned; exact .reading present
    · cases turned
  | sending place =>
    simp only [UploadPlan.turn] at turned
    split at turned
    next found present =>
      split at turned
      next last => cases turned; exact .last present last
      next more => cases turned; exact .sending present more
    · cases turned
  | received => cases turned; exact .received
  | acknowledged => cases turned; exact .acknowledged
  | finished => cases turned

theorem inside {place : Nat} {found : WaypointItem}
    (present : plan.list.items[place]? = some found) : place < plan.list.items.length :=
  (List.getElem?_eq_some_iff.mp present).1

theorem linked {stage : UploadStage} {turn : Turn UploadStage Message Told}
    (going : plan.Going stage turn) : turn.Linked (plan.turn turn.next) := by
  cases going with
  | created | counted | received | acknowledged => simp [UploadPlan.turn, Turn.Linked]
  | accepted =>
    have positive := List.length_pos_iff.mpr plan.inhabited
    simp [UploadPlan.turn, Turn.Linked, List.getElem?_eq_getElem positive]
  | @reading place found present =>
    by_cases last : place + 1 = plan.list.items.length
    · simp [UploadPlan.turn, Turn.Linked, present, last]
    · simp [UploadPlan.turn, Turn.Linked, present, last]
  | last => simp [UploadPlan.turn, Turn.Linked]
  | @sending place found present more =>
    have bound := inside present
    have following : place + 1 < plan.list.items.length := by omega
    simp [UploadPlan.turn, Turn.Linked, List.getElem?_eq_getElem following]

variable (plan)

def script : Script UploadStage Message Told where
  turn := plan.turn
  rank := plan.rank
  told := plan.told
  rank_next {stage turn} turned := by
    cases going turned with
    | created | counted | accepted | received | acknowledged => simp [rank]
    | reading => simp [rank]
    | last present last =>
      have bound := inside present
      simp only [rank]
      omega
    | sending present more =>
      have bound := inside present
      simp only [rank]
      omega
  told_next {stage turn} turned := by
    cases going turned <;> rfl
  heard_next turned := linked (going turned)

theorem numbered : Numbered inspection plan.list := numbered_of_indexed plan.indexed

def groundAt : UploadStage → Option (Life (UploadWorkItem PlanId WaypointItem InspectionAck)) → Prop
  | .created =>
    WorkItemClass.Holds (· = GroundStation.UploadWorkItem.create plan.ground plan.list true)
  | .counted | .accepted =>
    WorkItemClass.Holds (UploadWorkItem.Serving inspection plan.ground plan.list 0)
  | .reading place => fun life => place < plan.list.items.length ∧
    WorkItemClass.Holds (UploadWorkItem.Serving inspection plan.ground plan.list place) life
  | .sending place => fun life => place < plan.list.items.length ∧
    WorkItemClass.Holds (UploadWorkItem.Serving inspection plan.ground plan.list (place + 1)) life
  | .received | .acknowledged => WorkItemClass.Holds
    (UploadWorkItem.Serving inspection plan.ground plan.list plan.list.items.length)
  | .finished => GroundStation.UploadWorkItem.workItemClass.Ended

variable {plan}

theorem ground_keeps {tell : UploadWorkItem.Report InspectionAck → Told}
    (ending : tell (.success, .accepted) = plan.groundTold) :
    (GroundStation.UploadWorkItem.workItemClass.party tell).Keeps .first plan.script plan.groundAt
      WorkItemClass.weight where
  act {stage life act after sent reports} here acted := by
    obtain ⟨effects, advanced, rfl, rfl⟩ := WorkItemClass.party_act acted
    cases stage with
    | created =>
      obtain ⟨held, sent, heard⟩ := advanced.does_start here rfl
        fun cookie => GroundStation.UploadWorkItem.does_start rfl
          ((inspection.sequenceValid_iff _).mpr plan.indexed)
      left
      exact ⟨_, rfl, rfl, rfl, held, sent, by rw [heard]; rfl⟩
    | counted | accepted | received | acknowledged =>
      exact absurd advanced (WorkItemClass.Advanced.not_running here
        fun item serving => ⟨serving.started, serving.running⟩)
    | reading place | sending place =>
      exact absurd advanced (WorkItemClass.Advanced.not_running here.2
        fun item serving => ⟨serving.started, serving.running⟩)
    | finished =>
      obtain ⟨rfl, sent, heard, lighter⟩ := advanced.of_ended here
      right
      exact ⟨by simp [groundAt, WorkItemClass.Ended], sent, by simp [heard], lighter⟩
  hear {stage life turn message choice after sent reports} here turned mine hearing heard := by
    obtain ⟨effects, delivered, rfl, rfl⟩ := WorkItemClass.party_hear heard
    cases going turned with
    | created => cases hearing
    | counted | accepted | last | sending | received => cases mine
    | reading present =>
      cases hearing
      have fits := plan.fits
      have bound := here.1
      obtain ⟨held, sent, heard⟩ := delivered.does here.2 fun item serving =>
        UploadWorkItem.does_read rfl serving present plan.numbered (by omega) rfl
      exact ⟨⟨bound, held⟩, sent, by simp [heard]⟩
    | acknowledged =>
      cases hearing
      obtain ⟨held, sent, heard⟩ := delivered.does here fun item serving =>
        UploadWorkItem.does_ack serving rfl
      exact ⟨WorkItemClass.Ended.of_holds held, sent, by simp [heard, ← ending]; rfl⟩
  wait {stage life turn} here turned other := by
    cases going turned with
    | created | reading | acknowledged => exact absurd rfl other
    | counted | received => exact here
    | accepted => exact ⟨List.length_pos_iff.mpr plan.inhabited, here⟩
    | last present last =>
      simp only [groundAt, last] at here ⊢
      exact here.2
    | sending present more =>
      have bound := inside present
      exact ⟨by omega, here.2⟩
  can_act {stage life turn} here turned mine own := by
    cases going turned with
    | created =>
      obtain ⟨cookie, possible⟩ : ∃ cookie,
          (GroundStation.UploadWorkItem.workItemClass.advance
            (ItemAct.start cookie).event life).isSome = true := WorkItemClass.can_start here rfl
      exact ⟨.start cookie, WorkItemClass.party_can_act possible⟩
    | accepted | received => cases mine
    | counted | reading | last | sending | acknowledged => cases own
  can_hear {stage life turn message} here turned mine hearing := by
    cases going turned with
    | created | accepted | received => cases hearing
    | counted | last | sending => cases mine
    | reading =>
      obtain ⟨cookie, possible⟩ := WorkItemClass.can_deliver message here.2
      exact ⟨cookie, WorkItemClass.party_can_hear possible⟩
    | acknowledged =>
      obtain ⟨cookie, possible⟩ := WorkItemClass.can_deliver message here
      exact ⟨cookie, WorkItemClass.party_can_hear possible⟩
  light := WorkItemClass.weight_le

variable (plan)

def downloadAt : UploadStage → Option (Life RoboticVehicle.DownloadWorkItem) → Prop
  | .created | .counted => fun life => life = none
  | .accepted => WorkItemClass.Holds (· = RoboticVehicle.DownloadWorkItem.create plan.vehicle
    (UInt16.ofNat plan.list.items.length) true)
  | .reading place | .sending place =>
    WorkItemClass.Holds (RoboticVehicle.DownloadWorkItem.Reading plan.vehicle plan.list place)
  | .received | .acknowledged | .finished => RoboticVehicle.DownloadWorkItem.workItemClass.Ended

def owed : UploadStage → Nat
  | .received => 1
  | _ => 0

variable {plan} {life after : Option (Life RoboticVehicle.DownloadWorkItem)}
  {effects : List (Effect RoboticVehicle.DownloadWorkItem.Report)} {stage : UploadStage}
  {turn : Turn UploadStage Message Told}

private theorem download_act (here : plan.downloadAt stage life) {act : ItemAct}
    (advanced : RoboticVehicle.DownloadWorkItem.workItemClass.Advanced act.event life after
      effects) :
    effects.filterMap Effect.reported = [] ∧
    ((stage = .accepted ∧ plan.downloadAt (.reading 0) after ∧
        effects.filterMap Effect.sent = [plan.read 0]) ∨
      (plan.downloadAt stage after ∧ effects.filterMap Effect.sent = [] ∧
        WorkItemClass.weight after < WorkItemClass.weight life)) := by
  cases stage with
  | created | counted => exact absurd here advanced.present
  | accepted =>
    obtain ⟨held, sent, heard⟩ := advanced.does_start here rfl
      fun cookie => RoboticVehicle.DownloadWorkItem.does_start rfl plan.inhabited plan.fits
    exact ⟨heard, .inl ⟨rfl, held, sent⟩⟩
  | reading place | sending place =>
    exact absurd advanced (WorkItemClass.Advanced.not_running here
      fun item reading => ⟨reading.started, reading.running⟩)
  | received | acknowledged | finished =>
    obtain ⟨rfl, sent, heard, lighter⟩ := advanced.of_ended here
    exact ⟨heard, .inr ⟨by simp [downloadAt, WorkItemClass.Ended], sent, lighter⟩⟩

private theorem download_wait (here : plan.downloadAt stage life) (going : plan.Going stage turn)
    (other : turn.side ≠ .second) :
    plan.downloadAt turn.next life ∧ owed turn.next = owed stage := by
  cases going with
  | created | reading | acknowledged => exact ⟨here, rfl⟩
  | counted | accepted | last | sending | received => exact absurd rfl other

private theorem download_can_hear (here : plan.downloadAt stage life)
    (going : plan.Going stage turn)
    {message : Message} (mine : turn.side = .second) (hearing : turn.heard = some message) :
    ∃ cookie, (RoboticVehicle.DownloadWorkItem.workItemClass.deliver message ⟨true, cookie⟩
      life).isSome = true := by
  cases going with
  | created | reading | acknowledged => cases mine
  | accepted | received => cases hearing
  | counted =>
    subst here
    exact ⟨0, rfl⟩
  | last | sending => exact WorkItemClass.can_deliver message here

private theorem download_hear (here : plan.downloadAt stage life) (going : plan.Going stage turn)
    {message : Message} {cookie : Cookie} (mine : turn.side = .second)
    (hearing : turn.heard = some message)
    (delivered : RoboticVehicle.DownloadWorkItem.workItemClass.Delivered message ⟨true, cookie⟩
      life after effects) :
    (turn = ⟨.second, some plan.count, none, [], .accepted⟩ ∧ stage = .counted ∧ after = none ∧
      effects = []) ∨
    (∃ place found, stage = .sending place ∧ message.payload = inspection.payload (.item found) ∧
      plan.downloadAt turn.next after ∧ effects.filterMap Effect.sent = turn.said.toList ∧
      ((turn.told = [] ∧ owed turn.next = 0 ∧ effects.filterMap Effect.reported = []) ∨
        (turn.told = [plan.vehicleTold] ∧ owed turn.next = 1 ∧
          effects.filterMap Effect.reported = [(.success, ⟨{}, plan.list.items⟩)]))) := by
  cases going with
  | created | reading | acknowledged => cases mine
  | accepted | received => cases hearing
  | counted =>
    subst here
    cases delivered
    exact .inl ⟨rfl, rfl, rfl, rfl⟩
  | last present last =>
    cases hearing
    obtain ⟨held, sent, heard⟩ := delivered.does here fun item reading =>
      RoboticVehicle.DownloadWorkItem.does_last reading present last rfl
    exact .inr ⟨_, _, rfl, rfl, WorkItemClass.Ended.of_holds held, sent,
      .inr ⟨rfl, rfl, heard⟩⟩
  | sending present more =>
    cases hearing
    obtain ⟨held, sent, heard⟩ := delivered.does here fun item reading =>
      RoboticVehicle.DownloadWorkItem.does_item rfl reading present
        (plan.indexed _ _ present) more rfl
    exact .inr ⟨_, _, rfl, rfl, held, sent, .inl ⟨rfl, rfl, heard⟩⟩

end UploadPlan

namespace InspectionVehicle
variable {Remote : Type}

/-- The plan identity of the COUNT is kept with the callback as soon as there is a download. -/
structure Expecting (plan : UploadPlan (Remote ⊕ Vehicle.Output)) (stage : UploadStage)
    (system : InspectionVehicle) : Prop where
  sender : system.vehicle.sender = plan.vehicle
  registered : inspection.id .count ∈ system.vehicle.plugin.handlers
  callback : system.vehicle.plugin.downloadCallback = true
  transfer : system.vehicle.plugin.transfer = true
  last : system.vehicle.plugin.lastDownload = system.vehicle.download.isSome
  planId : stage ≠ .created → stage ≠ .counted → system.vehicle.planId = plan.list.header
  upload : system.vehicle.upload = none
  download : plan.downloadAt stage system.vehicle.download
  unanswered : system.unanswered = UploadPlan.owed stage

theorem expecting_keeps {plan : UploadPlan (Remote ⊕ Vehicle.Output)}
    (ending : plan.vehicleTold = .inr (.downloadCallback .success
      ⟨plan.list.header, plan.list.items.map WaypointItem.toWaypointItem⟩)) :
    (party Remote).Keeps .second plan.script (Expecting plan)
      (fun system => WorkItemClass.weight system.vehicle.download) where
  act {stage system act after sent reports} here acted := by
    obtain ⟨outputs, moved, rfl⟩ := party_act acted
    cases moved with
    | upload advanced => exact absurd here.upload advanced.present
    | @download act download effects advanced =>
      obtain ⟨heard, moved⟩ := UploadPlan.download_act here.download advanced
      have unheard : (effects.filterMap system.vehicle.downloadOutput).filterMap told = [] := by
        rw [told_downloadOutput here.callback, heard]
        rfl
      rw [← received_told, unheard]
      rcases moved with ⟨rfl, arrived, said⟩ | ⟨stays, said, lighter⟩
      · left
        refine ⟨_, rfl, rfl, rfl, ?_, said, rfl⟩
        exact ⟨here.sender, here.registered, here.callback, here.transfer, rfl,
          fun _ _ => here.planId (by simp) (by simp), here.upload, arrived, here.unanswered⟩
      · right
        refine ⟨?_, said, rfl, lighter⟩
        exact ⟨here.sender, here.registered, here.callback, here.transfer, rfl, here.planId,
          here.upload, stays, here.unanswered⟩
    | @answer unanswered waiting =>
      have owing := here.unanswered
      rw [waiting] at owing
      cases stage with
      | received =>
        cases owing
        left
        refine ⟨_, rfl, rfl, rfl, ?_, ?_, rfl⟩
        · exact ⟨here.sender, here.registered, here.callback, here.transfer, here.last,
            fun _ _ => here.planId (by simp) (by simp), here.upload, here.download, rfl⟩
        · rw [here.sender]
          rfl
      | created | counted | accepted | reading | sending | acknowledged | finished => cases owing
  hear {stage system turn message choice after sent reports} here turned mine hearing heard := by
    obtain ⟨upload, download, first, second, uploading, downloading, rfl, rfl, rfl⟩ :=
      party_hear heard
    obtain ⟨rfl, rfl⟩ := uploading.nothing here.upload
    rcases UploadPlan.download_hear here.download (UploadPlan.going turned) mine hearing
      downloading with ⟨rfl, rfl, rfl, rfl⟩ | ⟨place, found, rfl, payload, arrived, said, told⟩
    · cases hearing
      have idle : system.vehicle.plugin.lastDownload = false := by
        rw [here.last, ← downloading.isSome]
        rfl
      rw [InspectionRoboticVehicleImpl.processMessage_count here.registered here.callback idle
        here.transfer rfl]
      refine ⟨?_, rfl, rfl⟩
      refine ⟨here.sender, here.registered, here.callback, here.transfer, rfl, fun _ _ => rfl, rfl,
        ?_, here.unanswered⟩
      refine ⟨_, rfl, rfl, ?_⟩
      simp only [here.sender]
    · rw [InspectionRoboticVehicleImpl.processMessage_other payload (by simp)
        (by simp [ListMessage.kind])]
      have planId : system.vehicle.planId = plan.list.header := here.planId (by simp) (by simp)
      have settled : system.unanswered = 0 := here.unanswered
      simp only [List.filterMap_nil, List.append_nil, List.nil_append, List.foldl_nil,
        ← received_told (second.filterMap system.vehicle.downloadOutput),
        told_downloadOutput here.callback]
      refine ⟨?_, said, ?_⟩
      · refine ⟨here.sender, here.registered, here.callback, here.transfer,
          here.last.trans downloading.isSome.symm, fun _ _ => planId, rfl, arrived, ?_⟩
        rcases told with ⟨_, owing, heard⟩ | ⟨_, owing, heard⟩
        · simp [owing, heard, settled]
        · simp [owing, heard, settled, received, InspectionRoboticVehicleImpl.downloadReport,
            InspectionRoboticVehicleImpl.convertToResultAndWaypointList,
            InspectionRoboticVehicleImpl.convertResult]
      · rcases told with ⟨nothing, _, heard⟩ | ⟨final, _, heard⟩
        · simp [nothing, heard]
        · simp [final, heard, ending, planId, InspectionRoboticVehicleImpl.downloadReport,
            InspectionRoboticVehicleImpl.convertToResultAndWaypointList,
            InspectionRoboticVehicleImpl.convertResult]
  wait {stage system turn} here turned other := by
    obtain ⟨download, owing⟩ :=
      UploadPlan.download_wait here.download (UploadPlan.going turned) other
    refine ⟨here.sender, here.registered, here.callback, here.transfer, here.last, ?_, here.upload,
      download, here.unanswered.trans owing.symm⟩
    cases UploadPlan.going turned with
    | created => exact fun _ counted => absurd rfl counted
    | reading | acknowledged => exact fun _ _ => here.planId (by simp) (by simp)
    | counted | accepted | last | sending | received => exact absurd rfl other
  can_act {stage system turn} here turned mine own := by
    cases UploadPlan.going turned with
    | accepted =>
      obtain ⟨cookie, possible⟩ : ∃ cookie,
          (RoboticVehicle.DownloadWorkItem.workItemClass.advance (ItemAct.start cookie).event
            system.vehicle.download).isSome = true := WorkItemClass.can_start here.download rfl
      obtain ⟨result, stepped⟩ := Option.isSome_iff_exists.mp possible
      exact ⟨.download (.start cookie), by simp [party, Vehicle.step, stepped]⟩
    | received =>
      have owing : system.unanswered = 1 := here.unanswered
      exact ⟨.answer, by simp [party, owing, Vehicle.step]⟩
    | created => cases mine
    | counted | reading | last | sending | acknowledged => cases own
  can_hear {stage system turn message} here turned mine hearing := by
    obtain ⟨cookie, possible⟩ :=
      UploadPlan.download_can_hear here.download (UploadPlan.going turned) mine hearing
    obtain ⟨result, stepped⟩ := Option.isSome_iff_exists.mp possible
    exact ⟨cookie, by simp [party, Vehicle.step, stepped, here.upload]⟩
  light system := WorkItemClass.weight_le system.vehicle.download

end InspectionVehicle
end PilotingMavsdk
