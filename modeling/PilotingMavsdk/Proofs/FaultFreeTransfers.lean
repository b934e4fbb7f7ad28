import PilotingMavsdk.Proofs.FaultFreeUpload

/-! Transfers without faults end, and both users are told of the whole list and of nothing else:
every run of the two sides keeps to the script. -/

namespace PilotingMavsdk
open Library

namespace DownloadPlan
variable {Header Item Ack Told : Type} {plan : DownloadPlan Header Item Ack Told}

theorem ended {Second : Type} {AtSecond : DownloadStage → Second → Prop} {stage : DownloadStage}
    {link : Link (Option (Life (GroundStation.DownloadWorkItem Header Item))) Second Message}
    (there : OnScript plan.script plan.groundAt AtSecond stage link)
    (finished : plan.script.turn stage = none) :
    plan.script.told stage = [plan.groundTold, plan.vehicleTold] := by
  cases stage with
  | created | requested | accepted | counted | acknowledged => cases finished
  | reading place =>
    have present := List.getElem?_eq_getElem there.first.1
    simp [script, DownloadPlan.turn, present] at finished
  | sending place =>
    have present := List.getElem?_eq_getElem there.first.1
    simp only [script, DownloadPlan.turn, present] at finished
    split at finished <;> cases finished
  | finished => rfl

end DownloadPlan

theorem UploadPlan.ended {Told Second : Type} {plan : UploadPlan Told}
    {AtSecond : UploadStage → Second → Prop} {stage : UploadStage}
    {link : Link (Option (Life (UploadWorkItem PlanId WaypointItem InspectionAck))) Second Message}
    (there : OnScript plan.script plan.groundAt AtSecond stage link)
    (finished : plan.script.turn stage = none) :
    plan.script.told stage = [plan.vehicleTold, plan.groundTold] := by
  cases stage with
  | created | counted | accepted | received | acknowledged => cases finished
  | reading place =>
    have present := List.getElem?_eq_getElem there.first.1
    simp [script, UploadPlan.turn, present] at finished
  | sending place =>
    have present := List.getElem?_eq_getElem there.first.1
    simp only [script, UploadPlan.turn, present] at finished
    split at finished <;> cases finished
  | finished => rfl

section
variable {Item Told : Type} {protocol : ListProtocol Unit Item ListAck}

theorem ListVehicle.completes
    {tell : GroundStation.DownloadWorkItem.Report Unit Item → Told ⊕ UserReport}
    (ground vehicle : Sender) (plugin : ListRoboticVehicleImpl Item) {items : List Item}
    (inhabited : items ≠ []) (fits : items.length ≤ 65535)
    (indexed : Indexed protocol.position items)
    (accepted : protocol.toAck protocol.accepted = .accepted) :
    Link.Completes ((GroundStation.DownloadWorkItem.workItemClass protocol).party tell)
      (party protocol Told)
      { first := some { item := GroundStation.DownloadWorkItem.create protocol ground true }
        second := holding protocol vehicle plugin items }
      [tell (.success, ⟨(), items⟩), .inr (.success, .accepted)] := by
  let plan : DownloadPlan Unit Item ListAck (Told ⊕ UserReport) :=
    { protocol := protocol
      ground := ground
      vehicle := vehicle
      list := ⟨(), items⟩
      groundTold := tell (.success, ⟨(), items⟩)
      vehicleTold := .inr (.success, .accepted)
      inhabited := inhabited
      fits := by
        simp only
        omega
      indexed := indexed }
  have ending : plan.vehicleTold =
      .inr (convertToResultAndAck (.success, plan.protocol.toAck plan.protocol.accepted)) := by
    simp only [plan, convertToResultAndAck, accepted]
    rfl
  have start : OnScript plan.script plan.groundAt (At plan) .created
      { first := some { item := GroundStation.DownloadWorkItem.create protocol ground true }
        second := holding protocol vehicle plugin items } := by
    refine ⟨⟨_, rfl, rfl, rfl⟩, ?_, rfl, rfl⟩
    exact ⟨rfl, by simp [plan, holding, ListRoboticVehicleImpl.init], rfl, rfl, rfl, rfl, rfl⟩
  exact start.completes (DownloadPlan.ground_keeps rfl) (keeps ending) rfl DownloadPlan.ended

end

theorem toIntList_ne_nil {list : InspectionBase.WaypointList} (inhabited : list.items ≠ []) :
    (toIntList list).items ≠ [] := by
  intro empty
  have length := congrArg List.length empty
  rw [length_toIntList] at length
  exact inhabited (List.length_eq_zero_iff.mp length)

theorem convertToResultAndWaypointList_toIntList (list : InspectionBase.WaypointList) :
    InspectionImpl.convertToResultAndWaypointList .success (toIntList list) =
      (.success, list) := by
  have success : InspectionRoboticVehicleImpl.convertResult .success = .success := rfl
  simp only [InspectionImpl.convertToResultAndWaypointList,
    InspectionRoboticVehicleImpl.convertToResultAndWaypointList, success, if_true, map_toIntList]
  rfl

theorem InspectionVehicle.download_completes {Told : Type}
    {tell : GroundStation.DownloadWorkItem.Report PlanId WaypointItem → Told ⊕ Vehicle.Output}
    (ground vehicle : Sender) (plugin : InspectionRoboticVehicleImpl)
    {list : InspectionBase.WaypointList} (inhabited : list.items ≠ [])
    (fits : list.items.length ≤ 65535) :
    Link.Completes ((GroundStation.DownloadWorkItem.workItemClass inspection).party tell)
      (party Told)
      { first := some { item := GroundStation.DownloadWorkItem.create inspection ground true }
        second := holding vehicle plugin list }
      [tell (.success, toIntList list), .inr (.uploadCallback .success .accepted)] := by
  let plan : DownloadPlan PlanId WaypointItem InspectionAck (Told ⊕ Vehicle.Output) :=
    { protocol := inspection
      ground := ground
      vehicle := vehicle
      list := toIntList list
      groundTold := tell (.success, toIntList list)
      vehicleTold := .inr (.uploadCallback .success .accepted)
      inhabited := toIntList_ne_nil inhabited
      fits := by
        rw [length_toIntList]
        omega
      indexed := indexed_toIntList (by omega) }
  have start : OnScript plan.script plan.groundAt (At plan) .created
      { first := some { item := GroundStation.DownloadWorkItem.create inspection ground true }
        second := holding vehicle plugin list } := by
    refine ⟨⟨_, rfl, rfl, rfl⟩, ?_, rfl, rfl⟩
    exact ⟨rfl, by simp [holding, InspectionRoboticVehicleImpl.init], rfl, rfl, rfl, rfl, rfl, rfl,
      rfl⟩
  exact start.completes (DownloadPlan.ground_keeps rfl) (keeps rfl rfl) rfl DownloadPlan.ended

theorem InspectionVehicle.upload_completes {Told : Type}
    {tell : UploadWorkItem.Report InspectionAck → Told ⊕ Vehicle.Output}
    (ground vehicle : Sender) (plugin : InspectionRoboticVehicleImpl)
    {list : InspectionBase.WaypointList} (inhabited : list.items ≠ [])
    (fits : list.items.length ≤ 65535) :
    Link.Completes (GroundStation.UploadWorkItem.workItemClass.party tell) (party Told)
      { first := some { item := GroundStation.UploadWorkItem.create ground (toIntList list) true }
        second := expecting vehicle plugin }
      [.inr (.downloadCallback .success list), tell (.success, .accepted)] := by
  let plan : UploadPlan (Told ⊕ Vehicle.Output) :=
    { ground := ground
      vehicle := vehicle
      list := toIntList list
      groundTold := tell (.success, .accepted)
      vehicleTold := .inr (.downloadCallback .success list)
      inhabited := toIntList_ne_nil inhabited
      fits := by
        rw [length_toIntList]
        omega
      indexed := indexed_toIntList (by omega) }
  have ending : plan.vehicleTold = .inr (.downloadCallback .success
      ⟨plan.list.header, plan.list.items.map WaypointItem.toWaypointItem⟩) := by
    simp only [plan, map_toIntList]
    rfl
  have start : OnScript plan.script plan.groundAt (Expecting plan) .created
      { first := some { item := GroundStation.UploadWorkItem.create ground (toIntList list) true }
        second := expecting vehicle plugin } := by
    refine ⟨⟨_, rfl, rfl, rfl⟩, ?_, rfl, rfl⟩
    exact ⟨rfl, by simp [expecting, InspectionRoboticVehicleImpl.init], rfl, rfl, rfl,
      fun no => absurd rfl no, rfl, rfl, rfl⟩
  exact start.completes (UploadPlan.ground_keeps rfl) (expecting_keeps ending) rfl UploadPlan.ended

/-- Downloads of all four kinds and the upload of an inspection. The user numbers the items of
checklists, alarms and HL actions; those of an inspection are numbered by the plugin. -/
theorem transfers_exact (ground vehicle : Sender) :
    (∀ (plugin : ListRoboticVehicleImpl ChecklistItem) (items : List ChecklistItem),
      items ≠ [] → items.length ≤ 65535 → Indexed checklist.position items →
      Link.Completes (ChecklistImpl.downloadChecklistAsync.party ListVehicle.UserReport)
        (ListVehicle.party checklist _)
        { first := some { item := ChecklistImpl.downloadChecklistAsync.create ground () }
          second := ListVehicle.holding checklist vehicle plugin items }
        [.inl (.success, items), .inr (.success, .accepted)]) ∧
    (∀ (plugin : ListRoboticVehicleImpl AlarmItem) (items : List AlarmItem),
      items ≠ [] → items.length ≤ 65535 → Indexed alarm.position items →
      Link.Completes (AlarmImpl.downloadAlarmAsync.party ListVehicle.UserReport)
        (ListVehicle.party alarm _)
        { first := some { item := AlarmImpl.downloadAlarmAsync.create ground () }
          second := ListVehicle.holding alarm vehicle plugin items }
        [.inl (.success, items), .inr (.success, .accepted)]) ∧
    (∀ (plugin : ListRoboticVehicleImpl HLActionItem) (items : List HLActionItem),
      items ≠ [] → items.length ≤ 65535 → Indexed hlAction.position items →
      Link.Completes (HLActionImpl.downloadHLActionAsync.party ListVehicle.UserReport)
        (ListVehicle.party hlAction _)
        { first := some { item := HLActionImpl.downloadHLActionAsync.create ground () }
          second := ListVehicle.holding hlAction vehicle plugin items }
        [.inl (.success, items), .inr (.success, .accepted)]) ∧
    (∀ (plugin : InspectionRoboticVehicleImpl) (list : InspectionBase.WaypointList),
      list.items ≠ [] → list.items.length ≤ 65535 →
      Link.Completes (InspectionImpl.downloadInspectionAsync.party Vehicle.Output)
        (InspectionVehicle.party _)
        { first := some { item := InspectionImpl.downloadInspectionAsync.create ground () }
          second := InspectionVehicle.holding vehicle plugin list }
        [.inl (.success, list), .inr (.uploadCallback .success .accepted)]) ∧
    (∀ (plugin : InspectionRoboticVehicleImpl) (list : InspectionBase.WaypointList),
      list.items ≠ [] → list.items.length ≤ 65535 →
      Link.Completes (InspectionImpl.uploadInspectionAsync.party Vehicle.Output)
        (InspectionVehicle.party _)
        { first := some { item := InspectionImpl.uploadInspectionAsync.create ground list }
          second := InspectionVehicle.expecting vehicle plugin }
        [.inr (.downloadCallback .success list), .inl (.success, .accepted)]) := by
  refine ⟨?_, ?_, ?_, ?_, ?_⟩
  · intro plugin items inhabited fits indexed
    exact ListVehicle.completes ground vehicle plugin inhabited fits indexed rfl
  · intro plugin items inhabited fits indexed
    exact ListVehicle.completes ground vehicle plugin inhabited fits indexed rfl
  · intro plugin items inhabited fits indexed
    exact ListVehicle.completes ground vehicle plugin inhabited fits indexed rfl
  · intro plugin list inhabited fits
    have completes : Link.Completes
        (InspectionImpl.downloadInspectionAsync.party Vehicle.Output) (InspectionVehicle.party _)
        { first := some { item := InspectionImpl.downloadInspectionAsync.create ground () }
          second := InspectionVehicle.holding vehicle plugin list }
        [.inl (InspectionImpl.convertToResultAndWaypointList .success (toIntList list)),
          .inr (.uploadCallback .success .accepted)] :=
      InspectionVehicle.download_completes ground vehicle plugin inhabited fits
    rw [convertToResultAndWaypointList_toIntList] at completes
    exact completes
  · intro plugin list inhabited fits
    exact InspectionVehicle.upload_completes ground vehicle plugin inhabited fits

/-! Lists of two items, with texts. -/

def sampleChecks : List ChecklistItem := [⟨0, "propellers", "no cracks"⟩, ⟨1, "battery", "full"⟩]

def sampleAlarms : List AlarmItem := [⟨0, "battery", "low"⟩, ⟨1, "link", "lost"⟩]

def sampleActions : List HLActionItem := [⟨0, 1, "take off", "to 5 m"⟩, ⟨1, 2, "land", "at home"⟩]

def sampleTour : InspectionBase.WaypointList :=
  ⟨⟨"bridge", 7⟩, [{ taskUuid := "pier", taskTypeUuid := "photo", x := 1 },
    { taskUuid := "deck", taskTypeUuid := "contact", y := 2 }]⟩

theorem transfers_exact_two :
    Link.Completes (ChecklistImpl.downloadChecklistAsync.party ListVehicle.UserReport)
      (ListVehicle.party checklist _)
      { first := some { item := ChecklistImpl.downloadChecklistAsync.create ⟨⟨1, 0⟩, ⟨2, 0⟩⟩ () }
        second := ListVehicle.holding checklist ⟨⟨2, 0⟩, ⟨1, 0⟩⟩ { transfer := true }
          sampleChecks }
      [.inl (.success, sampleChecks), .inr (.success, .accepted)] ∧
    Link.Completes (AlarmImpl.downloadAlarmAsync.party ListVehicle.UserReport)
      (ListVehicle.party alarm _)
      { first := some { item := AlarmImpl.downloadAlarmAsync.create ⟨⟨1, 0⟩, ⟨2, 0⟩⟩ () }
        second := ListVehicle.holding alarm ⟨⟨2, 0⟩, ⟨1, 0⟩⟩ { transfer := true }
          sampleAlarms }
      [.inl (.success, sampleAlarms), .inr (.success, .accepted)] ∧
    Link.Completes (HLActionImpl.downloadHLActionAsync.party ListVehicle.UserReport)
      (ListVehicle.party hlAction _)
      { first := some { item := HLActionImpl.downloadHLActionAsync.create ⟨⟨1, 0⟩, ⟨2, 0⟩⟩ () }
        second := ListVehicle.holding hlAction ⟨⟨2, 0⟩, ⟨1, 0⟩⟩ { transfer := true }
          sampleActions }
      [.inl (.success, sampleActions), .inr (.success, .accepted)] ∧
    Link.Completes (InspectionImpl.downloadInspectionAsync.party Vehicle.Output)
      (InspectionVehicle.party _)
      { first := some { item := InspectionImpl.downloadInspectionAsync.create ⟨⟨1, 0⟩, ⟨2, 0⟩⟩ () }
        second := InspectionVehicle.holding ⟨⟨2, 0⟩, ⟨1, 0⟩⟩ { transfer := true } sampleTour }
      [.inl (.success, sampleTour), .inr (.uploadCallback .success .accepted)] ∧
    Link.Completes (InspectionImpl.uploadInspectionAsync.party Vehicle.Output)
      (InspectionVehicle.party _)
      { first := some {
          item := InspectionImpl.uploadInspectionAsync.create ⟨⟨1, 0⟩, ⟨2, 0⟩⟩ sampleTour }
        second := InspectionVehicle.expecting ⟨⟨2, 0⟩, ⟨1, 0⟩⟩ { transfer := true } }
      [.inr (.downloadCallback .success sampleTour), .inl (.success, .accepted)] := by
  obtain ⟨checklists, alarms, hlActions, downloads, uploads⟩ :=
    transfers_exact ⟨⟨1, 0⟩, ⟨2, 0⟩⟩ ⟨⟨2, 0⟩, ⟨1, 0⟩⟩
  refine ⟨?_, ?_, ?_, ?_, ?_⟩
  · exact checklists _ _ (List.cons_ne_nil _ _) (by decide) (.pair rfl rfl)
  · exact alarms _ _ (List.cons_ne_nil _ _) (by decide) (.pair rfl rfl)
  · exact hlActions _ _ (List.cons_ne_nil _ _) (by decide) (.pair rfl rfl)
  · exact downloads _ _ (List.cons_ne_nil _ _) (by decide)
  · exact uploads _ _ (List.cons_ne_nil _ _) (by decide)

end PilotingMavsdk
