import PilotingMavsdk.Proofs.FaultFreeTransfers
import PilotingMavsdk.Proofs.Legibility
import PilotingMavsdk.Proofs.UdpPorts

/-! Transfers without faults are exact over UDP as well, down to the bytes of the datagrams. -/

namespace PilotingMavsdk
open Library

theorem Message.packs {message : Message} (fits : message.payload.Fits message.target) :
    transferCodec.Packs message.source.systemId message := by
  intro memory
  let posting : Posting := ⟨message, memory.behind, memory.buffer, memory.status, fits,
    memory.second⟩
  refine ⟨posting.sending, rfl, rfl, ?_⟩
  intro received behind same
  exact posting.decode_eq same behind

namespace Joined
variable {ground vehicle : Sender} {node : Library.Side → UdpNode}
  {payload : Payload} {writer : Library.Side}

theorem fits_ground (joined : Joined ground vehicle node)
    (fits : payload.Fits ground.targetAddress) (other : writer ≠ .second) :
    joined.pair.Fits transferCodec writer (ground.pack payload) := by
  cases writer
  · exact Message.packs fits
  · cases other rfl

theorem fits_vehicle (joined : Joined ground vehicle node)
    (fits : payload.Fits vehicle.targetAddress) (other : writer ≠ .first) :
    joined.pair.Fits transferCodec writer (vehicle.pack payload) := by
  cases writer
  · cases other rfl
  · exact Message.packs fits

end Joined

section
variable {Header Item Ack Told : Type} {node : Library.Side → UdpNode}

private theorem DownloadPlan.script_fits (plan : DownloadPlan Header Item Ack Told)
    (joined : Joined plan.ground plan.vehicle node) (bare : plan.protocol.Bare)
    (room : plan.list.Fits plan.protocol) {stage : DownloadStage}
    {turn : Turn DownloadStage Message Told} {message : Message} {writer : Library.Side}
    (turned : plan.script.turn stage = some turn) (heard : turn.heard = some message)
    (opposite : writer ≠ turn.side) : joined.pair.Fits transferCodec writer message := by
  cases plan.going turned with
  | created | accepted => cases heard
  | requested => cases heard; exact joined.fits_ground (bare.request _) opposite
  | counted => cases heard; exact joined.fits_vehicle (room.count _ _) opposite
  | reading => cases heard; exact joined.fits_ground (bare.read _ _) opposite
  | last present | sending present =>
    cases heard
    exact joined.fits_vehicle (room.item _ _ (List.mem_of_getElem? present)) opposite
  | acknowledged => cases heard; exact joined.fits_ground (bare.ack _ _) opposite

private theorem UploadPlan.script_fits (plan : UploadPlan Told)
    (joined : Joined plan.ground plan.vehicle node) (room : plan.list.Fits inspection)
    {stage : UploadStage} {turn : Turn UploadStage Message Told} {message : Message}
    {writer : Library.Side} (turned : plan.script.turn stage = some turn)
    (heard : turn.heard = some message) (opposite : writer ≠ turn.side) :
    joined.pair.Fits transferCodec writer message := by
  cases plan.going turned with
  | created | accepted | received => cases heard
  | counted => cases heard; exact joined.fits_ground (room.count _ _) opposite
  | reading => cases heard; exact joined.fits_vehicle (bare_inspection.read _ _) opposite
  | last present | sending present =>
    cases heard
    exact joined.fits_ground (room.item _ _ (List.mem_of_getElem? present)) opposite
  | acknowledged => cases heard; exact joined.fits_vehicle (bare_inspection.ack _ _) opposite

end

section
variable {Item Told : Type} {protocol : ListProtocol Unit Item ListAck}
  {node : Library.Side → UdpNode} {ground vehicle : Sender}

private theorem ListVehicle.udp_completes
    {tell : GroundStation.DownloadWorkItem.Report Unit Item → Told ⊕ UserReport}
    (joined : Joined ground vehicle node) (bare : protocol.Bare)
    (plugin : ListRoboticVehicleImpl Item) {items : List Item} (inhabited : items ≠ [])
    (fits : items.length ≤ 65535) (indexed : Indexed protocol.position items)
    (room : ItemList.Fits protocol ⟨(), items⟩)
    (accepted : protocol.toAck protocol.accepted = .accepted) :
    Link.Completes
      (udpWire.party ((GroundStation.DownloadWorkItem.workItemClass protocol).party tell))
      (udpWire.party (party protocol Told))
      (udpLink ground vehicle node
        (some { item := GroundStation.DownloadWorkItem.create protocol ground true })
        (holding protocol vehicle plugin items))
      [tell (.success, ⟨(), items⟩), .inr (.success, .accepted)] := by
  let plan : DownloadPlan Unit Item ListAck (Told ⊕ UserReport) :=
    { protocol := protocol
      ground := ground
      vehicle := vehicle
      list := ⟨(), items⟩
      groundTold := tell (.success, ⟨(), items⟩)
      vehicleTold := .inr (.success, .accepted)
      inhabited := inhabited
      fits := by
        simp only
        omega
      indexed := indexed }
  have ending : plan.vehicleTold =
      .inr (convertToResultAndAck (.success, plan.protocol.toAck plan.protocol.accepted)) := by
    simp only [plan, convertToResultAndAck, accepted]
    rfl
  have start : OnScript plan.script plan.groundAt (At plan) .created
      { first := some { item := GroundStation.DownloadWorkItem.create protocol ground true }
        second := holding protocol vehicle plugin items } := by
    refine ⟨⟨_, rfl, rfl, rfl⟩, ?_, rfl, rfl⟩
    exact ⟨rfl, by simp [plan, holding, ListRoboticVehicleImpl.init], rfl, rfl, rfl, rfl, rfl⟩
  exact Wire.Covers.completes_script (joined.pair.faithful transferCodec) (DownloadPlan.ground_keeps rfl)
    (keeps ending) start (joined.covers _ _ _ _) (plan.script_fits joined bare room)
    (ListVehicle.completes ground vehicle plugin inhabited fits indexed accepted)

private theorem InspectionVehicle.udp_download_completes
    {tell : GroundStation.DownloadWorkItem.Report PlanId WaypointItem → Told ⊕ Vehicle.Output}
    (joined : Joined ground vehicle node) (plugin : InspectionRoboticVehicleImpl)
    {list : InspectionBase.WaypointList} (inhabited : list.items ≠ [])
    (fits : list.items.length ≤ 65535) (room : (toIntList list).Fits inspection) :
    Link.Completes
      (udpWire.party ((GroundStation.DownloadWorkItem.workItemClass inspection).party tell))
      (udpWire.party (party Told))
      (udpLink ground vehicle node
        (some { item := GroundStation.DownloadWorkItem.create inspection ground true })
        (holding vehicle plugin list))
      [tell (.success, toIntList list), .inr (.uploadCallback .success .accepted)] := by
  let plan : DownloadPlan PlanId WaypointItem InspectionAck (Told ⊕ Vehicle.Output) :=
    { protocol := inspection
      ground := ground
      vehicle := vehicle
      list := toIntList list
      groundTold := tell (.success, toIntList list)
      vehicleTold := .inr (.uploadCallback .success .accepted)
      inhabited := toIntList_ne_nil inhabited
      fits := by
        rw [length_toIntList]
        omega
      indexed := indexed_toIntList (by omega) }
  have start : OnScript plan.script plan.groundAt (At plan) .created
      { first := some { item := GroundStation.DownloadWorkItem.create inspection ground true }
        second := holding vehicle plugin list } := by
    refine ⟨⟨_, rfl, rfl, rfl⟩, ?_, rfl, rfl⟩
    exact ⟨rfl, by simp [holding, InspectionRoboticVehicleImpl.init], rfl, rfl, rfl, rfl, rfl, rfl,
      rfl⟩
  exact Wire.Covers.completes_script (joined.pair.faithful transferCodec) (DownloadPlan.ground_keeps rfl)
    (keeps rfl rfl) start (joined.covers _ _ _ _) (plan.script_fits joined bare_inspection room)
    (InspectionVehicle.download_completes ground vehicle plugin inhabited fits)

private theorem InspectionVehicle.udp_upload_completes
    {tell : UploadWorkItem.Report InspectionAck → Told ⊕ Vehicle.Output}
    (joined : Joined ground vehicle node) (plugin : InspectionRoboticVehicleImpl)
    {list : InspectionBase.WaypointList} (inhabited : list.items ≠ [])
    (fits : list.items.length ≤ 65535) (room : (toIntList list).Fits inspection) :
    Link.Completes (udpWire.party (GroundStation.UploadWorkItem.workItemClass.party tell))
      (udpWire.party (party Told))
      (udpLink ground vehicle node
        (some { item := GroundStation.UploadWorkItem.create ground (toIntList list) true })
        (expecting vehicle plugin))
      [.inr (.downloadCallback .success list), tell (.success, .accepted)] := by
  let plan : UploadPlan (Told ⊕ Vehicle.Output) :=
    { ground := ground
      vehicle := vehicle
      list := toIntList list
      groundTold := tell (.success, .accepted)
      vehicleTold := .inr (.downloadCallback .success list)
      inhabited := toIntList_ne_nil inhabited
      fits := by
        rw [length_toIntList]
        omega
      indexed := indexed_toIntList (by omega) }
  have ending : plan.vehicleTold = .inr (.downloadCallback .success
      ⟨plan.list.header, plan.list.items.map WaypointItem.toWaypointItem⟩) := by
    simp only [plan, map_toIntList]
    rfl
  have start : OnScript plan.script plan.groundAt (Expecting plan) .created
      { first := some { item := GroundStation.UploadWorkItem.create ground (toIntList list) true }
        second := expecting vehicle plugin } := by
    refine ⟨⟨_, rfl, rfl, rfl⟩, ?_, rfl, rfl⟩
    exact ⟨rfl, by simp [expecting, InspectionRoboticVehicleImpl.init], rfl, rfl, rfl,
      fun no => absurd rfl no, rfl, rfl, rfl⟩
  exact Wire.Covers.completes_script (joined.pair.faithful transferCodec) (UploadPlan.ground_keeps rfl)
    (expecting_keeps ending) start (joined.covers _ _ _ _) (plan.script_fits joined room)
    (InspectionVehicle.upload_completes ground vehicle plugin inhabited fits)

end

/-- Downloads of all four kinds and the upload of an inspection between two processes on UDP, down to
the bytes of their datagrams. -/
theorem udp_transfers_exact {ground vehicle : Sender} {node : Library.Side → UdpNode}
    (joined : Joined ground vehicle node) :
    (∀ (plugin : ListRoboticVehicleImpl ChecklistItem) (items : List ChecklistItem),
      items ≠ [] → items.length ≤ 65535 → Indexed checklist.position items →
      ItemList.Fits checklist ⟨(), items⟩ →
      Link.Completes
        (udpWire.party (ChecklistImpl.downloadChecklistAsync.party ListVehicle.UserReport))
        (udpWire.party (ListVehicle.party checklist _))
        (udpLink ground vehicle node
          (some { item := ChecklistImpl.downloadChecklistAsync.create ground () })
          (ListVehicle.holding checklist vehicle plugin items))
        [.inl (.success, items), .inr (.success, .accepted)]) ∧
    (∀ (plugin : ListRoboticVehicleImpl AlarmItem) (items : List AlarmItem),
      items ≠ [] → items.length ≤ 65535 → Indexed alarm.position items →
      ItemList.Fits alarm ⟨(), items⟩ →
      Link.Completes (udpWire.party (AlarmImpl.downloadAlarmAsync.party ListVehicle.UserReport))
        (udpWire.party (ListVehicle.party alarm _))
        (udpLink ground vehicle node (some { item := AlarmImpl.downloadAlarmAsync.create ground () })
          (ListVehicle.holding alarm vehicle plugin items))
        [.inl (.success, items), .inr (.success, .accepted)]) ∧
    (∀ (plugin : ListRoboticVehicleImpl HLActionItem) (items : List HLActionItem),
      items ≠ [] → items.length ≤ 65535 → Indexed hlAction.position items →
      ItemList.Fits hlAction ⟨(), items⟩ →
      Link.Completes
        (udpWire.party (HLActionImpl.downloadHLActionAsync.party ListVehicle.UserReport))
        (udpWire.party (ListVehicle.party hlAction _))
        (udpLink ground vehicle node
          (some { item := HLActionImpl.downloadHLActionAsync.create ground () })
          (ListVehicle.holding hlAction vehicle plugin items))
        [.inl (.success, items), .inr (.success, .accepted)]) ∧
    (∀ (plugin : InspectionRoboticVehicleImpl) (list : InspectionBase.WaypointList),
      list.items ≠ [] → list.items.length ≤ 65535 → (toIntList list).Fits inspection →
      Link.Completes
        (udpWire.party (InspectionImpl.downloadInspectionAsync.party Vehicle.Output))
        (udpWire.party (InspectionVehicle.party _))
        (udpLink ground vehicle node
          (some { item := InspectionImpl.downloadInspectionAsync.create ground () })
          (InspectionVehicle.holding vehicle plugin list))
        [.inl (.success, list), .inr (.uploadCallback .success .accepted)]) ∧
    (∀ (plugin : InspectionRoboticVehicleImpl) (list : InspectionBase.WaypointList),
      list.items ≠ [] → list.items.length ≤ 65535 → (toIntList list).Fits inspection →
      Link.Completes (udpWire.party (InspectionImpl.uploadInspectionAsync.party Vehicle.Output))
        (udpWire.party (InspectionVehicle.party _))
        (udpLink ground vehicle node
          (some { item := InspectionImpl.uploadInspectionAsync.create ground list })
          (InspectionVehicle.expecting vehicle plugin))
        [.inr (.downloadCallback .success list), .inl (.success, .accepted)]) := by
  refine ⟨?_, ?_, ?_, ?_, ?_⟩
  · intro plugin items inhabited fits indexed room
    exact ListVehicle.udp_completes joined bare_checklist plugin inhabited fits indexed room rfl
  · intro plugin items inhabited fits indexed room
    exact ListVehicle.udp_completes joined bare_alarm plugin inhabited fits indexed room rfl
  · intro plugin items inhabited fits indexed room
    exact ListVehicle.udp_completes joined bare_hlAction plugin inhabited fits indexed room rfl
  · intro plugin list inhabited fits room
    have completes : Link.Completes
        (udpWire.party (InspectionImpl.downloadInspectionAsync.party Vehicle.Output))
        (udpWire.party (InspectionVehicle.party _))
        (udpLink ground vehicle node
          (some { item := InspectionImpl.downloadInspectionAsync.create ground () })
          (InspectionVehicle.holding vehicle plugin list))
        [.inl (InspectionImpl.convertToResultAndWaypointList .success (toIntList list)),
          .inr (.uploadCallback .success .accepted)] :=
      InspectionVehicle.udp_download_completes joined plugin inhabited fits room
    rw [convertToResultAndWaypointList_toIntList] at completes
    exact completes
  · intro plugin list inhabited fits room
    exact InspectionVehicle.udp_upload_completes joined plugin inhabited fits room

theorem room_sampleTour : sampleTour.HasRoom := by
  decide +kernel

theorem udp_transfers_exact_two :
    Link.Completes
      (udpWire.party (ChecklistImpl.downloadChecklistAsync.party ListVehicle.UserReport))
      (udpWire.party (ListVehicle.party checklist _))
      (udpLink ⟨⟨1, 0⟩, ⟨2, 0⟩⟩ ⟨⟨2, 0⟩, ⟨1, 0⟩⟩ sampleNode
        (some { item := ChecklistImpl.downloadChecklistAsync.create ⟨⟨1, 0⟩, ⟨2, 0⟩⟩ () })
        (ListVehicle.holding checklist ⟨⟨2, 0⟩, ⟨1, 0⟩⟩ { transfer := true }
          sampleChecks))
      [.inl (.success, sampleChecks), .inr (.success, .accepted)] ∧
    Link.Completes (udpWire.party (AlarmImpl.downloadAlarmAsync.party ListVehicle.UserReport))
      (udpWire.party (ListVehicle.party alarm _))
      (udpLink ⟨⟨1, 0⟩, ⟨2, 0⟩⟩ ⟨⟨2, 0⟩, ⟨1, 0⟩⟩ sampleNode
        (some { item := AlarmImpl.downloadAlarmAsync.create ⟨⟨1, 0⟩, ⟨2, 0⟩⟩ () })
        (ListVehicle.holding alarm ⟨⟨2, 0⟩, ⟨1, 0⟩⟩ { transfer := true } sampleAlarms))
      [.inl (.success, sampleAlarms), .inr (.success, .accepted)] ∧
    Link.Completes
      (udpWire.party (HLActionImpl.downloadHLActionAsync.party ListVehicle.UserReport))
      (udpWire.party (ListVehicle.party hlAction _))
      (udpLink ⟨⟨1, 0⟩, ⟨2, 0⟩⟩ ⟨⟨2, 0⟩, ⟨1, 0⟩⟩ sampleNode
        (some { item := HLActionImpl.downloadHLActionAsync.create ⟨⟨1, 0⟩, ⟨2, 0⟩⟩ () })
        (ListVehicle.holding hlAction ⟨⟨2, 0⟩, ⟨1, 0⟩⟩ { transfer := true }
          sampleActions))
      [.inl (.success, sampleActions), .inr (.success, .accepted)] ∧
    Link.Completes (udpWire.party (InspectionImpl.downloadInspectionAsync.party Vehicle.Output))
      (udpWire.party (InspectionVehicle.party _))
      (udpLink ⟨⟨1, 0⟩, ⟨2, 0⟩⟩ ⟨⟨2, 0⟩, ⟨1, 0⟩⟩ sampleNode
        (some { item := InspectionImpl.downloadInspectionAsync.create ⟨⟨1, 0⟩, ⟨2, 0⟩⟩ () })
        (InspectionVehicle.holding ⟨⟨2, 0⟩, ⟨1, 0⟩⟩ { transfer := true } sampleTour))
      [.inl (.success, sampleTour), .inr (.uploadCallback .success .accepted)] ∧
    Link.Completes (udpWire.party (InspectionImpl.uploadInspectionAsync.party Vehicle.Output))
      (udpWire.party (InspectionVehicle.party _))
      (udpLink ⟨⟨1, 0⟩, ⟨2, 0⟩⟩ ⟨⟨2, 0⟩, ⟨1, 0⟩⟩ sampleNode
        (some { item := InspectionImpl.uploadInspectionAsync.create ⟨⟨1, 0⟩, ⟨2, 0⟩⟩ sampleTour })
        (InspectionVehicle.expecting ⟨⟨2, 0⟩, ⟨1, 0⟩⟩ { transfer := true }))
      [.inr (.downloadCallback .success sampleTour), .inl (.success, .accepted)] := by
  obtain ⟨checklists, alarms, hlActions, downloads, uploads⟩ :=
    udp_transfers_exact joined_sampleNode
  refine ⟨?_, ?_, ?_, ?_, ?_⟩
  · exact checklists _ _ (List.cons_ne_nil _ _) (by decide) (.pair rfl rfl)
      (fits_checklist (by decide +kernel))
  · exact alarms _ _ (List.cons_ne_nil _ _) (by decide) (.pair rfl rfl)
      (fits_alarm (by decide +kernel))
  · exact hlActions _ _ (List.cons_ne_nil _ _) (by decide) (.pair rfl rfl)
      (fits_hlAction (by decide +kernel))
  · exact downloads _ _ (List.cons_ne_nil _ _) (by decide) room_sampleTour.fits
  · exact uploads _ _ (List.cons_ne_nil _ _) (by decide) room_sampleTour.fits

end PilotingMavsdk
