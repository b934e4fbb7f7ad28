import PilotingMavsdk.Proofs.DownloadAgreement
import PilotingMavsdk.Proofs.UdpTransfers
import PilotingMavsdk.UdpDownload

/-! On a network that loses, doubles and reorders datagrams, an inspection download between two
processes goes on like one whose messages suffer the same. -/

namespace PilotingMavsdk
open Library

theorem SentBy.packs {Header Item Ack : Type} {protocol : ListProtocol Header Item Ack}
    {sender : Sender} {list : ItemList Header Item} {message : Message} (bare : protocol.Bare)
    (room : list.Fits protocol) (sent : SentBy protocol sender list message) :
    transferCodec.Packs sender.ownAddress.systemId message := by
  obtain ⟨own, fits⟩ := sent.fits bare room
  rw [← own]
  exact Message.packs fits

namespace DownloadSystem
variable {ground vehicle : Sender} {plugin : InspectionRoboticVehicleImpl}

abbrev Ends := Link (Life (GroundStation.DownloadWorkItem PlanId WaypointItem)) Vehicle Message

def lossy : Machine Ends (LossyAction LifeEvent Vehicle.Event Environment Message) Report :=
  Link.lossy groundStationParty vehicleParty

private theorem groundStationParty_act {event : LifeEvent}
    {life after : Life (GroundStation.DownloadWorkItem PlanId WaypointItem)} {sent : List Message}
    {reports : List Report}
    (acted : groundStationParty.act event life = some (after, sent, reports)) :
    event.received = none ∧ sent = reports.filterMap Effect.sent ∧
      (GroundStation.DownloadWorkItem.workItemClass inspection).machine.step life event =
        some (after, reports) := by
  simp only [groundStationParty] at acted
  split at acted
  next none =>
    split at acted
    next stepped =>
      cases acted
      exact ⟨none, rfl, stepped⟩
    · cases acted
  · cases acted

private theorem groundStationParty_hear {message : Message} {environment : Environment}
    {life after : Life (GroundStation.DownloadWorkItem PlanId WaypointItem)} {sent : List Message}
    {reports : List Report}
    (heard : groundStationParty.hear message environment life = some (after, sent, reports)) :
    sent = reports.filterMap Effect.sent ∧
      (GroundStation.DownloadWorkItem.workItemClass inspection).machine.step life
        (.call (.processMessage message) environment) = some (after, reports) := by
  simp only [groundStationParty] at heard
  split at heard
  next stepped =>
    cases heard
    exact ⟨rfl, stepped⟩
  · cases heard

private theorem vehicleParty_act {event : Vehicle.Event} {vehicle after : Vehicle}
    {sent : List Message} {reports : List Report}
    (acted : vehicleParty.act event vehicle = some (after, sent, reports)) :
    event.received = none ∧ reports = [] ∧ ∃ outputs,
      sent = outputs.filterMap Vehicle.Output.sent ∧
        vehicle.step event = some (after, outputs) := by
  simp only [vehicleParty] at acted
  split at acted
  next none =>
    split at acted
    next stepped =>
      cases acted
      exact ⟨none, rfl, _, rfl, stepped⟩
    · cases acted
  · cases acted

private theorem vehicleParty_hear {message : Message} {environment : Environment}
    {vehicle after : Vehicle} {sent : List Message} {reports : List Report}
    (heard : vehicleParty.hear message environment vehicle = some (after, sent, reports)) :
    reports = [] ∧ ∃ outputs, sent = outputs.filterMap Vehicle.Output.sent ∧
      vehicle.step (.receive message environment) = some (after, outputs) := by
  simp only [vehicleParty] at heard
  split at heard
  next stepped =>
    cases heard
    exact ⟨rfl, _, rfl, stepped⟩
  · cases heard

private theorem step_ofLink {ends after : Ends} {reports : List Report}
    (moves : ends.Moves .lossy groundStationParty vehicleParty after reports) :
    ∃ move, machine.step (ofLink ends) move = some (ofLink after, reports) := by
  cases moves with
  | @first event _ _ _ acted =>
    obtain ⟨none, rfl, stepped⟩ := groundStationParty_act acted
    exact ⟨.groundStation event, by simp [machine, ofLink, none, stepped]⟩
  | @second event _ _ _ acted =>
    obtain ⟨none, rfl, _, rfl, stepped⟩ := vehicleParty_act acted
    exact ⟨.vehicle event, by simp [machine, ofLink, none, stepped]⟩
  | @toFirst message environment _ _ _ _ takes heard =>
    obtain ⟨waiting, rfl⟩ := takes
    obtain ⟨rfl, stepped⟩ := groundStationParty_hear heard
    exact ⟨.groundStation (.call (.processMessage message) environment), by
      simp [machine, ofLink, LifeEvent.received, waiting, stepped]⟩
  | @toSecond message environment _ _ _ _ takes heard =>
    obtain ⟨waiting, rfl⟩ := takes
    obtain ⟨rfl, _, rfl, stepped⟩ := vehicleParty_hear heard
    exact ⟨.vehicle (.receive message environment), by
      simp [machine, ofLink, Vehicle.Event.received, waiting, stepped]⟩

def ends (ground vehicle : Sender) (plugin : InspectionRoboticVehicleImpl) : Ends where
  first := { item := GroundStation.DownloadWorkItem.create inspection ground true }
  second := { sender := vehicle, plugin := plugin }

section
variable {list : InspectionBase.WaypointList}

private theorem groundStationParty_speaks : groundStationParty.Speaks
    (fun life => life.item.sender = ground) (SentBy inspection ground (toIntList list)) := by
  have keeps := @GroundStation.DownloadWorkItem.keeps_sender _ _ _ inspection ground (toIntList list)
  constructor
  · intro life event after sent reports own acted
    obtain ⟨_, rfl, stepped⟩ := groundStationParty_act acted
    exact (WorkItemClass.lived stepped).2.keeps keeps own
  · intro life message environment after sent reports own heard
    obtain ⟨rfl, stepped⟩ := groundStationParty_hear heard
    exact (WorkItemClass.lived stepped).2.keeps keeps own

private theorem vehicleParty_speaks : vehicleParty.Speaks (Vehicle.SpeaksFor vehicle list)
    (SentBy inspection vehicle (toIntList list)) := by
  constructor
  · intro state event after sent reports speaksFor acted
    obtain ⟨_, _, _, rfl, stepped⟩ := vehicleParty_act acted
    exact Vehicle.speaksFor_step speaksFor stepped
  · intro state message environment after sent reports speaksFor heard
    obtain ⟨_, _, rfl, stepped⟩ := vehicleParty_hear heard
    exact Vehicle.speaksFor_step speaksFor stepped

end

private theorem fitting_run {node : Library.Side → UdpNode} (joined : Joined ground vehicle node)
    (room : (toIntList plugin.list).Fits inspection)
    {log : List (Taken Ends (LossyAction LifeEvent Vehicle.Event Environment Message) Report)}
    {last : Ends} (run : lossy.Run (ends ground vehicle plugin) log last) :
    Wire.Fitting (joined.pair.Fits transferCodec) last := by
  have start : (ends ground vehicle plugin).Spoken (fun life => life.item.sender = ground)
      (Vehicle.SpeaksFor vehicle plugin.list) (SentBy inspection ground (toIntList plugin.list))
      (SentBy inspection vehicle (toIntList plugin.list)) :=
    ⟨rfl, ⟨rfl, rfl, by simp [ends], by simp [ends]⟩, by simp [ends], by simp [ends]⟩
  have spoken := (run.invariant (fun taken legal before =>
    before.moves groundStationParty_speaks vehicleParty_speaks (Link.moves_lossy_iff.mpr ⟨_, legal⟩)) start).1
  constructor
  · intro message member
    exact (spoken.toFirst message member).packs bare_inspection room
  · intro message member
    exact (spoken.toSecond message member).packs bare_inspection room

def Whole (system : DownloadSystem) (ends : Ends) : Prop := system = ofLink ends

private theorem lossy_refines {log : List (Taken Ends
      (LossyAction LifeEvent Vehicle.Event Environment Message) Report)} {last : Ends}
    (run : lossy.Run (ends ground vehicle plugin) log last) :
    ∃ moves, machine.Run (initial ground vehicle plugin) moves (ofLink last) ∧
      moves.map Taken.outputs = log.map Taken.outputs := by
  have matched {moves : List Step} {system : DownloadSystem}
      {taken : Taken Ends (LossyAction LifeEvent Vehicle.Event Environment Message) Report}
      (_ : machine.Run (initial ground vehicle plugin) moves system)
      (whole : Whole system taken.before) (legal : lossy.Legal taken) :
      ∃ move after, machine.step system move = some (after, taken.outputs) ∧
        Whole after taken.after := by
    obtain ⟨move, step⟩ := step_ofLink (Link.moves_lossy_iff.mpr ⟨_, legal⟩)
    rw [whole]
    exact ⟨move, _, step, rfl⟩
  obtain ⟨moves, _, steps, rfl, outputs⟩ := run.simulated matched rfl
  exact ⟨moves, steps, outputs⟩

/-- With datagrams that may be lost, doubled and late, whatever the two processes come to, and
whatever they tell their users on the way, is what messages alone can lead to. -/
theorem udp_refines {node : Library.Side → UdpNode} (joined : Joined ground vehicle node)
    (room : (toIntList plugin.list).Fits inspection)
    {log : List (Taken (Link (Wired (Life (GroundStation.DownloadWorkItem PlanId WaypointItem))
      UdpPort) (Wired Vehicle UdpPort) Packet)
      (LossyAction (LifeEvent × (Nat → PackMemory)) (Vehicle.Event × (Nat → PackMemory))
        (Arrival × List Environment × (Nat → PackMemory)) Packet) Report)}
    {last : Link (Wired (Life (GroundStation.DownloadWorkItem PlanId WaypointItem)) UdpPort)
      (Wired Vehicle UdpPort) Packet}
    (run : overUdp.Run (udpLink ground vehicle node
      { item := GroundStation.DownloadWorkItem.create inspection ground true }
      { sender := vehicle, plugin := plugin }) log last) :
    ∃ moves system, machine.Run (initial ground vehicle plugin) moves system ∧
      system.groundStation = last.first.state ∧ system.vehicle = last.second.state ∧
      moves.map Taken.outputs = log.map Taken.outputs := by
  obtain ⟨other, link, steps, within, outputs⟩ := Wire.Covers.run_lossy
    (joined.pair.faithful transferCodec) (fun _ _ => fitting_run joined room) run
    (joined.covers _ _ _ _)
  obtain ⟨moves, refined, same⟩ := lossy_refines steps
  exact ⟨moves, ofLink link, refined, within.first.symm, within.second.symm, same.trans outputs⟩

/-- A REQUEST and a COUNT that both arrive twice. -/
theorem udp_refines_doubled :
    let ground : Sender := ⟨⟨1, 0⟩, ⟨2, 0⟩⟩
    let vehicle : Sender := ⟨⟨2, 0⟩, ⟨1, 0⟩⟩
    let plugin := InspectionRoboticVehicleImpl.init
      { list := sampleTour, uploadCallback := true, transfer := true }
    let memory : Nat → PackMemory := fun _ => {}
    let request : Packet := ⟨⟨"10.0.0.1", 14540⟩, ⟨"10.0.0.2", 14550⟩,
      [253, 1, 0, 0, 0, 1, 0, 184, 0, 0, 2, 156, 114]⟩
    let count : Packet := ⟨⟨"10.0.0.2", 14550⟩, ⟨"10.0.0.1", 14540⟩,
      [253, 14, 0, 0, 0, 2, 0, 180, 0, 0, 7, 0, 0, 0, 2, 0, 1, 0, 98, 114, 105, 100, 103, 101, 61,
        167]⟩
    let actions : List (LossyAction (LifeEvent × (Nat → PackMemory))
        (Vehicle.Event × (Nat → PackMemory)) (Arrival × List Environment × (Nat → PackMemory))
        Packet) :=
      [.first (.call .start ⟨true, 1⟩, memory), .toSecond request ({}, [⟨true, 1⟩], memory),
        .second (.upload (.call .start ⟨true, 1⟩), memory),
        .toSecond request ({ leftOver := [7] }, [⟨true, 2⟩], memory),
        .toFirst count ({}, [⟨true, 2⟩], memory),
        .toFirst count ({ behind := [9] }, [⟨true, 3⟩], memory)]
    let start := udpLink ground vehicle sampleNode
      { item := GroundStation.DownloadWorkItem.create inspection ground true }
      { sender := vehicle, plugin := plugin : Vehicle }
    ∃ moves system, machine.Run (initial ground vehicle plugin) moves system ∧
      system.groundStation = (overUdp.last start actions).first.state ∧
      system.vehicle = (overUdp.last start actions).second.state ∧
      moves.map Taken.outputs = (overUdp.log start actions).map Taken.outputs ∧
      (overUdp.log start actions).length = 6 := by
  intro ground vehicle plugin memory request count actions start
  have possible : (overUdp.exec start actions).isSome = true := by decide +kernel
  obtain ⟨moves, system, run, groundStation, vehicle, outputs⟩ :=
    udp_refines joined_sampleNode room_sampleTour.fits
      (Machine.run_last overUdp start actions possible)
  exact ⟨moves, system, run, groundStation, vehicle, outputs, by decide +kernel⟩

end DownloadSystem
end PilotingMavsdk
