import PilotingMavsdk.InspectionSystem
import PilotingMavsdk.UdpWire

/-! The download of an inspection with its two sides taken apart, so that each of them can have a UDP
port. -/

namespace PilotingMavsdk
open Library

namespace DownloadSystem

abbrev Report := Effect (GroundStation.DownloadWorkItem.Report PlanId WaypointItem)

def groundStationParty : Party (Life (GroundStation.DownloadWorkItem PlanId WaypointItem)) LifeEvent
    Environment Message Report where
  act event life :=
    if event.received = none then
      match (GroundStation.DownloadWorkItem.workItemClass inspection).machine.step life event with
      | some (after, effects) => some (after, effects.filterMap Effect.sent, effects)
      | none => none
    else none
  hear message environment life :=
    match (GroundStation.DownloadWorkItem.workItemClass inspection).machine.step life
        (.call (.processMessage message) environment) with
    | some (after, effects) => some (after, effects.filterMap Effect.sent, effects)
    | none => none

def vehicleParty : Party Vehicle Vehicle.Event Environment Message Report where
  act event vehicle :=
    if event.received = none then
      match vehicle.step event with
      | some (after, outputs) => some (after, outputs.filterMap Vehicle.Output.sent, [])
      | none => none
    else none
  hear message environment vehicle :=
    match vehicle.step (.receive message environment) with
    | some (after, outputs) => some (after, outputs.filterMap Vehicle.Output.sent, [])
    | none => none

def ofLink (link : Link (Life (GroundStation.DownloadWorkItem PlanId WaypointItem)) Vehicle Message) :
    DownloadSystem where
  groundStation := link.first
  vehicle := link.second
  toVehicle := link.toSecond
  toGroundStation := link.toFirst

/-- The download of two processes on a network that may lose datagrams, double them and change their
order. -/
def overUdp : Machine (Link
    (Wired (Life (GroundStation.DownloadWorkItem PlanId WaypointItem)) UdpPort)
    (Wired Vehicle UdpPort) Packet)
    (LossyAction (LifeEvent × (Nat → PackMemory)) (Vehicle.Event × (Nat → PackMemory))
      (Arrival × List Environment × (Nat → PackMemory)) Packet) Report :=
  Link.lossy (udpWire.party groundStationParty) (udpWire.party vehicleParty)

end DownloadSystem
end PilotingMavsdk
