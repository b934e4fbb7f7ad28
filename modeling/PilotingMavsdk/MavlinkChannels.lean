import Mathlib.Logic.Function.Basic
import Mathlib.Data.List.FinRange
import PilotingMavsdk.Library.Machine

/-! `MAVLinkChannels`, the pool of parser channels, and the two functions of `Connection` that take
a channel from it and give it back. -/

namespace PilotingMavsdk
open Library

structure MAVLinkChannels where
  /-- `_channels_used`, of the length `MAX_CHANNELS`. -/
  channelsUsed : Vector Bool 32 := Vector.replicate 32 false
deriving DecidableEq

namespace MAVLinkChannels

abbrev maxChannels : Nat := 32

def checkoutFreeChannel (channels : MAVLinkChannels) : Option (UInt8 × MAVLinkChannels) :=
  match (List.finRange maxChannels).find? fun i => !channels.channelsUsed[i] with
  | some i => some (UInt8.ofNat i, ⟨channels.channelsUsed.set i true⟩)
  | none => none

def checkinUsedChannel (usedChannel : UInt8) (channels : MAVLinkChannels) : MAVLinkChannels :=
  if inside : usedChannel.toNat < maxChannels then
    ⟨channels.channelsUsed.set usedChannel.toNat false inside⟩
  else channels

end MAVLinkChannels

/-- `MAVLINK_COMM_NUM_BUFFERS` on the platforms that are built for. -/
def mavlinkCommNumBuffers : Nat := 16

/-- The pool and the receivers of all connections. Of a receiver only its channel matters here. -/
structure ChannelOwners (Connection : Type) where
  channels : MAVLinkChannels := {}
  mavlinkReceiver : Connection → Option UInt8 := fun _ => none

inductive ConnectionCall (Connection : Type) where
  | startMavlinkReceiver (connection : Connection)
  | stopMavlinkReceiver (connection : Connection)
deriving DecidableEq, Repr

namespace ChannelOwners
variable {Connection : Type} [DecidableEq Connection]

/-- With the channel that the new receiver gets, if there is one. A receiver that the connection
already has is replaced. -/
def startMavlinkReceiver (connection : Connection) (owners : ChannelOwners Connection) :
    ChannelOwners Connection × List UInt8 :=
  match owners.channels.checkoutFreeChannel with
  | none => (owners, [])
  | some (channel, channels) =>
    (⟨channels, Function.update owners.mavlinkReceiver connection (some channel)⟩, [channel])

def stopMavlinkReceiver (connection : Connection) (owners : ChannelOwners Connection) :
    ChannelOwners Connection :=
  match owners.mavlinkReceiver connection with
  | none => owners
  | some usedChannel =>
    ⟨owners.channels.checkinUsedChannel usedChannel,
      Function.update owners.mavlinkReceiver connection none⟩

def call (owners : ChannelOwners Connection) :
    ConnectionCall Connection → ChannelOwners Connection × List UInt8
  | .startMavlinkReceiver connection => owners.startMavlinkReceiver connection
  | .stopMavlinkReceiver connection => (owners.stopMavlinkReceiver connection, [])

def machine : Machine (ChannelOwners Connection) (ConnectionCall Connection) UInt8 where
  step owners connectionCall := some (owners.call connectionCall)

end ChannelOwners
end PilotingMavsdk
