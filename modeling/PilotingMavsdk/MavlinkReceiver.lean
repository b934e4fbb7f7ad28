import Mathlib.Data.List.Basic

/-! `MAVLinkReceiver` and `UdpConnection::receive`, which hand the messages of a datagram on one by
one. The parser itself is a parameter. -/

namespace PilotingMavsdk

/-- `mavlink_parse_char` on the buffer and the status of one channel: what they are after a byte,
and the message if the byte has completed one. -/
structure MavlinkParser (Channel Message : Type) where
  parseChar : Channel → UInt8 → Channel × Option Message
  sysid : Message → UInt8

/-- What can be seen of a receiver: each byte that goes into the parser, and each message that
comes to `receive_message`. -/
inductive ReceiverEvent (Message : Type) where
  | parsed (byte : UInt8)
  | handedOn (message : Message)
deriving DecidableEq, Repr

/-- `datagram` is the distance of `_datagram` from the start of the buffer, `none` is `nullptr`. -/
structure MAVLinkReceiver (Channel Message : Type) where
  channel : Channel
  lastMessage : Message
  datagram : Option Nat := none
  datagramLen : Nat := 0

namespace MAVLinkReceiver
variable {Channel Message : Type} (parser : MavlinkParser Channel Message)

def setNewDatagram (datagramLen : Nat) (receiver : MAVLinkReceiver Channel Message) :
    MAVLinkReceiver Channel Message :=
  { receiver with datagram := some 0, datagramLen := datagramLen }

/-- The loop of `parse_message` from `i` on, with the result of the function and the bytes that it
has read. -/
def parseFrom (buffer : List UInt8) (i : Nat) :
    Nat → MAVLinkReceiver Channel Message → MAVLinkReceiver Channel Message × Bool × List UInt8
  | 0, receiver => ({ receiver with datagram := none, datagramLen := 0 }, false, [])
  | rounds + 1, receiver =>
    let byte := buffer.getD (receiver.datagram.getD 0 + i) 0
    match parser.parseChar receiver.channel byte with
    | (channel, some message) =>
      ({ channel := channel
         lastMessage := message
         datagram := receiver.datagram.map (· + (i + 1))
         datagramLen := receiver.datagramLen - (i + 1) }, true, [byte])
    | (channel, none) =>
      let (after, complete, bytes) := parseFrom buffer (i + 1) rounds
        { receiver with channel := channel }
      (after, complete, byte :: bytes)

def parseMessage (buffer : List UInt8) (receiver : MAVLinkReceiver Channel Message) :
    MAVLinkReceiver Channel Message × Bool × List UInt8 :=
  parseFrom parser buffer 0 receiver.datagramLen receiver

end MAVLinkReceiver

structure Remote where
  ip : String
  portNumber : UInt16
deriving DecidableEq, Repr

structure UdpConnection (Channel Message : Type) where
  receiver : MAVLinkReceiver Channel Message
  remotes : List Remote := []

/-- What `recvfrom` has put into the buffer, at most 2048 bytes, before what an earlier call has
left there. -/
structure Datagram where
  bytes : List UInt8
  leftOver : List UInt8
  source : Remote
deriving DecidableEq, Repr

namespace UdpConnection
variable {Channel Message : Type} (parser : MavlinkParser Channel Message)

def addRemote (remote : Remote) (connection : UdpConnection Channel Message) :
    UdpConnection Channel Message :=
  if remote ∈ connection.remotes then connection
  else { connection with remotes := connection.remotes ++ [remote] }

/-- The loop that calls `parse_message` until it returns false; `none` if it has not done so in
that many rounds. -/
def parseMessages (buffer : List UInt8) (source : Remote) :
    Nat → Bool → UdpConnection Channel Message →
      Option (UdpConnection Channel Message × List (ReceiverEvent Message))
  | 0, _, _ => none
  | rounds + 1, savedRemote, connection =>
    match MAVLinkReceiver.parseMessage parser buffer connection.receiver with
    | (receiver, false, bytes) =>
      some ({ connection with receiver := receiver }, bytes.map .parsed)
    | (receiver, true, bytes) =>
      let known : UdpConnection Channel Message := { connection with receiver := receiver }
      let saves := !savedRemote && parser.sysid receiver.lastMessage != 0
      (parseMessages buffer source rounds (savedRemote || saves)
        (if saves then known.addRemote source else known)).map fun (last, events) =>
          (last, bytes.map .parsed ++ .handedOn receiver.lastMessage :: events)

/-- One round of `receive`; `none` is an error of `recvfrom`. An empty datagram is left out. -/
def receiveOne (rounds : Nat) (received : Option Datagram)
    (connection : UdpConnection Channel Message) :
    Option (UdpConnection Channel Message × List (ReceiverEvent Message)) :=
  match received with
  | none => some (connection, [])
  | some datagram =>
    if datagram.bytes = [] then some (connection, [])
    else parseMessages parser (datagram.bytes ++ datagram.leftOver) datagram.source rounds false
      { connection with receiver := connection.receiver.setNewDatagram datagram.bytes.length }

def receive (rounds : Nat) : List (Option Datagram) → UdpConnection Channel Message →
    Option (UdpConnection Channel Message × List (ReceiverEvent Message))
  | [], connection => some (connection, [])
  | received :: more, connection => do
    let (middle, events) ← receiveOne parser rounds received connection
    let (last, later) ← receive rounds more middle
    return (last, events ++ later)

end UdpConnection

end PilotingMavsdk
