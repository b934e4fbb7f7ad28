import PilotingMavsdk.Proofs.Delivery
import PilotingMavsdk.UdpNetwork

/-! Who gets a message over the network and from whom: a process sends to the remotes that it was
given and to those that it has heard from, and it hands on only what one of them has sent to it. -/

namespace PilotingMavsdk
open Library

namespace UdpConnection
variable {Channel Message : Type}

private theorem sendToRemotes_eq (sendto : Remote → Bool) (buffer : Bytes) (remotes : List Remote)
    (sendSuccessful : Bool) :
    sendToRemotes sendto buffer remotes sendSuccessful =
      (sendSuccessful && remotes.all sendto,
        (remotes.filter sendto).map fun remote => (remote, buffer)) := by
  induction remotes generalizing sendSuccessful with
  | nil => simp [sendToRemotes]
  | cons remote remotes ih =>
    rw [sendToRemotes]
    cases taken : sendto remote with
    | true => simp [ih, taken]
    | false => simp [ih, taken]

theorem sendMessage_eq (sendto : Remote → Bool) (message : MavlinkMessage)
    (connection : UdpConnection Channel Message) :
    connection.sendMessage sendto message =
      (decide (connection.remotes ≠ []) && connection.remotes.all sendto,
        (connection.remotes.filter sendto).map fun remote =>
          (remote, mavlinkMsgToSendBuffer message)) := by
  rw [sendMessage]
  split
  next none =>
    rw [List.length_eq_zero_iff.mp none]
    rfl
  next some =>
    have remotes : connection.remotes ≠ [] := fun none => some (by rw [none, List.length_nil])
    rw [sendToRemotes_eq, decide_eq_true remotes]

private theorem mem_addRemote {remote other : Remote} {connection : UdpConnection Channel Message} :
    other ∈ (connection.addRemote remote).remotes ↔ other ∈ connection.remotes ∨ other = remote := by
  rw [addRemote]
  split
  next known =>
    constructor
    · exact .inl
    · rintro (old | rfl)
      · exact old
      · exact known
  · simp

private theorem nodup_addRemote {remote : Remote} {connection : UdpConnection Channel Message}
    (distinct : connection.remotes.Nodup) : (connection.addRemote remote).remotes.Nodup := by
  rw [addRemote]
  split
  · exact distinct
  next new =>
    rw [List.nodup_append]
    refine ⟨distinct, List.pairwise_singleton _ _, ?_⟩
    rintro other member _ added rfl
    rw [List.mem_singleton.mp added] at member
    exact new member

@[simp] private theorem remotes_setReceiver (receiver : MAVLinkReceiver Channel Message)
    (connection : UdpConnection Channel Message) (source : Remote) :
    (addRemote source { connection with receiver := receiver }).remotes =
      (connection.addRemote source).remotes := by
  rw [addRemote, addRemote]
  split <;> rfl

/-- Somebody with an id has sent one of the messages. -/
def heard (parser : MavlinkParser Channel Message) (events : List (ReceiverEvent Message)) : Bool :=
  events.any fun event => event.message?.any fun message => parser.sysid message != 0

private theorem heard_parsed (parser : MavlinkParser Channel Message) (bytes : List UInt8)
    (events : List (ReceiverEvent Message)) :
    heard parser (bytes.map .parsed ++ events) = heard parser events := by
  rw [heard, List.any_append, List.any_map]
  simp [heard, ReceiverEvent.message?]

private theorem remotes_parseMessages {parser : MavlinkParser Channel Message} {buffer : List UInt8}
    {source : Remote} {rounds : Nat} {savedRemote : Bool}
    {connection last : UdpConnection Channel Message} {events : List (ReceiverEvent Message)}
    (ends : parseMessages parser buffer source rounds savedRemote connection =
      some (last, events)) :
    last.remotes = if !savedRemote && heard parser events then (connection.addRemote source).remotes
      else connection.remotes := by
  induction rounds generalizing savedRemote connection events with
  | zero => cases ends
  | succ rounds ih =>
    rw [parseMessages] at ends
    split at ends
    next receiver bytes parsed =>
      cases ends
      have none := heard_parsed parser bytes []
      rw [List.append_nil] at none
      rw [none]
      simp [heard]
    next receiver bytes parsed =>
      obtain ⟨⟨other, later⟩, rest, same⟩ := Option.map_eq_some_iff.mp ends
      cases same
      have after := ih rest
      have events : heard parser (bytes.map .parsed ++ .handedOn receiver.lastMessage :: later) =
          (parser.sysid receiver.lastMessage != 0 || heard parser later) := by
        rw [heard_parsed]
        rfl
      rw [events, after]
      cases savedRemote with
      | true => simp
      | false =>
        cases parser.sysid receiver.lastMessage != 0 with
        | true => simp
        | false => simp

end UdpConnection

private theorem heard_eq_any (events : List (ReceiverEvent MavlinkMessage)) :
    UdpConnection.heard mavlinkParser events =
      (handedOn events).any fun message => message.sysid != 0 := by
  rw [handedOn, List.any_filterMap]
  rfl

/-- A datagram with one message makes a connection hand on that message, and whoever has sent it is a
remote from then on. -/
theorem receiveOne_buffer {connection : UdpConnection MavlinkChannel MavlinkMessage}
    (ready : connection.receiver.channel.Ready) (sending : Sending) (leftOver : Bytes)
    (source : Remote) :
    ∃ last events message,
      connection.receiveOne mavlinkParser (sending.buffer.length + 1)
          (some ⟨sending.buffer, leftOver, source⟩) = some (last, events) ∧
        handedOn events = [message] ∧ message.frame = sending.frame ∧
        last.receiver.channel.Ready ∧
        last.remotes = if sending.systemId = 0 then connection.remotes
          else (connection.addRemote source).remotes := by
  obtain ⟨⟨last, events⟩, ends, reads⟩ := @UdpConnection.reads_receiveOne _ _ mavlinkParser
    (sending.buffer.length + 1) (some ⟨sending.buffer, leftOver, source⟩) connection
    (by simp [UdpConnection.received])
  have bytes : UdpConnection.received [some ⟨sending.buffer, leftOver, source⟩] =
      sending.buffer := by simp [UdpConnection.received]
  have parsed : transduce MavlinkChannel.step connection.receiver.channel sending.buffer =
      (last.receiver.channel, handedOn events) := by
    rw [UdpConnection.Reads, bytes] at reads
    rw [handedOn_transduce, reads]
  obtain ⟨done, frames⟩ := transduce_buffer ready sending
  rw [parsed] at done frames
  simp only at frames
  obtain ⟨message, single, frame⟩ := List.map_eq_singleton_iff.mp frames
  refine ⟨last, events, message, ends, single, frame, done, ?_⟩
  have some : sending.buffer ≠ [] := by
    rw [sending.buffer_eq]
    exact List.cons_ne_nil _ _
  rw [UdpConnection.receiveOne] at ends
  simp only at ends
  rw [if_neg some] at ends
  have sysid : message.sysid = sending.systemId := congrArg MavlinkFrame.sysid frame
  have remotes := UdpConnection.remotes_parseMessages ends
  rw [heard_eq_any, single, UdpConnection.remotes_setReceiver] at remotes
  rw [remotes]
  simp only [List.any_cons, List.any_nil, Bool.or_false, Bool.not_false, Bool.true_and, sysid]
  by_cases anonymous : sending.systemId = 0
  · simp [anonymous]
  · simp [anonymous]

namespace UdpNetwork
variable {Name : Type} [DecidableEq Name]

abbrev Step (Name : Type) := Taken (UdpNetwork Name) (UdpAction Name) (UdpEvent Name)

@[simp] private theorem endpoint_setConnection (name other : Name)
    (connection : UdpConnection MavlinkChannel MavlinkMessage) (network : UdpNetwork Name) :
    ((network.setConnection name connection).node other).endpoint =
      (network.node other).endpoint := by
  by_cases same : other = name
  · subst same
    simp [setConnection]
  · simp [setConnection, same]

private theorem connection_setConnection (name other : Name)
    (connection : UdpConnection MavlinkChannel MavlinkMessage) (network : UdpNetwork Name) :
    ((network.setConnection name connection).node other).connection =
      if other = name then connection else (network.node other).connection := by
  by_cases same : other = name
  · subst same
    simp [setConnection]
  · simp [setConnection, same]

inductive Stepped (network : UdpNetwork Name) :
    UdpAction Name → UdpNetwork Name → List (UdpEvent Name) → Prop where
  | send (name : Name) (sending : Sending) (sendto : Remote → Bool) :
      Stepped network (.send name sending sendto)
        { network with
          packets := network.packets ++
            ((network.node name).connection.remotes.filter sendto).map fun remote =>
              ⟨(network.node name).endpoint, remote, sending.buffer⟩ }
        [.sent name (decide ((network.node name).connection.remotes ≠ []) &&
          (network.node name).connection.remotes.all sendto)]
  | arrive {name : Name} {packet : Packet} {leftOver : Bytes}
      {connection : UdpConnection MavlinkChannel MavlinkMessage}
      {events : List (ReceiverEvent MavlinkMessage)} (waiting : packet ∈ network.packets)
      (here : packet.destination = (network.node name).endpoint)
      (received : (network.node name).connection.receiveOne mavlinkParser
        (packet.bytes.length + 1) (some ⟨packet.bytes, leftOver, packet.source⟩) =
          some (connection, events)) :
      Stepped network (.arrive name packet leftOver) (network.setConnection name connection)
        ((handedOn events).map (.handedOn name))
  | addRemote (name : Name) (remote : Remote) :
      Stepped network (.addRemote name remote)
        (network.setConnection name ((network.node name).connection.addRemote remote)) []

theorem stepped {taken : Step Name} (legal : machine.Legal taken) :
    taken.before.Stepped taken.action taken.after taken.outputs := by
  obtain ⟨network, action, after, outputs⟩ := taken
  simp only [Machine.Legal, machine] at legal ⊢
  cases action with
  | send name sending sendto =>
    simp only [UdpConnection.sendMessage_eq, List.map_map] at legal
    cases legal
    exact .send name sending sendto
  | arrive name packet leftOver =>
    simp only at legal
    split at legal
    next arrives =>
      split at legal
      next connection events received =>
        cases legal
        exact .arrive arrives.1 arrives.2 received
      · cases legal
    · cases legal
  | addRemote name remote =>
    cases legal
    exact .addRemote name remote

/-- At this step the process has sent this datagram: the buffer of a message, to one of its
remotes. -/
structure Sends (taken : Step Name) (name : Name) (sending : Sending) (packet : Packet) : Prop where
  action : ∃ sendto, taken.action = .send name sending sendto ∧ sendto packet.destination = true
  source : packet.source = (taken.before.node name).endpoint
  destination : packet.destination ∈ (taken.before.node name).connection.remotes
  bytes : packet.bytes = sending.buffer

/-- At this step the process has got to know the remote: it was given to it, or a message of
somebody with an id has come from there. -/
inductive Meets (taken : Step Name) (name : Name) (remote : Remote) : Prop where
  | given (action : taken.action = .addRemote name remote)
  | heard {packet : Packet} {leftOver : Bytes} {message : MavlinkMessage}
      (action : taken.action = .arrive name packet leftOver) (source : packet.source = remote)
      (handedOn : .handedOn name message ∈ taken.outputs) (sysid : message.sysid ≠ 0)

/-- What holds after the steps of a run, which has begun with `first`. -/
structure Sound (first : UdpNetwork Name) (log : List (Step Name)) (network : UdpNetwork Name) :
    Prop where
  endpoint : ∀ name, (network.node name).endpoint = (first.node name).endpoint
  ready : ∀ name, (network.node name).connection.receiver.channel.Ready
  sent : ∀ packet ∈ network.packets, ∃ taken ∈ log, ∃ name sending, Sends taken name sending packet
  distinct : ∀ name, (network.node name).connection.remotes.Nodup
  remotes : ∀ name remote, remote ∈ (network.node name).connection.remotes ↔
    remote ∈ (first.node name).connection.remotes ∨ ∃ taken ∈ log, Meets taken name remote

omit [DecidableEq Name] in
private theorem exists_mem_snoc {log : List (Step Name)} {taken : Step Name}
    {holds : Step Name → Prop} :
    (∃ other ∈ log ++ [taken], holds other) ↔ (∃ other ∈ log, holds other) ∨ holds taken := by
  simp only [List.mem_append, List.mem_singleton, or_and_right, exists_or, exists_eq_left]

omit [DecidableEq Name] in
theorem Sound.receives {first network : UdpNetwork Name} {log : List (Step Name)}
    (sound : Sound first log network) {name : Name} {packet : Packet} {leftOver : Bytes}
    (waiting : packet ∈ network.packets) :
    ∃ taken ∈ log, ∃ sender sending connection events message,
      Sends taken sender sending packet ∧
        (network.node name).connection.receiveOne mavlinkParser (packet.bytes.length + 1)
          (some ⟨packet.bytes, leftOver, packet.source⟩) = some (connection, events) ∧
        handedOn events = [message] ∧ message.frame = sending.frame ∧
        connection.receiver.channel.Ready ∧
        connection.remotes = if sending.systemId = 0 then (network.node name).connection.remotes
          else ((network.node name).connection.addRemote packet.source).remotes := by
  obtain ⟨taken, member, sender, sending, sends⟩ := sound.sent packet waiting
  obtain ⟨connection, events, message, received, rest⟩ :=
    receiveOne_buffer (sound.ready name) sending leftOver packet.source
  rw [← sends.bytes] at received
  exact ⟨taken, member, sender, sending, connection, events, message, sends, received, rest⟩

theorem Sound.setConnection {first network : UdpNetwork Name} {log : List (Step Name)}
    (sound : Sound first log network) {taken : Step Name} {name : Name}
    {connection : UdpConnection MavlinkChannel MavlinkMessage} (met : Option Remote)
    (ready : connection.receiver.channel.Ready)
    (remotes : connection.remotes = met.elim (network.node name).connection.remotes fun remote =>
      ((network.node name).connection.addRemote remote).remotes)
    (meets : ∀ other remote, Meets taken other remote ↔ other = name ∧ met = some remote) :
    Sound first (log ++ [taken]) (network.setConnection name connection) := by
  refine ⟨?_, ?_, ?_, ?_, ?_⟩
  · intro other
    rw [endpoint_setConnection, sound.endpoint]
  · intro other
    rw [connection_setConnection]
    split
    · exact ready
    · exact sound.ready other
  · intro packet member
    obtain ⟨earlier, inside, sends⟩ := sound.sent packet member
    exact ⟨earlier, List.mem_append_left _ inside, sends⟩
  · intro other
    rw [connection_setConnection]
    split
    · rw [remotes]
      cases met with
      | none => exact sound.distinct name
      | some remote => exact UdpConnection.nodup_addRemote (sound.distinct name)
    · exact sound.distinct other
  · intro other remote
    rw [exists_mem_snoc, ← or_assoc, ← sound.remotes, meets, connection_setConnection]
    by_cases same : other = name
    · subst same
      rw [if_pos rfl, remotes]
      cases met with
      | none => simp
      | some known => simp [UdpConnection.mem_addRemote, eq_comm]
    · simp [same]

theorem Sound.snoc {first : UdpNetwork Name} {log : List (Step Name)} {taken : Step Name}
    (sound : Sound first log taken.before) (legal : machine.Legal taken) :
    Sound first (log ++ [taken]) taken.after := by
  have step := stepped legal
  obtain ⟨network, action, after, outputs⟩ := taken
  simp only at sound step ⊢
  cases step with
  | send name sending sendto =>
    refine ⟨sound.endpoint, sound.ready, ?_, sound.distinct, ?_⟩
    · intro packet member
      rw [exists_mem_snoc]
      rcases List.mem_append.mp member with old | new
      · exact .inl (sound.sent packet old)
      · obtain ⟨remote, among, rfl⟩ := List.mem_map.mp new
        obtain ⟨known, taken⟩ := List.mem_filter.mp among
        exact .inr ⟨name, sending, ⟨sendto, rfl, taken⟩, rfl, known, rfl⟩
    · intro other remote
      rw [exists_mem_snoc, sound.remotes, ← or_assoc]
      refine (or_iff_left ?_).symm
      intro meets
      cases meets with
      | given action => cases action
      | heard action => cases action
  | @arrive name packet leftOver connection events waiting here received =>
    obtain ⟨_, _, _, sending, expected, those, message, _, receives, single, frame, ready, remotes⟩ :=
      sound.receives waiting
    cases received.symm.trans receives
    have sysid : message.sysid = sending.systemId := congrArg MavlinkFrame.sysid frame
    apply sound.setConnection (if sending.systemId = 0 then none else some packet.source) ready
    · rw [remotes]
      split <;> rfl
    · intro other remote
      constructor
      · intro meets
        cases meets with
        | given action => cases action
        | heard action source member known =>
          cases action
          rw [single] at member
          cases List.mem_singleton.mp member
          rw [sysid] at known
          rw [if_neg known, source]
          exact ⟨rfl, rfl⟩
      · rintro ⟨rfl, met⟩
        split at met
        · cases met
        next known =>
          cases met
          have handed : UdpEvent.handedOn other message ∈ (handedOn events).map (.handedOn other) :=
            by simp [single]
          rw [← sysid] at known
          exact .heard rfl rfl handed known
  | addRemote name remote =>
    apply sound.setConnection (some remote)
    · rw [UdpConnection.receiver_addRemote]
      exact sound.ready name
    · rfl
    · intro other known
      constructor
      · intro meets
        cases meets with
        | given action => cases action; exact ⟨rfl, rfl⟩
        | heard action => cases action
      · rintro ⟨rfl, met⟩
        cases met
        exact .given rfl

theorem Sound.run {first last : UdpNetwork Name} {log : List (Step Name)}
    (run : machine.Run first log last) (start : Sound first [] first) : Sound first log last := by
  induction run with
  | nil => exact start
  | snoc run legal ih => exact ih.snoc legal

/-- Nothing has been sent, no frame has begun, and nobody has a remote twice. -/
structure Fresh (network : UdpNetwork Name) : Prop where
  packets : network.packets = []
  ready : ∀ name, (network.node name).connection.receiver.channel.Ready
  distinct : ∀ name, (network.node name).connection.remotes.Nodup

omit [DecidableEq Name] in
theorem Fresh.sound {network : UdpNetwork Name} (fresh : network.Fresh) :
    Sound network [] network := by
  refine ⟨fun _ => rfl, fresh.ready, ?_, fresh.distinct, ?_⟩
  · intro packet member
    rw [fresh.packets] at member
    cases member
  · simp

variable {first last : UdpNetwork Name} {log before after : List (Step Name)} {taken : Step Name}
  {name : Name}

/-- A datagram that arrives has been sent earlier, by the process at its source to the one that it
arrives at, and the message in it is handed on as it was sent, whatever else is under way. -/
theorem arrives_as_sent (run : machine.Run first log last) (fresh : first.Fresh)
    (split : log = before ++ taken :: after) {packet : Packet} {leftOver : Bytes}
    (arrives : taken.action = .arrive name packet leftOver) :
    ∃ sent ∈ before, ∃ sender sending, Sends sent sender sending packet ∧
      packet.source = (first.node sender).endpoint ∧
      packet.destination = (first.node name).endpoint ∧
      ∃ message, taken.outputs = [.handedOn name message] ∧ message.frame = sending.frame := by
  obtain ⟨earlier, legal, _⟩ := run.at split
  have sound := fresh.sound.run earlier
  have step := stepped legal
  obtain ⟨network, action, next, outputs⟩ := taken
  simp only at sound arrives step
  subst arrives
  cases step with
  | arrive waiting here received =>
    obtain ⟨sent, member, sender, sending, _, _, message, sends, receives, single, frame, _⟩ :=
      sound.receives waiting
    cases received.symm.trans receives
    refine ⟨sent, member, sender, sending, sends, ?_, ?_, message, ?_, frame⟩
    · obtain ⟨front, back, among⟩ := List.append_of_mem member
      rw [sends.source, (fresh.sound.run (earlier.at among).1).endpoint]
    · rw [here, sound.endpoint]
    · rw [single]
      rfl

def sample : UdpNetwork Bool where
  node name := if name then ⟨⟨"10.0.0.2", 14550⟩, { sampleConnection with
      remotes := [⟨"10.0.0.1", 14540⟩] }⟩
    else ⟨⟨"10.0.0.1", 14540⟩, sampleConnection⟩

private theorem fresh_sample : sample.Fresh := by
  refine ⟨rfl, ?_, ?_⟩
  · intro name
    cases name <;> exact .inl rfl
  · intro name
    cases name <;> decide

def samplePacket : Packet := ⟨⟨"10.0.0.2", 14550⟩, ⟨"10.0.0.1", 14540⟩, sampleSending.buffer⟩

def sampleSent : Step Bool where
  before := sample
  action := .send true sampleSending fun _ => true
  after := { sample with packets := [samplePacket] }
  outputs := [.sent true true]

private theorem run_sampleSent : machine.Run sample ([] ++ [sampleSent]) sampleSent.after :=
  .snoc .nil rfl

/-- The heartbeat arrives at the other process, which did not know where to send anything. -/
theorem arrives_as_sent_heartbeat :
    ∃ taken : Step Bool, taken.action = .arrive false samplePacket [] ∧
      ∃ sent ∈ [sampleSent], ∃ sender sending, Sends sent sender sending samplePacket ∧
        samplePacket.source = (sample.node sender).endpoint ∧
        samplePacket.destination = (sample.node false).endpoint ∧
        ∃ message, taken.outputs = [.handedOn false message] ∧ message.frame = sending.frame := by
  obtain ⟨connection, events, _, received, _⟩ :=
    @receiveOne_buffer sampleConnection (.inl rfl) sampleSending [] ⟨"10.0.0.2", 14550⟩
  let taken : Step Bool := ⟨sampleSent.after, .arrive false samplePacket [],
    sampleSent.after.setConnection false connection, (handedOn events).map (.handedOn false)⟩
  have legal : machine.Legal taken := by
    have arrives : samplePacket ∈ sampleSent.after.packets ∧
        samplePacket.destination = (sampleSent.after.node false).endpoint :=
      ⟨List.mem_singleton_self _, rfl⟩
    have step : (sampleSent.after.node false).connection.receiveOne mavlinkParser
        (samplePacket.bytes.length + 1) (some ⟨samplePacket.bytes, [], samplePacket.source⟩) =
          some (connection, events) := received
    simp only [taken, Machine.Legal, machine]
    rw [if_pos arrives, step]
  exact ⟨taken, rfl, arrives_as_sent (run_sampleSent.snoc legal) fresh_sample rfl rfl⟩

/-- Whom a process sends to is decided by its past: each remote that it was given or has heard from
gets the message exactly once, unless its `sendto` fails, and nobody else gets it. The result tells
whether there is such a remote and all have got it. -/
theorem sends_to_remotes_met (run : machine.Run first log last) (fresh : first.Fresh)
    (split : log = before ++ taken :: after) {sending : Sending} {sendto : Remote → Bool}
    (sends : taken.action = .send name sending sendto) :
    ∃ remotes : List Remote, remotes.Nodup ∧
      (∀ remote, remote ∈ remotes ↔ remote ∈ (first.node name).connection.remotes ∨
        ∃ taken ∈ before, Meets taken name remote) ∧
      taken.after.packets = taken.before.packets ++ (remotes.filter sendto).map
        (fun remote => ⟨(first.node name).endpoint, remote, sending.buffer⟩) ∧
      taken.outputs = [.sent name (decide (remotes ≠ []) && remotes.all sendto)] := by
  obtain ⟨earlier, legal, _⟩ := run.at split
  have sound := fresh.sound.run earlier
  have step := stepped legal
  obtain ⟨network, action, next, outputs⟩ := taken
  simp only at sound sends step ⊢
  subst sends
  cases step with
  | send =>
    refine ⟨(network.node name).connection.remotes, sound.distinct name, sound.remotes name, ?_, rfl⟩
    rw [sound.endpoint]

def sends (network : UdpNetwork Name) (name : Name) (sending : Sending) (sendto : Remote → Bool) :
    Step Name where
  before := network
  action := .send name sending sendto
  after := { network with
    packets := network.packets ++ ((network.node name).connection.sendMessage sendto
      sending.finalized).2.map fun (remote, bytes) => ⟨(network.node name).endpoint, remote, bytes⟩ }
  outputs := [.sent name ((network.node name).connection.sendMessage sendto sending.finalized).1]

private theorem run_sends {first network : UdpNetwork Name} {log : List (Step Name)}
    (run : machine.Run first log network) (name : Name) (sending : Sending)
    (sendto : Remote → Bool) : machine.Run first (log ++ [sends network name sending sendto])
      (sends network name sending sendto).after :=
  run.snoc rfl

/-- A process that was given no remote has heard a heartbeat, and sends one to where it came
from. -/
def sampleHeard : List (UdpAction Bool) :=
  [.send true sampleSending fun _ => true, .arrive false samplePacket [7]]

def sampleAnswer : Step Bool :=
  sends (machine.last sample sampleHeard) false sampleSending fun _ => true

theorem sends_to_remotes_met_heartbeat :
    sampleAnswer.before.packets.length = 1 ∧ sampleAnswer.after.packets.length = 2 ∧
    ∃ remotes : List Remote, remotes.Nodup ∧
      (∀ remote, remote ∈ remotes ↔ remote ∈ (sample.node false).connection.remotes ∨
        ∃ taken ∈ machine.log sample sampleHeard, Meets taken false remote) ∧
      sampleAnswer.after.packets = sampleAnswer.before.packets ++
        (remotes.filter fun _ => true).map
          (fun remote => ⟨(sample.node false).endpoint, remote, sampleSending.buffer⟩) ∧
      sampleAnswer.outputs = [.sent false (decide (remotes ≠ []) && remotes.all fun _ => true)] := by
  have heard := machine.run_last sample sampleHeard (by decide +kernel)
  have answered := run_sends heard false sampleSending fun _ => true
  refine ⟨by decide +kernel, by decide +kernel, ?_⟩
  exact sends_to_remotes_met answered fresh_sample rfl rfl

end UdpNetwork
end PilotingMavsdk
