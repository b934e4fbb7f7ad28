import PilotingMavsdk.Library.Transducer
import PilotingMavsdk.MavlinkReceiver

/-! Datagram boundaries do not matter. Each call of `parse_message` takes the bytes up to the end of
a message, and the calls for one datagram take all of it, so what is handed on is what a parser
makes of the bytes alone. -/

namespace PilotingMavsdk
open Library

/-- What a parser that is given single bytes does with one of them. -/
def MavlinkParser.step {Channel Message : Type} (parser : MavlinkParser Channel Message)
    (channel : Channel) (byte : UInt8) : Channel × List (ReceiverEvent Message) :=
  let (after, complete) := parser.parseChar channel byte
  (after, .parsed byte :: complete.toList.map .handedOn)

section
variable {Channel Message : Type} {parser : MavlinkParser Channel Message}

namespace MAVLinkReceiver

/-- What the loop of `parse_message` does from `i` on, with these bytes still unread: it takes all
of them, or those up to the end of a message. -/
inductive Parses (parser : MavlinkParser Channel Message)
    (receiver : MAVLinkReceiver Channel Message) (start i : Nat) (unread : List UInt8) :
    MAVLinkReceiver Channel Message × Bool × List UInt8 → Prop where
  | exhausted {channel : Channel}
      (taken : transduce parser.step receiver.channel unread = (channel, unread.map .parsed)) :
      Parses parser receiver start i unread
        ({ receiver with channel := channel, datagram := none, datagramLen := 0 }, false, unread)
  | complete {bytes rest : List UInt8} {channel : Channel} {message : Message}
      (split : unread = bytes ++ rest) (nonempty : bytes ≠ [])
      (taken : transduce parser.step receiver.channel bytes =
        (channel, bytes.map .parsed ++ [.handedOn message])) :
      Parses parser receiver start i unread
        (⟨channel, message, some (start + (i + bytes.length)),
          receiver.datagramLen - (i + bytes.length)⟩, true, bytes)

private theorem parses_parseFrom {receiver : MAVLinkReceiver Channel Message} {start i : Nat}
    {before unread behind : List UInt8} (pointer : receiver.datagram = some start)
    (reached : before.length = start + i) :
    Parses parser receiver start i unread
      (parseFrom parser (before ++ (unread ++ behind)) i unread.length receiver) := by
  induction unread generalizing receiver i before with
  | nil => exact .exhausted rfl
  | cons byte unread ih =>
    have here : (before ++ (byte :: unread ++ behind)).getD
        (receiver.datagram.getD 0 + i) 0 = byte := by
      rw [pointer, Option.getD_some, ← reached]
      simp
    simp only [List.length_cons, parseFrom, here]
    cases parsed : parser.parseChar receiver.channel byte with
    | mk channel complete =>
      have single : parser.step receiver.channel byte =
          (channel, .parsed byte :: complete.toList.map .handedOn) := by
        simp only [MavlinkParser.step, parsed]
      cases complete with
      | some message =>
        simp only [pointer, Option.map_some]
        refine .complete (rfl : _ = [byte] ++ unread) (List.cons_ne_nil _ _) ?_
        rw [transduce, single]
        rfl
      | none =>
        have regrouped : before ++ (byte :: unread ++ behind) =
            (before ++ [byte]) ++ (unread ++ behind) := by simp
        have further := @ih { receiver with channel := channel } (i + 1) (before ++ [byte]) pointer
          (by rw [List.length_append, reached]; rfl)
        rw [← regrouped] at further
        simp only
        generalize parseFrom parser (before ++ (byte :: unread ++ behind)) (i + 1) unread.length
          { receiver with channel := channel } = result at further
        cases further with
        | exhausted taken =>
          refine .exhausted ?_
          rw [transduce, single, taken]
          rfl
        | @complete bytes rest last message split nonempty taken =>
          have moved : i + 1 + bytes.length = i + (byte :: bytes).length := by
            rw [List.length_cons]
            omega
          rw [moved]
          refine .complete (congrArg (byte :: ·) split) (List.cons_ne_nil _ _) ?_
          rw [transduce, single, taken]
          rfl

end MAVLinkReceiver

namespace UdpConnection

def Reads (parser : MavlinkParser Channel Message) (bytes : List UInt8)
    (before : UdpConnection Channel Message)
    (result : UdpConnection Channel Message × List (ReceiverEvent Message)) : Prop :=
  transduce parser.step before.receiver.channel bytes = (result.1.receiver.channel, result.2)

theorem Reads.append {bytes more : List UInt8} {first middle last : UdpConnection Channel Message}
    {events later : List (ReceiverEvent Message)}
    (before : Reads parser bytes first (middle, events))
    (after : Reads parser more middle (last, later)) :
    Reads parser (bytes ++ more) first (last, events ++ later) := by
  rw [Reads] at before after ⊢
  rw [transduce_append, before, after]

@[simp] theorem receiver_addRemote (remote : Remote) (connection : UdpConnection Channel Message) :
    (connection.addRemote remote).receiver = connection.receiver := by
  rw [addRemote]
  split <;> rfl

/-- As there is one call of `parse_message` more than there are bytes, the loop ends, and it has
taken all of them. -/
private theorem reads_parseMessages (source : Remote) {rounds : Nat} {savedRemote : Bool}
    {connection : UdpConnection Channel Message} {before unread behind : List UInt8}
    (pointer : connection.receiver.datagram = some before.length)
    (length : connection.receiver.datagramLen = unread.length) (enough : unread.length < rounds) :
    ∃ result, parseMessages parser (before ++ (unread ++ behind)) source rounds savedRemote
      connection = some result ∧ Reads parser unread connection result := by
  induction rounds generalizing savedRemote connection before unread with
  | zero => omega
  | succ rounds ih =>
    have parses : MAVLinkReceiver.Parses parser connection.receiver before.length 0 unread
        (MAVLinkReceiver.parseMessage parser (before ++ (unread ++ behind))
          connection.receiver) := by
      rw [MAVLinkReceiver.parseMessage, length]
      exact MAVLinkReceiver.parses_parseFrom pointer rfl
    rw [parseMessages]
    generalize MAVLinkReceiver.parseMessage parser (before ++ (unread ++ behind))
      connection.receiver = called at parses
    cases parses with
    | exhausted taken => exact ⟨_, rfl, taken⟩
    | @complete bytes rest channel message split nonempty taken =>
      simp only
      generalize (!savedRemote && parser.sysid message != 0) = saves
      let receiver : MAVLinkReceiver Channel Message := ⟨channel, message,
        some (before.length + (0 + bytes.length)),
        connection.receiver.datagramLen - (0 + bytes.length)⟩
      let known : UdpConnection Channel Message := { connection with receiver := receiver }
      have after : (if saves then known.addRemote source else known).receiver = receiver := by
        cases saves
        · rfl
        · exact receiver_addRemote source known
      have fewer : 0 < bytes.length := List.length_pos_iff.mpr nonempty
      have lengths : unread.length = bytes.length + rest.length := by
        rw [split, List.length_append]
      obtain ⟨⟨last, events⟩, ends, reads⟩ := @ih (savedRemote || saves)
        (if saves then known.addRemote source else known) (before ++ bytes) rest
        (by rw [after, List.length_append, ← Nat.zero_add bytes.length])
        (by rw [after]; simp only [receiver]; omega) (by omega)
      rw [List.append_assoc, ← List.append_assoc bytes, ← split] at ends
      rw [ends]
      refine ⟨_, rfl, ?_⟩
      rw [Reads, after] at reads
      rw [Reads, split, transduce_append, taken, reads, List.append_assoc]
      rfl

def received (calls : List (Option Datagram)) : List UInt8 :=
  calls.flatMap fun call => (call.map Datagram.bytes).getD []

theorem reads_receiveOne (rounds : Nat) (call : Option Datagram)
    (connection : UdpConnection Channel Message) (enough : (received [call]).length < rounds) :
    ∃ result, receiveOne parser rounds call connection = some result ∧
      Reads parser (received [call]) connection result := by
  cases call with
  | none => exact ⟨_, rfl, rfl⟩
  | some datagram =>
    have bytes : received [some datagram] = datagram.bytes := by simp [received]
    rw [bytes] at enough ⊢
    rw [receiveOne]
    split
    next empty =>
      rw [empty]
      exact ⟨_, rfl, rfl⟩
    · exact @reads_parseMessages _ _ parser datagram.source rounds false
        { connection with receiver := connection.receiver.setNewDatagram datagram.bytes.length }
        [] datagram.bytes datagram.leftOver rfl rfl enough

theorem reads_receive (parser : MavlinkParser Channel Message) {rounds : Nat}
    {calls : List (Option Datagram)} {connection : UdpConnection Channel Message}
    (enough : (received calls).length < rounds) :
    ∃ result, receive parser rounds calls connection = some result ∧
      Reads parser (received calls) connection result := by
  induction calls generalizing connection with
  | nil => exact ⟨_, rfl, rfl⟩
  | cons call calls ih =>
    have parts : received (call :: calls) = received [call] ++ received calls := by
      simp [received]
    rw [parts, List.length_append] at enough
    obtain ⟨⟨middle, events⟩, one, before⟩ :=
      @reads_receiveOne _ _ parser rounds call connection (by omega)
    obtain ⟨⟨last, later⟩, rest, after⟩ := @ih middle (by omega)
    refine ⟨(last, events ++ later), ?_, ?_⟩
    · simp only [receive, one, rest, Option.bind_eq_bind, Option.bind_some, Option.pure_def]
    · rw [parts]
      exact before.append after

/-- However a sequence of bytes is cut into datagrams, whatever lies in the buffer behind them and
whatever the parser is: every datagram is read to its end, each byte goes into the parser once, and
the messages that are handed on are those that the bytes make one by one. -/
theorem receive_eq_transduce (parser : MavlinkParser Channel Message)
    (calls : List (Option Datagram)) (connection : UdpConnection Channel Message) :
    ∃ enough, ∀ rounds, enough ≤ rounds →
      ∃ last, receive parser rounds calls connection =
          some (last, (transduce parser.step connection.receiver.channel (received calls)).2) ∧
        last.receiver.channel =
          (transduce parser.step connection.receiver.channel (received calls)).1 := by
  refine ⟨(received calls).length + 1, ?_⟩
  intro rounds enough
  obtain ⟨⟨last, events⟩, ends, reads⟩ := reads_receive parser enough
  refine ⟨last, ?_, ?_⟩
  · rw [ends, reads]
  · rw [reads]

end UdpConnection
end
end PilotingMavsdk
