import PilotingMavsdk.Proofs.Frames

/-! What a connection hands on: all that has been sent, nothing that is not a whole frame with the
right checksum, and nothing of a frame in which the checksum notices the damage. -/

namespace PilotingMavsdk
open Library

/-- All sent messages are handed on, in their order and as they were sent, wherever the datagrams
begin and end. A datagram that has been lost, repeated or overtaken is part of what is sent. -/
theorem receive_sent (sent : List Sending) (calls : List (Option Datagram))
    (connection : UdpConnection MavlinkChannel MavlinkMessage)
    (ready : connection.receiver.channel.Ready)
    (bytes : UdpConnection.received calls = sent.flatMap Sending.buffer) :
    ∃ enough, ∀ rounds, enough ≤ rounds →
      ∃ last events, connection.receive mavlinkParser rounds calls = some (last, events) ∧
        (handedOn events).map MavlinkMessage.frame = sent.map Sending.frame ∧
        last.receiver.channel.Ready :=
  ⟨(UdpConnection.received calls).length + 1, fun _ enough => handedOn_sent ready bytes enough⟩

def sampleSending : Sending where
  message := { msgid := 0, payload := (Vector.replicate 264 0).set 4 1 }
  systemId := 1
  componentId := 2
  status := {}
  minLength := 9
  length := 9
  crcExtra := 50
  checked := by decide +kernel
  narrow := by intro first; cases first

def sampleConnection : UdpConnection MavlinkChannel MavlinkMessage := ⟨⟨{}, {}, none, 0⟩, []⟩

theorem receive_sent_twice :
    ∃ enough, ∀ rounds, enough ≤ rounds →
      ∃ last events, sampleConnection.receive mavlinkParser rounds
          [some ⟨sampleSending.buffer.take 3, [], ⟨"", 0⟩⟩, none,
            some ⟨sampleSending.buffer.drop 3 ++ sampleSending.buffer, [0xfd], ⟨"", 0⟩⟩] =
          some (last, events) ∧
        (handedOn events).map MavlinkMessage.frame =
          [sampleSending, sampleSending].map Sending.frame ∧
        last.receiver.channel.Ready := by
  refine receive_sent [sampleSending, sampleSending] _ sampleConnection (.inl rfl) ?_
  rw [UdpConnection.received]
  simp only [List.flatMap_cons, List.flatMap_nil, Option.map_some, Option.map_none,
    Option.getD_some, Option.getD_none, List.nil_append, List.append_nil]
  rw [← List.append_assoc, List.take_append_drop]

/-- Whatever arrives, a message that is handed on has been read from a whole frame with the right
checksum, and the frames lie one behind the other in the bytes. -/
theorem receive_occur (calls : List (Option Datagram))
    (connection : UdpConnection MavlinkChannel MavlinkMessage)
    (ready : connection.receiver.channel.Ready) :
    ∃ enough, ∀ rounds, enough ≤ rounds →
      ∃ last events frames, connection.receive mavlinkParser rounds calls = some (last, events) ∧
        List.Forall₂ (fun message frame => Carried message frame.1 frame.2) (handedOn events)
          frames ∧
        mavlinkFrames.Occur frames (UdpConnection.received calls) := by
  refine ⟨(UdpConnection.received calls).length + 1, ?_⟩
  intro rounds enough
  obtain ⟨last, events, ends, parsed⟩ := handedOn_receive calls connection enough
  have carried := ((Reading.idle ready).transduce (UdpConnection.received calls)).2
  rw [parsed] at carried
  exact ⟨last, events, _, ends, carried, Framing.occur_transduce (UdpConnection.received calls)⟩

theorem receive_occur_cut :
    ∃ enough, ∀ rounds, enough ≤ rounds →
      ∃ last events frames, sampleConnection.receive mavlinkParser rounds
          [some ⟨[0xfe, 1, 0xfd], [], ⟨"", 0⟩⟩, some ⟨sampleSending.buffer, [], ⟨"", 0⟩⟩] =
          some (last, events) ∧
        List.Forall₂ (fun message frame => Carried message frame.1 frame.2) (handedOn events)
          frames ∧
        mavlinkFrames.Occur frames (UdpConnection.received
          [some ⟨[0xfe, 1, 0xfd], [], ⟨"", 0⟩⟩, some ⟨sampleSending.buffer, [], ⟨"", 0⟩⟩]) :=
  receive_occur _ sampleConnection (.inl rfl)

/-- Of a sent frame, content and checksum as they arrive. What tells the parser where the frame ends
and which checksum it has is as it was, and the wrong bits are few or odd in number, or all in the
checksum. -/
structure Damaged (sending : Sending) (content : Bytes) (first second : UInt8) : Prop where
  length : content.length = (sending.finalized.contentOf sending.version).length
  len : content.getD 0 0 = (sending.finalized.contentOf sending.version).getD 0 0
  flags : sending.version = .v2 →
    content.getD 1 0 = (sending.finalized.contentOf sending.version).getD 1 0
  msgid : sending.version.msgid content =
    sending.version.msgid (sending.finalized.contentOf sending.version)
  wrong :
    (Burst (sending.finalized.contentOf sending.version) content ∨
        OddlyWrong (sending.finalized.contentOf sending.version) content) ∧
      [first, second] = MavlinkVersion.ck sending.finalized.checksum ∨
    content = sending.finalized.contentOf sending.version ∧
      [first, second] ≠ MavlinkVersion.ck sending.finalized.checksum

private theorem ck_injective {checksum other : UInt16}
    (same : MavlinkVersion.ck checksum = MavlinkVersion.ck other) : checksum = other := by
  have low (value : UInt16) : (ckBytes value).1.toNat = value.toNat % 256 := by
    show (value &&& 0xff).toUInt8.toNat = _
    rw [UInt16.toNat_toUInt8, UInt16.toNat_and]
    have mask : value.toNat &&& (255 : Nat) = value.toNat % 2 ^ 8 :=
      Nat.and_two_pow_sub_one_eq_mod value.toNat 8
    show (value.toNat &&& 255) % 256 = _
    rw [mask]
    omega
  have high (value : UInt16) : (ckBytes value).2.toNat = value.toNat / 256 := by
    have small := value.toNat_lt
    show (value >>> 8).toUInt8.toNat = _
    rw [UInt16.toNat_toUInt8, UInt16.toNat_shiftRight]
    show value.toNat >>> 8 % 256 = _
    rw [Nat.shiftRight_eq_div_pow]
    omega
  obtain ⟨first, rest⟩ := List.cons.inj same
  have second := (List.cons.inj rest).1
  have lows := congrArg UInt8.toNat first
  have highs := congrArg UInt8.toNat second
  rw [low, low] at lows
  rw [high, high] at highs
  apply UInt16.toNat_inj.mp
  omega

private theorem crcAccumulate_injective (data : UInt8) :
    Function.Injective (crcAccumulate data) := by
  intro first second same
  have registers := congrArg UInt16.toBitVec same
  rw [toBitVec_crcAccumulate, toBitVec_crcAccumulate] at registers
  exact UInt16.toBitVec_inj.mp (x25.takeBits_injective _ registers)

variable {sending : Sending} {content : Bytes} {first second : UInt8}

private theorem Damaged.mismatch (damaged : Damaged sending content first second) :
    [first, second] ≠ MavlinkVersion.ck (sending.version.checksum content) := by
  rcases damaged.wrong with ⟨bits, ck⟩ | ⟨same, ck⟩
  · intro match'
    rw [ck] at match'
    have sums := ck_injective match'
    rw [sending.checksum, MavlinkVersion.checksum, MavlinkVersion.checksum, damaged.msgid] at sums
    have equal := crcAccumulate_injective _ sums
    rcases bits with burst | odd
    · exact crcAccumulateBuffer_ne_of_burst _ burst equal
    · exact crcAccumulateBuffer_ne_of_odd _ odd equal
  · rw [same, ← sending.checksum]
    exact ck

theorem Damaged.acceptable (damaged : Damaged sending content first second) :
    Acceptable sending.version content := by
  have sent := sending.acceptable
  refine ⟨?_, ?_⟩
  · rw [Whole, damaged.length, MavlinkVersion.contentLength, damaged.len]
    exact sent.whole
  · intro second
    rw [damaged.flags second]
    exact sent.understood second

theorem Damaged.unsigned (damaged : Damaged sending content first second) :
    ¬ sending.version.Signed content := by
  rintro ⟨two, signed⟩
  rw [damaged.flags two] at signed
  exact sending.unsigned ⟨two, signed⟩

/-- Nothing is handed on of a damaged frame. The channel is ready again, unless the last byte looks
like the beginning of another frame. -/
theorem receive_damaged (damaged : Damaged sending content first second)
    (calls : List (Option Datagram)) (connection : UdpConnection MavlinkChannel MavlinkMessage)
    (ready : connection.receiver.channel.Ready)
    (bytes : UdpConnection.received calls =
      sending.finalized.magic :: (content ++ [first, second])) :
    ∃ enough, ∀ rounds, enough ≤ rounds →
      ∃ last events, connection.receive mavlinkParser rounds calls = some (last, events) ∧
        handedOn events = [] ∧ (second ≠ mavlinkStx → last.receiver.channel.Ready) := by
  refine ⟨(UdpConnection.received calls).length + 1, ?_⟩
  intro rounds enough
  obtain ⟨last, events, ends, parsed⟩ := handedOn_receive calls connection enough
  obtain ⟨reading, carried⟩ := (Reading.idle ready).transduce (UdpConnection.received calls)
  have frame := damaged.acceptable.ends damaged.unsigned first second
  rw [if_neg damaged.mismatch] at frame
  have read := Framing.transduce_ends sending.starts frame
  rw [parsed, bytes, read] at reading carried
  refine ⟨last, events, ends, ?_, ?_⟩
  · exact List.forall₂_nil_right_iff.mp carried
  · intro other
    rw [if_neg other] at reading
    exact reading.ready

def sampleSendingMavlink1 : Sending :=
  { sampleSending with
    status := { outMavlink1 := true }
    narrow := by
      intro
      decide }

/-- One bit of the sequence number of a frame of the first version is wrong. -/
theorem receive_damaged_seq :
    ∃ enough, ∀ rounds, enough ≤ rounds →
      ∃ last events, sampleConnection.receive mavlinkParser rounds
          [some ⟨sampleSendingMavlink1.finalized.magic ::
            ([9, 1, 1, 2, 0, 0, 0, 0, 0, 1, 0, 0, 0, 0] ++
              [(ckBytes sampleSendingMavlink1.finalized.checksum).1,
                (ckBytes sampleSendingMavlink1.finalized.checksum).2]), [], ⟨"", 0⟩⟩] =
          some (last, events) ∧
        handedOn events = [] ∧
          ((ckBytes sampleSendingMavlink1.finalized.checksum).2 ≠ mavlinkStx →
            last.receiver.channel.Ready) := by
  have content : sampleSendingMavlink1.finalized.contentOf sampleSendingMavlink1.version =
      [9, 0, 1, 2, 0, 0, 0, 0, 0, 1, 0, 0, 0, 0] := by
    rw [sampleSendingMavlink1.contentOf_finalized]
    decide +kernel
  have damaged : Damaged sampleSendingMavlink1 [9, 1, 1, 2, 0, 0, 0, 0, 0, 1, 0, 0, 0, 0]
      (ckBytes sampleSendingMavlink1.finalized.checksum).1
      (ckBytes sampleSendingMavlink1.finalized.checksum).2 := by
    constructor
    · rw [content]
      rfl
    · rw [content]
      rfl
    · intro second
      cases second
    · rw [content]
      rfl
    · rw [content]
      exact .inl ⟨.inr ⟨rfl, by decide +kernel⟩, rfl⟩
  exact receive_damaged damaged _ sampleConnection (.inl rfl) (List.append_nil _)

private theorem bounded_mavlinkFrames : mavlinkFrames.Bounded 279 := by
  intro version body more
  have length : version.contentLength body ≤ 264 := by
    have small := (body.getD 0 0).toNat_lt
    have header : version.headerLength ≤ 9 := by cases version <;> decide
    rw [MavlinkVersion.contentLength]
    omega
  by_contra long
  have judged : mavlinkFrames.verdict version body = .complete := by
    show version.judge body = _
    rw [MavlinkVersion.judge, if_neg (fun refused => by have two := refused.2.1; omega),
      if_neg (by omega), if_neg (by omega), if_neg (by omega)]
  rw [judged] at more
  cases more

/-- Whatever has arrived before: after as many bytes as the longest frame has, none of which begins
a frame, all that is sent is handed on again. -/
theorem receive_recovers (before quiet : Bytes) (sent : List Sending)
    (calls : List (Option Datagram)) (connection : UdpConnection MavlinkChannel MavlinkMessage)
    (ready : connection.receiver.channel.Ready)
    (silent : ∀ c ∈ quiet, c ≠ mavlinkStx ∧ c ≠ mavlinkStxMavlink1)
    (long : 279 ≤ quiet.length)
    (bytes : UdpConnection.received calls = before ++ quiet ++ sent.flatMap Sending.buffer) :
    ∃ enough, ∀ rounds, enough ≤ rounds →
      ∃ last events, connection.receive mavlinkParser rounds calls = some (last, events) ∧
        sent.map Sending.frame <:+ (handedOn events).map MavlinkMessage.frame ∧
        last.receiver.channel.Ready := by
  refine ⟨(UdpConnection.received calls).length + 1, ?_⟩
  intro rounds enough
  obtain ⟨last, events, ends, parsed⟩ := handedOn_receive calls connection enough
  have reading := ((Reading.idle ready).transduce (before ++ quiet)).1
  have idle : (transduce mavlinkFrames.read none (before ++ quiet)).1 = none := by
    rw [transduce_append]
    refine Framing.transduce_recovers bounded_mavlinkFrames _ ?_ long (by decide)
    intro c member
    have other := silent c member
    show MavlinkVersion.starts c = none
    rw [MavlinkVersion.starts, if_neg other.1, if_neg other.2]
  rw [idle] at reading
  obtain ⟨done, frames⟩ := transduce_buffers reading.ready sent
  rw [bytes, transduce_append] at parsed
  have channel := congrArg Prod.fst parsed
  have messages := congrArg Prod.snd parsed
  simp only at channel messages
  rw [channel] at done
  refine ⟨last, events, ends, ?_, done⟩
  rw [← messages, List.map_append, frames]
  exact List.suffix_append _ _

theorem receive_recovers_zeros :
    ∃ enough, ∀ rounds, enough ≤ rounds →
      ∃ last events, sampleConnection.receive mavlinkParser rounds
          [some ⟨[0xfd, 9] ++ List.replicate 279 0 ++ [sampleSending].flatMap Sending.buffer, [],
            ⟨"", 0⟩⟩] = some (last, events) ∧
        [sampleSending].map Sending.frame <:+ (handedOn events).map MavlinkMessage.frame ∧
        last.receiver.channel.Ready := by
  refine receive_recovers [0xfd, 9] (List.replicate 279 0) [sampleSending] _ sampleConnection
    (.inl rfl) ?_ (Nat.le_of_eq List.length_replicate.symm) (List.append_nil _)
  intro c member
  rw [(List.mem_replicate.mp member).2]
  decide

/-- The places at which the next byte is stored lie within the arrays. What is left of the payload
is filled with zeros from its end on. -/
structure MavlinkChannel.Inside (channel : MavlinkChannel) : Prop where
  payload : channel.status.parseState = .gotMsgid3 →
    channel.status.packetIdx < channel.rxmsg.len
  filling : channel.status.parseState = .gotPayload →
    channel.status.packetIdx = channel.rxmsg.len
  signature : channel.status.parseState = .signatureWait →
    13 - channel.status.signatureWait.toNat < 13 ∧ channel.status.signatureWait.toNat ≤ 13

theorem Reading.inside {channel : MavlinkChannel} {state : Option (MavlinkVersion × Bytes)}
    (reading : Reading channel state) : channel.Inside := by
  cases reading with
  | idle state => rcases state with state | state <;> constructor <;> simp [state]
  | header versioned place =>
    refine ⟨fun state => ?_, fun state => ?_, fun state => ?_⟩
    all_goals
      rw [state] at place
      cases place
  | payload versioned headed state index =>
    refine ⟨fun _ => index, fun other => ?_, fun other => ?_⟩
    all_goals
      rw [state] at other
      cases other
  | checking versioned headed state index =>
    refine ⟨fun other => ?_, fun _ => index, fun other => ?_⟩
    all_goals
      rw [state] at other
      cases other
  | crc versioned headed checksum state =>
    refine ⟨fun other => ?_, fun other => ?_, fun other => ?_⟩
    all_goals
      rw [state] at other
      split at other <;> cases other
  | signature versioned headed checksum state ck signed positive room =>
    have some := UInt8.lt_iff_toNat_lt.mp positive
    have few := UInt8.le_iff_toNat_le.mp room
    have zero : (0 : UInt8).toNat = 0 := rfl
    have thirteen : (13 : UInt8).toNat = 13 := rfl
    refine ⟨fun other => ?_, fun other => ?_, fun _ => ⟨by omega, by omega⟩⟩
    all_goals
      rw [state] at other
      cases other

/-- No sequence of bytes makes the parser write beyond its arrays. -/
theorem inside_transduce (channel : MavlinkChannel) (ready : channel.Ready) (stream : Bytes) :
    (transduce MavlinkChannel.step channel stream).1.Inside :=
  ((Reading.idle ready).transduce stream).1.inside

/-- Two signed messages that break off, the first in its payload and the second in its signature. -/
theorem inside_transduce_stored :
    let ck := ckBytes (MavlinkVersion.checksum .v2 [1, 1, 0, 0, 1, 1, 0, 0, 0, 42])
    let payload := (transduce MavlinkChannel.step {}
      [0xfd, 9, 1, 0, 0, 1, 1, 0, 0, 0, 42, 43]).1
    let signature := (transduce MavlinkChannel.step {}
      [0xfd, 1, 1, 0, 0, 1, 1, 0, 0, 0, 42, ck.1, ck.2, 1, 2, 3]).1
    (payload.status.parseState = .gotMsgid3 ∧ payload.Inside) ∧
      signature.status.parseState = .signatureWait ∧ signature.Inside := by
  intro ck payload signature
  refine ⟨⟨?_, ?_⟩, ?_, ?_⟩
  · decide +kernel
  · exact inside_transduce {} (.inl rfl) [0xfd, 9, 1, 0, 0, 1, 1, 0, 0, 0, 42, 43]
  · decide +kernel
  · exact inside_transduce {} (.inl rfl)
      [0xfd, 1, 1, 0, 0, 1, 1, 0, 0, 0, 42, ck.1, ck.2, 1, 2, 3]

end PilotingMavsdk
