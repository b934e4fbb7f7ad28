import PilotingMavsdk.Proofs.Checksum
import PilotingMavsdk.Proofs.Datagrams
import PilotingMavsdk.Proofs.FrameReading
import PilotingMavsdk.Proofs.TextRoundTrip

/-! What is sent is what is handed on. The buffer of a finalized message is one complete frame, so
messages come out as they went in, however their bytes are cut into datagrams. -/

namespace PilotingMavsdk
open Library

/-- What a message says, whatever buffers it has gone through. -/
structure MavlinkFrame where
  version : MavlinkVersion
  incompatFlags : UInt8
  compatFlags : UInt8
  seq : UInt8
  sysid : UInt8
  compid : UInt8
  msgid : BitVec 24
  payload : Bytes
deriving DecidableEq, Repr

namespace MavlinkMessage

def version (message : MavlinkMessage) : MavlinkVersion :=
  if message.magic = mavlinkStxMavlink1 then .v1 else .v2

def frame (message : MavlinkMessage) : MavlinkFrame :=
  ⟨message.version, message.incompatFlags, message.compatFlags, message.seq, message.sysid,
    message.compid, message.msgid, message.payload.toList.take message.len.toNat⟩

private theorem version_eq {message : MavlinkMessage} {version : MavlinkVersion}
    (magic : message.magic = mavlinkStxMavlink1 ↔ version = .v1) : message.version = version := by
  cases version with
  | v1 => exact if_pos (magic.mpr rfl)
  | v2 =>
    apply if_neg
    intro first
    cases magic.mp first

end MavlinkMessage

theorem trimmedLength_of_take {payload other : Bytes} {length : Nat}
    (same : payload.take length = other.take length) :
    trimmedLength payload length = trimmedLength other length := by
  induction length using trimmedLength.induct payload with
  | case1 => rfl
  | case2 => rfl
  | case3 length zero ih =>
    have last : payload[length + 1]? = other[length + 1]? := by
      rw [← List.getElem?_take_of_lt (Nat.lt_succ_self (length + 1)), same,
        List.getElem?_take_of_lt (Nat.lt_succ_self (length + 1))]
    have shorter : payload.take (length + 1) = other.take (length + 1) := by
      have taken := congrArg (List.take (length + 1)) same
      rwa [List.take_take, List.take_take, Nat.min_eq_left (Nat.le_succ _)] at taken
    rw [trimmedLength, trimmedLength, if_pos zero, if_pos (last ▸ zero), ih shorter]
  | case4 length other' =>
    have last : payload[length + 1]? = other[length + 1]? := by
      rw [← List.getElem?_take_of_lt (Nat.lt_succ_self (length + 1)), same,
        List.getElem?_take_of_lt (Nat.lt_succ_self (length + 1))]
    rw [trimmedLength, trimmedLength, if_neg other', if_neg (last ▸ other')]

private theorem trimmedLength_trimmedLength (payload : Bytes) (length : Nat) :
    trimmedLength payload (trimmedLength payload length) = trimmedLength payload length := by
  induction length using trimmedLength.induct payload with
  | case1 => rfl
  | case2 => rfl
  | case3 length zero ih =>
    have one : trimmedLength payload (length + 2) = trimmedLength payload (length + 1) := by
      rw [trimmedLength, if_pos zero]
    rw [one, ih]
  | case4 length other =>
    have one : trimmedLength payload (length + 2) = length + 2 := by
      rw [trimmedLength, if_neg other]
    rw [one, one]

/-- A message and what it is finalized with. A checksum is made with the byte that the table has for
the message, and the first version has one byte only for the number. -/
structure Sending where
  message : MavlinkMessage
  systemId : UInt8
  componentId : UInt8
  status : MavlinkStatus
  minLength : UInt8
  length : UInt8
  crcExtra : UInt8
  checked : crcExtra = mavlinkGetCrcExtra (uint32Msgid message.msgid)
  narrow : status.outMavlink1 = true → message.msgid.toNat < 256

namespace Sending
variable (sending : Sending)

def finalized : MavlinkMessage :=
  (mavlinkFinalizeMessageBuffer sending.message sending.systemId sending.componentId sending.status
    sending.minLength sending.length sending.crcExtra).1

def buffer : Bytes := mavlinkMsgToSendBuffer sending.finalized

def version : MavlinkVersion := if sending.status.outMavlink1 then .v1 else .v2

/-- Trailing zeros are not sent by the second version, and only the old fields by the first. -/
def payload : Bytes :=
  sending.message.payload.toList.take
    (if sending.status.outMavlink1 then sending.minLength.toNat
    else trimmedLength sending.message.payload.toList sending.length.toNat)

def frame : MavlinkFrame :=
  ⟨sending.version, 0, 0, sending.status.currentTxSeq, sending.systemId, sending.componentId,
    sending.message.msgid, sending.payload⟩

def header : MavlinkMessage :=
  sending.message.finalizeHeader sending.systemId sending.componentId sending.status
    sending.minLength sending.length

private theorem toNat_len : sending.header.len.toNat =
    if sending.status.outMavlink1 then sending.minLength.toNat
    else trimmedLength sending.message.payload.toList sending.length.toNat := by
  have shorter := trimmedLength_le sending.message.payload.toList sending.length.toNat
  have small := sending.length.toNat_lt
  rw [header, MavlinkMessage.finalizeHeader]
  cases sending.status.outMavlink1
  · exact Nat.mod_eq_of_lt (by omega)
  · rfl

theorem magic : sending.header.magic = mavlinkStxMavlink1 ↔ sending.version = .v1 := by
  rw [version]
  show (if sending.status.outMavlink1 = true then mavlinkStxMavlink1 else mavlinkStx) = _ ↔ _
  cases sending.status.outMavlink1 <;> decide

private theorem take_putChecksum (checksum : UInt16) (message : MavlinkMessage) :
    (message.putChecksum checksum).payload.toList.take message.len.toNat =
      message.payload.toList.take message.len.toNat := by
  rw [MavlinkMessage.putChecksum, Vector.toList_set, Vector.toList_set,
    List.take_set_of_le (Nat.le_succ _), List.take_set_of_le (Nat.le_refl _)]

theorem contentOf_finalized :
    sending.finalized.contentOf sending.version = sending.header.contentOf sending.version :=
  congrArg (sending.header.headerOf sending.version ++ ·) (take_putChecksum _ sending.header)

theorem headed : Headed sending.finalized sending.version := by
  have msgid : sending.finalized.msgid = sending.message.msgid := rfl
  cases which : sending.status.outMavlink1 with
  | true =>
    have first : sending.version = .v1 := by rw [version, which]; rfl
    rw [first]
    refine ⟨⟨rfl, rfl⟩, ?_⟩
    have small := sending.narrow which
    have one : sending.message.msgid = MavlinkVersion.number
        (UInt8.ofBitVec (sending.message.msgid.setWidth 8)) 0 0 := by
      rw [number_low]
      apply BitVec.eq_of_toNat_eq
      simp
      omega
    have low := (@msgidByte_number _ _ _ sending.finalized one).1
    show sending.finalized.msgid = MavlinkVersion.number (sending.finalized.msgidByte 0) 0 0
    rw [low, msgid, ← one]
  | false =>
    have second : sending.version = .v2 := by rw [version, which]; rfl
    rw [second]
    have none : (0 : UInt8) &&& ~~~mavlinkIflagMask = 0 := by decide
    exact ⟨none, (number_msgidByte sending.finalized).symm⟩

theorem checksum : sending.finalized.checksum =
    sending.version.checksum (sending.finalized.contentOf sending.version) := by
  have number : sending.version.msgid (sending.finalized.contentOf sending.version) =
      sending.message.msgid := by
    rw [msgid_contentOf, ← sending.headed.msgid]
    rfl
  rw [MavlinkVersion.checksum, number, ← sending.checked, contentOf_finalized,
    MavlinkMessage.contentOf, crcCalculate, crcAccumulateBuffer_append, ← header_eq sending.magic]
  rfl

theorem frame_finalized : sending.finalized.frame = sending.frame := by
  have version : sending.finalized.version = sending.version :=
    MavlinkMessage.version_eq sending.magic
  have payload : sending.finalized.payload.toList.take sending.finalized.len.toNat =
      sending.payload := by
    rw [Sending.payload, ← toNat_len]
    exact take_putChecksum _ sending.header
  rw [MavlinkMessage.frame, version, payload]
  rfl

private theorem trimmedLength_finalized (second : sending.status.outMavlink1 = false) :
    UInt8.ofNat (trimmedLength sending.finalized.payload.toList sending.finalized.len.toNat) =
      sending.finalized.len := by
  have length := sending.toNat_len
  rw [second] at length
  simp only [Bool.false_eq_true, if_false] at length
  have same : trimmedLength sending.finalized.payload.toList sending.finalized.len.toNat =
      sending.finalized.len.toNat := by
    have kept : sending.finalized.payload.toList.take sending.header.len.toNat =
        sending.header.payload.toList.take sending.header.len.toNat :=
      take_putChecksum _ sending.header
    calc trimmedLength sending.finalized.payload.toList sending.header.len.toNat
        = trimmedLength sending.message.payload.toList sending.header.len.toNat :=
          trimmedLength_of_take kept
      _ = sending.header.len.toNat := by rw [length, trimmedLength_trimmedLength]
  rw [same, UInt8.ofNat_toNat]

theorem buffer_eq : sending.buffer = sending.finalized.magic ::
    (sending.finalized.contentOf sending.version ++
      MavlinkVersion.ck sending.finalized.checksum) := by
  have length : (if sending.finalized.magic = mavlinkStxMavlink1 then sending.finalized.len
      else UInt8.ofNat (trimmedLength sending.finalized.payload.toList
        sending.finalized.len.toNat)) = sending.finalized.len := by
    split
    · rfl
    next other =>
      apply trimmedLength_finalized
      by_contra first
      rw [Bool.not_eq_false] at first
      apply other
      apply sending.magic.mpr
      rw [version, first]
      rfl
  have unsigned : ¬ (¬ sending.finalized.magic = mavlinkStxMavlink1 ∧
      sending.finalized.incompatFlags &&& mavlinkIflagSigned ≠ 0) := by
    rintro ⟨_, signed⟩
    exact signed (by show (0 : UInt8) &&& mavlinkIflagSigned = 0; decide)
  rw [buffer, mavlinkMsgToSendBuffer]
  simp only [length, if_neg unsigned, List.append_nil]
  have header : sending.finalized.header = sending.finalized.headerOf sending.version :=
    @header_eq sending.finalized _ sending.magic
  show sending.finalized.magic :: sending.finalized.header ++ _ ++ _ = _
  rw [header]
  rfl

end Sending

/-- Header and payload are complete, and the flags are understood. -/
structure Acceptable (version : MavlinkVersion) (content : Bytes) : Prop where
  whole : Whole version content
  understood : version = .v2 → content.getD 1 0 &&& ~~~mavlinkIflagMask = 0

private theorem getD_take {content : Bytes} {place count : Nat} (inside : place < count) :
    (content.take count).getD place 0 = content.getD place 0 := by
  rw [List.getD_eq_getElem?_getD, List.getElem?_take_of_lt inside, List.getD_eq_getElem?_getD]

theorem Acceptable.open {version : MavlinkVersion} {content : Bytes}
    (acceptable : Acceptable version content) (first : UInt8) :
    mavlinkFrames.Open version (content ++ [first]) := by
  have long := acceptable.whole.length
  intro count positive inside
  rw [List.length_append, List.length_singleton] at inside
  apply judge_more
  · have length : version.contentLength ((content ++ [first]).take count) = content.length := by
      rw [MavlinkVersion.contentLength, getD_take positive, getD_append (by omega)]
      exact acceptable.whole.symm
    have taken := List.length_take_le count (content ++ [first])
    rw [length]
    omega
  · rintro ⟨second, two, refused⟩
    rw [List.length_take, List.length_append, List.length_singleton] at two
    have here : ((content ++ [first]).take count).getD 1 0 = content.getD 1 0 := by
      rw [getD_take (by omega), getD_append (by omega)]
    rw [here] at refused
    exact refused (acceptable.understood second)

theorem Acceptable.ends {version : MavlinkVersion} {content : Bytes}
    (acceptable : Acceptable version content) (unsigned : ¬ version.Signed content)
    (first second : UInt8) :
    mavlinkFrames.Ends version (content ++ [first, second])
      (if [first, second] = MavlinkVersion.ck (version.checksum content) then .complete
      else .spoiled (if second = mavlinkStx then some version else none)) := by
  refine ⟨by simp, ?_, ?_⟩
  · have shorter : (content ++ [first, second]).dropLast = content ++ [first] := by
      rw [List.dropLast_append_of_ne_nil (List.cons_ne_nil first [second])]
      rfl
    rw [shorter]
    exact acceptable.open first
  · refine (acceptable.whole.judge_append [first, second]).trans ?_
    simp [unsigned]

namespace Sending
variable (sending : Sending)

theorem starts : mavlinkFrames.starts sending.finalized.magic = some sending.version := by
  rw [version]
  show MavlinkVersion.starts
    (if sending.status.outMavlink1 = true then mavlinkStxMavlink1 else mavlinkStx) = _
  cases sending.status.outMavlink1 <;> decide

theorem acceptable : Acceptable sending.version (sending.finalized.contentOf sending.version) := by
  refine ⟨whole_contentOf _ _, ?_⟩
  intro second
  have flags := sending.headed.flags
  rw [second] at flags ⊢
  exact flags

theorem unsigned : ¬ sending.version.Signed (sending.finalized.contentOf sending.version) := by
  intro signed
  have flags := (signed_contentOf sending.headed.flags).mp signed
  exact flags (by show (0 : UInt8) &&& mavlinkIflagSigned = 0; decide)

end Sending

private theorem frame_eq_of_content {first second : MavlinkMessage} {version : MavlinkVersion}
    (magic : first.magic = mavlinkStxMavlink1 ↔ version = .v1)
    (other : second.magic = mavlinkStxMavlink1 ↔ version = .v1)
    (headed : Headed first version) (headed' : Headed second version)
    (same : first.contentOf version = second.contentOf version) : first.frame = second.frame := by
  have parts := List.append_inj same (by rw [length_headerOf, length_headerOf])
  obtain ⟨headers, payloads⟩ := parts
  have msgid : first.msgid = second.msgid := by rw [headed.msgid, headed'.msgid, headers]
  rw [MavlinkMessage.frame, MavlinkMessage.frame, MavlinkMessage.version_eq magic,
    MavlinkMessage.version_eq other, payloads, msgid]
  cases version with
  | v1 =>
    simp only [MavlinkMessage.headerOf, List.cons.injEq] at headers
    obtain ⟨_, seq, sysid, compid, _⟩ := headers
    rw [headed.flags.1, headed.flags.2, headed'.flags.1, headed'.flags.2, seq, sysid, compid]
  | v2 =>
    simp only [MavlinkMessage.headerOf, List.cons.injEq] at headers
    obtain ⟨_, incompat, compat, seq, sysid, compid, _⟩ := headers
    rw [incompat, compat, seq, sysid, compid]

/-- No frame has begun. -/
def MavlinkChannel.Ready (channel : MavlinkChannel) : Prop :=
  channel.status.parseState = .uninit ∨ channel.status.parseState = .idle

theorem Reading.ready {channel : MavlinkChannel} (reading : Reading channel none) :
    channel.Ready := by
  cases reading with
  | idle state => exact state

theorem transduce_buffer {channel : MavlinkChannel} (ready : channel.Ready) (sending : Sending) :
    (transduce MavlinkChannel.step channel sending.buffer).1.Ready ∧
      (transduce MavlinkChannel.step channel sending.buffer).2.map MavlinkMessage.frame =
        [sending.frame] := by
  obtain ⟨reading, carried⟩ := (Reading.idle ready).transduce sending.buffer
  have ends := sending.acceptable.ends sending.unsigned (ckBytes sending.finalized.checksum).1
    (ckBytes sending.finalized.checksum).2
  have right : [(ckBytes sending.finalized.checksum).1, (ckBytes sending.finalized.checksum).2] =
      MavlinkVersion.ck sending.finalized.checksum := rfl
  rw [← sending.checksum, if_pos right] at ends
  have read := Framing.transduce_ends sending.starts ends
  rw [sending.buffer_eq] at reading carried ⊢
  rw [MavlinkVersion.ck] at reading carried ⊢
  rw [read] at reading carried
  refine ⟨reading.ready, ?_⟩
  generalize (transduce MavlinkChannel.step channel (sending.finalized.magic ::
    (sending.finalized.contentOf sending.version ++ [(ckBytes sending.finalized.checksum).1,
      (ckBytes sending.finalized.checksum).2]))).2 = messages at carried
  cases carried with
  | @cons message _ _ _ carried none =>
    cases none
    have body := carried.body_eq
    have lengths := congrArg sending.version.contentLength body
    rw [List.append_assoc, (whole_contentOf _ _).contentLength_append,
      (whole_contentOf _ _).contentLength_append] at lengths
    rw [List.append_assoc] at body
    have same := (List.append_inj body lengths).1
    have magic : sending.finalized.magic = mavlinkStxMavlink1 ↔ sending.version = .v1 :=
      sending.magic
    have frames := frame_eq_of_content carried.magic magic carried.headed sending.headed same.symm
    rw [List.map_singleton, frames, sending.frame_finalized]

theorem transduce_buffers {channel : MavlinkChannel} (ready : channel.Ready)
    (sent : List Sending) :
    (transduce MavlinkChannel.step channel (sent.flatMap Sending.buffer)).1.Ready ∧
      (transduce MavlinkChannel.step channel (sent.flatMap Sending.buffer)).2.map
        MavlinkMessage.frame = sent.map Sending.frame := by
  induction sent generalizing channel with
  | nil => exact ⟨ready, rfl⟩
  | cons sending sent ih =>
    obtain ⟨between, first⟩ := transduce_buffer ready sending
    obtain ⟨last, later⟩ := ih between
    rw [List.flatMap_cons, transduce_append]
    refine ⟨last, ?_⟩
    rw [List.map_append, first, later]
    rfl

def ReceiverEvent.message? {Message : Type} : ReceiverEvent Message → Option Message
  | .parsed _ => none
  | .handedOn message => some message

def handedOn (events : List (ReceiverEvent MavlinkMessage)) : List MavlinkMessage :=
  events.filterMap ReceiverEvent.message?

private theorem step_eq (channel : MavlinkChannel) (c : UInt8) :
    channel.step c = ((mavlinkParser.step channel c).1,
      (mavlinkParser.step channel c).2.filterMap ReceiverEvent.message?) := by
  rw [MavlinkChannel.step, MavlinkParser.step]
  show ((channel.parseChar c).1, (channel.parseChar c).2.toList) =
    ((channel.parseChar c).1, List.filterMap ReceiverEvent.message?
      (.parsed c :: (channel.parseChar c).2.toList.map .handedOn))
  cases (channel.parseChar c).2 <;> rfl

theorem handedOn_transduce (channel : MavlinkChannel) (stream : Bytes) :
    transduce MavlinkChannel.step channel stream =
      ((transduce mavlinkParser.step channel stream).1,
        handedOn (transduce mavlinkParser.step channel stream).2) := by
  have same : MavlinkChannel.step = fun channel c => ((mavlinkParser.step channel c).1,
      (mavlinkParser.step channel c).2.filterMap ReceiverEvent.message?) := by
    funext channel c
    exact step_eq channel c
  rw [same]
  exact transduce_filterMap _ _ _ _

theorem handedOn_receive (calls : List (Option Datagram))
    (connection : UdpConnection MavlinkChannel MavlinkMessage) {rounds : Nat}
    (enough : (UdpConnection.received calls).length < rounds) :
    ∃ last events, connection.receive mavlinkParser rounds calls = some (last, events) ∧
      transduce MavlinkChannel.step connection.receiver.channel (UdpConnection.received calls) =
        (last.receiver.channel, handedOn events) := by
  obtain ⟨⟨last, events⟩, ends, reads⟩ :=
    @UdpConnection.reads_receive _ _ mavlinkParser rounds calls connection enough
  refine ⟨last, events, ends, ?_⟩
  rw [handedOn_transduce, reads]

theorem handedOn_sent {sent : List Sending} {calls : List (Option Datagram)}
    {connection : UdpConnection MavlinkChannel MavlinkMessage}
    (ready : connection.receiver.channel.Ready)
    (bytes : UdpConnection.received calls = sent.flatMap Sending.buffer) {rounds : Nat}
    (enough : (UdpConnection.received calls).length < rounds) :
    ∃ last events, connection.receive mavlinkParser rounds calls = some (last, events) ∧
      (handedOn events).map MavlinkMessage.frame = sent.map Sending.frame ∧
      last.receiver.channel.Ready := by
  obtain ⟨last, events, ends, parsed⟩ := handedOn_receive calls connection enough
  obtain ⟨done, frames⟩ := transduce_buffers ready sent
  rw [← bytes, parsed] at done frames
  exact ⟨last, events, ends, frames, done⟩

end PilotingMavsdk
