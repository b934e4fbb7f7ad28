import PilotingMavsdk.MavlinkReceiver
import PilotingMavsdk.MavlinkChecksum
import PilotingMavsdk.MavlinkMessageCrcs

/-! Frames of MAVLink: how a message is finalized and written into a buffer, and how the frames of a
channel are parsed byte by byte. Signing is not set up anywhere. -/

namespace PilotingMavsdk

def mavlinkStx : UInt8 := 0xfd

def mavlinkStxMavlink1 : UInt8 := 0xfe

def mavlinkIflagSigned : UInt8 := 0x01

def mavlinkIflagMask : UInt8 := 0x01

/-- `mavlink_message_t`. The payload has room for two bytes of a checksum and is made of words. -/
structure MavlinkMessage where
  checksum : UInt16 := 0
  magic : UInt8 := 0
  len : UInt8 := 0
  incompatFlags : UInt8 := 0
  compatFlags : UInt8 := 0
  seq : UInt8 := 0
  sysid : UInt8 := 0
  compid : UInt8 := 0
  msgid : BitVec 24 := 0
  payload : Vector UInt8 264 := Vector.replicate 264 0
  /-- `ck[0]` and `ck[1]`. -/
  ck : UInt8 × UInt8 := (0, 0)
  signature : Vector UInt8 13 := Vector.replicate 13 0
deriving DecidableEq

inductive MavlinkParseState where
  | uninit
  | idle
  | gotStx
  | gotLength
  | gotIncompatFlags
  | gotCompatFlags
  | gotSeq
  | gotSysid
  | gotCompid
  | gotMsgid1
  | gotMsgid2
  | gotMsgid3
  | gotPayload
  | gotCrc1
  | gotBadCrc1
  | signatureWait
deriving DecidableEq, Repr

inductive MavlinkFraming where
  | incomplete
  | ok
  | badCrc
deriving DecidableEq, Repr

/-- `mavlink_status_t`, with the two bits of `flags` that are used. -/
structure MavlinkStatus where
  parseError : UInt8 := 0
  parseState : MavlinkParseState := .uninit
  packetIdx : UInt8 := 0
  currentRxSeq : UInt8 := 0
  currentTxSeq : UInt8 := 0
  packetRxSuccessCount : UInt16 := 0
  inMavlink1 : Bool := false
  outMavlink1 : Bool := false
  signatureWait : UInt8 := 0
deriving DecidableEq, Repr

def MavlinkMessage.msgidByte (message : MavlinkMessage) (place : Nat) : UInt8 :=
  UInt8.ofBitVec ((message.msgid >>> (8 * place)).setWidth 8)

/-- `msgid` as a parameter of type `uint32_t`. -/
def uint32Msgid (msgid : BitVec 24) : UInt32 := UInt32.ofBitVec (msgid.setWidth 32)

def ckBytes (checksum : UInt16) : UInt8 × UInt8 :=
  ((checksum &&& 0xff).toUInt8, (checksum >>> 8).toUInt8)

def MavlinkMessage.header (message : MavlinkMessage) : Bytes :=
  if message.magic = mavlinkStxMavlink1 then
    [message.len, message.seq, message.sysid, message.compid, message.msgidByte 0]
  else
    [message.len, message.incompatFlags, message.compatFlags, message.seq, message.sysid,
      message.compid, message.msgidByte 0, message.msgidByte 1, message.msgidByte 2]

/-- The first half of `mavlink_finalize_message_buffer`: all but the checksum. -/
def MavlinkMessage.finalizeHeader (systemId componentId : UInt8) (status : MavlinkStatus)
    (minLength length : UInt8) (message : MavlinkMessage) : MavlinkMessage :=
  { message with
    magic := if status.outMavlink1 then mavlinkStxMavlink1 else mavlinkStx
    len :=
      if status.outMavlink1 then minLength
      else UInt8.ofNat (trimmedLength message.payload.toList length.toNat)
    sysid := systemId
    compid := componentId
    incompatFlags := 0
    compatFlags := 0
    seq := status.currentTxSeq }

/-- The checksum is also put behind the payload. -/
def MavlinkMessage.putChecksum (checksum : UInt16) (message : MavlinkMessage) : MavlinkMessage :=
  have small := message.len.toNat_lt
  { message with
    checksum := checksum
    payload := (message.payload.set message.len.toNat (ckBytes checksum).1 (by omega)).set
      (message.len.toNat + 1) (ckBytes checksum).2 (by omega) }

def mavlinkFinalizeMessageBuffer (message : MavlinkMessage) (systemId componentId : UInt8)
    (status : MavlinkStatus) (minLength length crcExtra : UInt8) : MavlinkMessage × MavlinkStatus :=
  let headed := message.finalizeHeader systemId componentId status minLength length
  let checksum := crcAccumulateBuffer (crcCalculate headed.header)
    (headed.payload.toList.take headed.len.toNat)
  (headed.putChecksum (crcAccumulate crcExtra checksum),
    { status with currentTxSeq := status.currentTxSeq + 1 })

def mavlinkMsgToSendBuffer (message : MavlinkMessage) : Bytes :=
  let mavlink1 := message.magic = mavlinkStxMavlink1
  let length := if mavlink1 then message.len
    else UInt8.ofNat (trimmedLength message.payload.toList message.len.toNat)
  let signed := ¬ mavlink1 ∧ message.incompatFlags &&& mavlinkIflagSigned ≠ 0
  let (ckA, ckB) := ckBytes message.checksum
  message.magic :: { message with len := length }.header ++
    message.payload.toList.take length.toNat ++ [ckA, ckB] ++
    if signed then message.signature.toList else []

def MavlinkMessage.startChecksum (message : MavlinkMessage) : MavlinkMessage :=
  { message with checksum := x25InitCrc }

def MavlinkMessage.updateChecksum (c : UInt8) (message : MavlinkMessage) : MavlinkMessage :=
  { message with checksum := crcAccumulate c message.checksum }

/-- The buffer and the status of a channel. Both are zeroed at first. -/
structure MavlinkChannel where
  rxmsg : MavlinkMessage := {}
  status : MavlinkStatus := {}
deriving DecidableEq

namespace MavlinkChannel

def accept (c : UInt8) (rxmsg : MavlinkMessage) (parseState : MavlinkParseState)
    (channel : MavlinkChannel) : MavlinkChannel :=
  ⟨rxmsg.updateChecksum c, { channel.status with parseState := parseState }⟩

def behindHeader (rxmsg : MavlinkMessage) : MavlinkParseState :=
  if 0 < rxmsg.len then .gotMsgid3 else .gotPayload

def finish (rxmsg : MavlinkMessage) (good : Bool) (channel : MavlinkChannel) :
    MavlinkChannel × MavlinkFraming :=
  if rxmsg.incompatFlags &&& mavlinkIflagSigned ≠ 0 then
    (⟨rxmsg, { channel.status with parseState := .signatureWait, signatureWait := 13 }⟩,
      if good then .incomplete else .badCrc)
  else
    (⟨rxmsg, { channel.status with parseState := .idle }⟩, if good then .ok else .badCrc)

/-- The `switch` of `mavlink_frame_char_buffer`. A frame that begins is not counted as received
yet, so a buffer overrun is never noticed. Without signing every signature is good. -/
def frameState (c : UInt8) (channel : MavlinkChannel) : MavlinkChannel × MavlinkFraming :=
  let rxmsg := channel.rxmsg
  let status := channel.status
  match status.parseState with
  | .uninit | .idle =>
    if c = mavlinkStx then
      (⟨{ rxmsg with len := 0, magic := c }.startChecksum,
        { status with parseState := .gotStx, inMavlink1 := false }⟩, .incomplete)
    else if c = mavlinkStxMavlink1 then
      (⟨{ rxmsg with len := 0, magic := c }.startChecksum,
        { status with parseState := .gotStx, inMavlink1 := true }⟩, .incomplete)
    else (channel, .incomplete)
  | .gotStx =>
    let started : MavlinkChannel := { channel with status := { status with packetIdx := 0 } }
    if status.inMavlink1 then
      (started.accept c { rxmsg with len := c, incompatFlags := 0, compatFlags := 0 }
        .gotCompatFlags, .incomplete)
    else (started.accept c { rxmsg with len := c } .gotLength, .incomplete)
  | .gotLength =>
    if c &&& ~~~mavlinkIflagMask ≠ 0 then
      (⟨{ rxmsg with incompatFlags := c },
        { status with parseState := .idle, parseError := status.parseError + 1 }⟩, .incomplete)
    else (channel.accept c { rxmsg with incompatFlags := c } .gotIncompatFlags, .incomplete)
  | .gotIncompatFlags =>
    (channel.accept c { rxmsg with compatFlags := c } .gotCompatFlags, .incomplete)
  | .gotCompatFlags => (channel.accept c { rxmsg with seq := c } .gotSeq, .incomplete)
  | .gotSeq => (channel.accept c { rxmsg with sysid := c } .gotSysid, .incomplete)
  | .gotSysid => (channel.accept c { rxmsg with compid := c } .gotCompid, .incomplete)
  | .gotCompid =>
    (channel.accept c { rxmsg with msgid := c.toBitVec.setWidth 24 }
      (if status.inMavlink1 then behindHeader rxmsg else .gotMsgid1), .incomplete)
  | .gotMsgid1 =>
    (channel.accept c { rxmsg with msgid := rxmsg.msgid ||| c.toBitVec.setWidth 24 <<< 8 }
      .gotMsgid2, .incomplete)
  | .gotMsgid2 =>
    (channel.accept c { rxmsg with msgid := rxmsg.msgid ||| c.toBitVec.setWidth 24 <<< 16 }
      (behindHeader rxmsg), .incomplete)
  | .gotMsgid3 =>
    let packetIdx := status.packetIdx + 1
    let stored : MavlinkChannel := { channel with status := { status with packetIdx := packetIdx } }
    let payload := rxmsg.payload.set status.packetIdx.toNat c
      (Nat.lt_trans status.packetIdx.toNat_lt (by decide))
    (stored.accept c { rxmsg with payload := payload }
      (if packetIdx = rxmsg.len then .gotPayload else .gotMsgid3), .incomplete)
  | .gotPayload =>
    let checked := rxmsg.updateChecksum (mavlinkGetCrcExtra (uint32Msgid rxmsg.msgid))
    let filled := match mavlinkGetMsgEntry (uint32Msgid rxmsg.msgid) with
      | some entry => rxmsg.payload.mapIdx fun place byte =>
        if status.packetIdx.toNat ≤ place ∧ place < entry.maxMsgLen.toNat then 0 else byte
      | none => rxmsg.payload
    (⟨{ checked with payload := filled, ck := (c, rxmsg.ck.2) },
      { status with parseState :=
          if c = (ckBytes checked.checksum).1 then .gotCrc1 else .gotBadCrc1 }⟩, .incomplete)
  | .gotCrc1 =>
    channel.finish { rxmsg with ck := (rxmsg.ck.1, c) } (c == (ckBytes rxmsg.checksum).2)
  | .gotBadCrc1 => channel.finish { rxmsg with ck := (rxmsg.ck.1, c) } false
  | .signatureWait =>
    let signatureWait := status.signatureWait - 1
    let signed := { rxmsg with
      signature := rxmsg.signature.setIfInBounds (13 - status.signatureWait.toNat) c }
    if signatureWait = 0 then
      (⟨signed, { status with parseState := .idle, signatureWait := 0 }⟩, .ok)
    else (⟨signed, { status with signatureWait := signatureWait }⟩, .incomplete)

def frameChar (c : UInt8) (channel : MavlinkChannel) : MavlinkChannel × MavlinkFraming :=
  let (after, framing) := channel.frameState c
  let status := { after.status with parseError := 0 }
  if framing = .ok then
    (⟨after.rxmsg,
      { status with
        currentRxSeq := after.rxmsg.seq
        packetRxSuccessCount := status.packetRxSuccessCount + 1 }⟩, framing)
  else ({ after with status := status }, framing)

/-- `mavlink_parse_char`. The message is a copy of the buffer. A frame of the same version may
begin with the last byte of a bad checksum. -/
def parseChar (channel : MavlinkChannel) (c : UInt8) : MavlinkChannel × Option MavlinkMessage :=
  match channel.frameChar c with
  | (after, .incomplete) => (after, none)
  | (after, .ok) => (after, some after.rxmsg)
  | (after, .badCrc) =>
    let status := { after.status with parseError := after.status.parseError + 1 }
    if c = mavlinkStx then
      (⟨{ after.rxmsg with len := 0 }.startChecksum, { status with parseState := .gotStx }⟩, none)
    else ({ after with status := { status with parseState := .idle } }, none)

end MavlinkChannel

def mavlinkParser : MavlinkParser MavlinkChannel MavlinkMessage where
  parseChar := MavlinkChannel.parseChar
  sysid := MavlinkMessage.sysid

end PilotingMavsdk
