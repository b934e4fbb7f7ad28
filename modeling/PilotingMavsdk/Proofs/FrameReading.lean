import PilotingMavsdk.Library.FrameReader
import PilotingMavsdk.MavlinkFraming

/-! What the parser of a channel does, told by the bytes of a frame alone. It keeps a running
checksum and counts; the reader here looks at all bytes since the magic number again. -/

namespace PilotingMavsdk
open Library

inductive MavlinkVersion where
  | v1
  | v2
deriving DecidableEq, Repr

namespace MavlinkVersion

def headerLength : MavlinkVersion → Nat
  | .v1 => 5
  | .v2 => 9

def number (low middle high : UInt8) : BitVec 24 :=
  low.toBitVec.setWidth 24 ||| middle.toBitVec.setWidth 24 <<< 8 |||
    high.toBitVec.setWidth 24 <<< 16

def msgid (body : Bytes) : MavlinkVersion → BitVec 24
  | .v1 => number (body.getD 4 0) 0 0
  | .v2 => number (body.getD 6 0) (body.getD 7 0) (body.getD 8 0)

def checksum (version : MavlinkVersion) (content : Bytes) : UInt16 :=
  crcAccumulate (mavlinkGetCrcExtra (uint32Msgid (version.msgid content))) (crcCalculate content)

def Signed (version : MavlinkVersion) (body : Bytes) : Prop :=
  version = .v2 ∧ body.getD 1 0 &&& mavlinkIflagSigned ≠ 0

/-- A flag that is not understood. -/
def Refused (version : MavlinkVersion) (body : Bytes) : Prop :=
  version = .v2 ∧ body.length = 2 ∧ body.getD 1 0 &&& ~~~mavlinkIflagMask ≠ 0

instance (version : MavlinkVersion) (body : Bytes) : Decidable (version.Signed body) :=
  inferInstanceAs (Decidable (_ ∧ _))

instance (version : MavlinkVersion) (body : Bytes) : Decidable (version.Refused body) :=
  inferInstanceAs (Decidable (_ ∧ _))

def contentLength (version : MavlinkVersion) (body : Bytes) : Nat :=
  version.headerLength + (body.getD 0 0).toNat

def ck (checksum : UInt16) : Bytes := [(ckBytes checksum).1, (ckBytes checksum).2]

def judge (version : MavlinkVersion) (body : Bytes) : Verdict MavlinkVersion :=
  let content := version.contentLength body
  if version.Refused body then .spoiled none
  else if body.length < content + 2 then .more
  else if body.length = content + 2 then
    if body.drop content = ck (version.checksum (body.take content)) then
      if version.Signed body then .more else .complete
    else .spoiled (if body.getLast? = some mavlinkStx then some version else none)
  else if body.length < content + 15 then .more
  else .complete

def starts (c : UInt8) : Option MavlinkVersion :=
  if c = mavlinkStx then some .v2 else if c = mavlinkStxMavlink1 then some .v1 else none

private theorem judge_restarts {version again : MavlinkVersion} {body : Bytes} {c : UInt8}
    (spoiled : version.judge (body ++ [c]) = .spoiled (some again)) : (starts c).isSome := by
  rw [judge] at spoiled
  simp only [List.getLast?_append, List.getLast?_singleton, Option.some_or] at spoiled
  by_cases stx : c = mavlinkStx
  · rw [starts, if_pos stx]
    rfl
  · rw [if_neg (fun same => stx (Option.some.inj same))] at spoiled
    split at spoiled
    · cases spoiled
    · split at spoiled
      · cases spoiled
      · split at spoiled
        · split at spoiled
          · split at spoiled <;> cases spoiled
          · cases spoiled
        · split at spoiled <;> cases spoiled

end MavlinkVersion

def mavlinkFrames : Framing UInt8 MavlinkVersion where
  starts := MavlinkVersion.starts
  verdict := MavlinkVersion.judge
  restarts := MavlinkVersion.judge_restarts

private theorem crcCalculate_snoc (buffer : Bytes) (data : UInt8) :
    crcCalculate (buffer ++ [data]) = crcAccumulate data (crcCalculate buffer) :=
  List.foldl_append

def Whole (version : MavlinkVersion) (content : Bytes) : Prop :=
  content.length = version.contentLength content

theorem Whole.length {version : MavlinkVersion} {content : Bytes} (whole : Whole version content) :
    5 ≤ content.length := by
  have header : 5 ≤ version.headerLength := by cases version <;> decide
  rw [whole, MavlinkVersion.contentLength]
  omega

theorem getD_append {content : Bytes} {place : Nat} (inside : place < content.length)
    (rest : Bytes) : (content ++ rest).getD place 0 = content.getD place 0 := by
  rw [List.getD_eq_getElem?_getD, List.getElem?_append_left inside, List.getD_eq_getElem?_getD]

theorem Whole.contentLength_append {version : MavlinkVersion} {content : Bytes}
    (whole : Whole version content) (rest : Bytes) :
    version.contentLength (content ++ rest) = content.length := by
  have long := whole.length
  rw [MavlinkVersion.contentLength, getD_append (by omega)]
  exact whole.symm

private theorem Whole.signed_append {version : MavlinkVersion} {content : Bytes}
    (whole : Whole version content) (rest : Bytes) :
    version.Signed (content ++ rest) ↔ version.Signed content := by
  have long := whole.length
  rw [MavlinkVersion.Signed, MavlinkVersion.Signed, getD_append (by omega)]

theorem Whole.judge_append {version : MavlinkVersion} {content : Bytes}
    (whole : Whole version content) (rest : Bytes) :
    version.judge (content ++ rest) =
      if rest.length < 2 then .more
      else if rest.length = 2 then
        if rest = MavlinkVersion.ck (version.checksum content) then
          if version.Signed content then .more else .complete
        else .spoiled (if rest.getLast? = some mavlinkStx then some version else none)
      else if rest.length < 15 then .more
      else .complete := by
  have long := whole.length
  have understood : ¬ version.Refused (content ++ rest) := by
    rintro ⟨_, two, _⟩
    rw [List.length_append] at two
    omega
  have shorter (count : Nat) : content.length + rest.length < content.length + count ↔
      rest.length < count := by omega
  have exact : content.length + rest.length = content.length + 2 ↔ rest.length = 2 := by omega
  rw [MavlinkVersion.judge, if_neg understood, whole.contentLength_append]
  simp only [List.length_append, shorter, exact, List.drop_left, List.take_left,
    whole.signed_append]
  have last (two : rest.length = 2) : (content ++ rest).getLast? = rest.getLast? := by
    have nonempty : rest ≠ [] := by
      intro empty
      rw [empty] at two
      cases two
    rw [List.getLast?_append_of_ne_nil _ nonempty]
  split
  · rfl
  · split
    next two => rw [last two]
    · rfl

theorem judge_more {version : MavlinkVersion} {body : Bytes}
    (short : body.length < version.contentLength body + 2) (understood : ¬ version.Refused body) :
    version.judge body = .more := by
  rw [MavlinkVersion.judge, if_neg understood, if_pos short]

private theorem read_more {version : MavlinkVersion} {body : Bytes} {c : UInt8}
    (more : version.judge (body ++ [c]) = .more) :
    mavlinkFrames.read (some (version, body)) c = (some (version, body ++ [c]), []) := by
  rw [Framing.read]
  exact congrArg (Verdict.after version (body ++ [c])) more

/-- In these states so many bytes of the header have been read. -/
inductive HeaderPlace : MavlinkVersion → MavlinkParseState → Nat → Prop where
  | stx (version : MavlinkVersion) : HeaderPlace version .gotStx 0
  | length : HeaderPlace .v2 .gotLength 1
  | incompatFlags : HeaderPlace .v2 .gotIncompatFlags 2
  | behindLength : HeaderPlace .v1 .gotCompatFlags 1
  | compatFlags : HeaderPlace .v2 .gotCompatFlags 3
  | seq : HeaderPlace .v1 .gotSeq 2
  | seq2 : HeaderPlace .v2 .gotSeq 4
  | sysid : HeaderPlace .v1 .gotSysid 3
  | sysid2 : HeaderPlace .v2 .gotSysid 5
  | compid : HeaderPlace .v1 .gotCompid 4
  | compid2 : HeaderPlace .v2 .gotCompid 6
  | msgid1 : HeaderPlace .v2 .gotMsgid1 7
  | msgid2 : HeaderPlace .v2 .gotMsgid2 8

/-- The header of a frame of this version. -/
def MavlinkMessage.headerOf (message : MavlinkMessage) : MavlinkVersion → Bytes
  | .v1 => [message.len, message.seq, message.sysid, message.compid, message.msgidByte 0]
  | .v2 => [message.len, message.incompatFlags, message.compatFlags, message.seq, message.sysid,
      message.compid, message.msgidByte 0, message.msgidByte 1, message.msgidByte 2]

def MavlinkMessage.contentOf (message : MavlinkMessage) (version : MavlinkVersion) : Bytes :=
  message.headerOf version ++ message.payload.toList.take message.len.toNat

structure Versioned (channel : MavlinkChannel) (version : MavlinkVersion) : Prop where
  flag : channel.status.inMavlink1 = decide (version = .v1)
  magic : channel.rxmsg.magic = mavlinkStxMavlink1 ↔ version = .v1

/-- The flags of the message are those of its header, and are all understood. -/
def Understood (rxmsg : MavlinkMessage) : MavlinkVersion → Prop
  | .v1 => rxmsg.incompatFlags = 0 ∧ rxmsg.compatFlags = 0
  | .v2 => rxmsg.incompatFlags &&& ~~~mavlinkIflagMask = 0

/-- What is known of a message of which so many bytes of the header have been read. -/
structure HeaderRead (rxmsg : MavlinkMessage) (version : MavlinkVersion) (count : Nat) : Prop where
  checksum : rxmsg.checksum = crcCalculate ((rxmsg.headerOf version).take count)
  flags : (if version = .v1 then 1 else 2) ≤ count → Understood rxmsg version
  msgid1 : version = .v2 → count = 7 → rxmsg.msgid = MavlinkVersion.number (rxmsg.msgidByte 0) 0 0
  msgid2 : version = .v2 → count = 8 →
    rxmsg.msgid = MavlinkVersion.number (rxmsg.msgidByte 0) (rxmsg.msgidByte 1) 0

/-- What is known of a message whose header is complete. -/
structure Headed (rxmsg : MavlinkMessage) (version : MavlinkVersion) : Prop where
  flags : Understood rxmsg version
  msgid : rxmsg.msgid = version.msgid (rxmsg.headerOf version)

/-- The bytes of a frame of which the parser of the channel has read everything so far. -/
inductive Reading (channel : MavlinkChannel) : Option (MavlinkVersion × Bytes) → Prop where
  | idle (state : channel.status.parseState = .uninit ∨ channel.status.parseState = .idle) :
      Reading channel none
  | header {version : MavlinkVersion} {count : Nat} {body : Bytes}
      (versioned : Versioned channel version)
      (place : HeaderPlace version channel.status.parseState count)
      (index : 0 < count → channel.status.packetIdx = 0)
      (read : HeaderRead channel.rxmsg version count)
      (body_eq : body = (channel.rxmsg.headerOf version).take count) :
      Reading channel (some (version, body))
  | payload {version : MavlinkVersion} {body : Bytes}
      (versioned : Versioned channel version) (headed : Headed channel.rxmsg version)
      (state : channel.status.parseState = .gotMsgid3)
      (index : channel.status.packetIdx < channel.rxmsg.len)
      (body_eq : body = channel.rxmsg.headerOf version ++
        channel.rxmsg.payload.toList.take channel.status.packetIdx.toNat)
      (checksum : channel.rxmsg.checksum = crcCalculate body) :
      Reading channel (some (version, body))
  | checking {version : MavlinkVersion} {body : Bytes}
      (versioned : Versioned channel version) (headed : Headed channel.rxmsg version)
      (state : channel.status.parseState = .gotPayload)
      (index : channel.status.packetIdx = channel.rxmsg.len)
      (body_eq : body = channel.rxmsg.contentOf version)
      (checksum : channel.rxmsg.checksum = crcCalculate body) :
      Reading channel (some (version, body))
  | crc {version : MavlinkVersion} {body : Bytes}
      (versioned : Versioned channel version) (headed : Headed channel.rxmsg version)
      (checksum : channel.rxmsg.checksum = version.checksum (channel.rxmsg.contentOf version))
      (state : channel.status.parseState =
        if channel.rxmsg.ck.1 = (ckBytes channel.rxmsg.checksum).1 then .gotCrc1
        else .gotBadCrc1)
      (body_eq : body = channel.rxmsg.contentOf version ++ [channel.rxmsg.ck.1]) :
      Reading channel (some (version, body))
  | signature {version : MavlinkVersion} {body : Bytes}
      (versioned : Versioned channel version) (headed : Headed channel.rxmsg version)
      (checksum : channel.rxmsg.checksum = version.checksum (channel.rxmsg.contentOf version))
      (state : channel.status.parseState = .signatureWait)
      (ck : channel.rxmsg.ck = ckBytes channel.rxmsg.checksum)
      (signed : channel.rxmsg.incompatFlags &&& mavlinkIflagSigned ≠ 0)
      (positive : 0 < channel.status.signatureWait) (room : channel.status.signatureWait ≤ 13)
      (body_eq : body = channel.rxmsg.contentOf version ++ MavlinkVersion.ck channel.rxmsg.checksum ++
        channel.rxmsg.signature.toList.take (13 - channel.status.signatureWait.toNat)) :
      Reading channel (some (version, body))

/-- A message that has been read to its end, with the bytes behind its magic number. -/
structure Carried (message : MavlinkMessage) (version : MavlinkVersion) (body : Bytes) : Prop where
  magic : message.magic = mavlinkStxMavlink1 ↔ version = .v1
  headed : Headed message version
  checksum : message.checksum = version.checksum (message.contentOf version)
  ck : message.ck = ckBytes message.checksum
  body_eq : body = message.contentOf version ++ MavlinkVersion.ck message.checksum ++
    if version.Signed (message.contentOf version) then message.signature.toList else []

/-- What a byte has made of the channel, and what the reader makes of it. -/
inductive FrameOutcome (after : MavlinkChannel) (state : Option (MavlinkVersion × Bytes)) (c : UInt8) :
    MavlinkFraming → Prop where
  | incomplete (reading : Reading after (mavlinkFrames.read state c).1)
      (silent : (mavlinkFrames.read state c).2 = []) : FrameOutcome after state c .incomplete
  | ok {version : MavlinkVersion} {body : Bytes} (idle : after.status.parseState = .idle)
      (carried : Carried after.rxmsg version body)
      (handedOn : mavlinkFrames.read state c = (none, [(version, body)])) :
      FrameOutcome after state c .ok
  | badCrc {version : MavlinkVersion} (versioned : Versioned after version)
      (spoiled : mavlinkFrames.read state c =
        (if c = mavlinkStx then some (version, []) else none, [])) :
      FrameOutcome after state c .badCrc

theorem header_eq {message : MavlinkMessage} {version : MavlinkVersion}
    (magic : message.magic = mavlinkStxMavlink1 ↔ version = .v1) :
    message.header = message.headerOf version := by
  cases version with
  | v1 => exact if_pos (magic.mpr rfl)
  | v2 =>
    apply if_neg
    intro first
    cases magic.mp first

theorem length_headerOf (message : MavlinkMessage) (version : MavlinkVersion) :
    (message.headerOf version).length = version.headerLength := by
  cases version <;> rfl

theorem HeaderPlace.lt {version : MavlinkVersion} {state : MavlinkParseState} {count : Nat}
    (place : HeaderPlace version state count) : count < version.headerLength := by
  cases place with
  | stx => cases version <;> decide
  | _ => decide

private theorem judge_header {version : MavlinkVersion} {body : Bytes}
    (short : body.length ≤ version.headerLength) (understood : ¬ version.Refused body) :
    version.judge body = .more := by
  apply judge_more _ understood
  rw [MavlinkVersion.contentLength]
  omega

structure HeaderStep (before rxmsg : MavlinkMessage) (status : MavlinkStatus)
    (version : MavlinkVersion) (count : Nat) (c : UInt8) : Prop where
  versioned : Versioned ⟨rxmsg, status⟩ version
  index : status.packetIdx = 0
  running : rxmsg.checksum = crcCalculate ((before.headerOf version).take count)
  taken : (rxmsg.headerOf version).take (count + 1) = (before.headerOf version).take count ++ [c]
  inside : count < version.headerLength
  understood : version = .v2 → count = 1 → c &&& ~~~mavlinkIflagMask = 0

namespace HeaderStep
variable {before rxmsg : MavlinkMessage} {status : MavlinkStatus} {version : MavlinkVersion}
  {count : Nat} {c : UInt8}

private theorem not_refused (step : HeaderStep before rxmsg status version count c) :
    ¬ version.Refused ((before.headerOf version).take count ++ [c]) := by
  rintro ⟨second, two, refused⟩
  have length : ((before.headerOf version).take count).length = count := by
    rw [List.length_take, length_headerOf]
    exact Nat.min_eq_left (Nat.le_of_lt step.inside)
  have one : count = 1 := by
    rw [List.length_append, length] at two
    exact Nat.succ.inj two
  have here : ((before.headerOf version).take count ++ [c]).getD 1 0 = c := by
    rw [List.getD_eq_getElem?_getD, List.getElem?_append_right (by omega), length, one]
    rfl
  rw [here] at refused
  exact refused (step.understood second one)

theorem read (step : HeaderStep before rxmsg status version count c) :
    mavlinkFrames.read (some (version, (before.headerOf version).take count)) c =
      (some (version, (rxmsg.headerOf version).take (count + 1)), []) := by
  have more : version.judge ((before.headerOf version).take count ++ [c]) = .more := by
    refine judge_header ?_ step.not_refused
    rw [← step.taken]
    exact Nat.le_trans (List.length_take_le _ _) step.inside
  rw [read_more more, step.taken]

theorem checksum (step : HeaderStep before rxmsg status version count c) :
    (rxmsg.updateChecksum c).checksum = crcCalculate ((rxmsg.headerOf version).take (count + 1)) := by
  show crcAccumulate c rxmsg.checksum = _
  rw [step.taken, crcCalculate_snoc, step.running]

theorem outcome (step : HeaderStep before rxmsg status version count c)
    (place : HeaderPlace version status.parseState (count + 1))
    (flags : (if version = .v1 then 1 else 2) ≤ count + 1 → Understood rxmsg version)
    (msgid1 : version = .v2 → count + 1 = 7 →
      rxmsg.msgid = MavlinkVersion.number (rxmsg.msgidByte 0) 0 0)
    (msgid2 : version = .v2 → count + 1 = 8 →
      rxmsg.msgid = MavlinkVersion.number (rxmsg.msgidByte 0) (rxmsg.msgidByte 1) 0) :
    FrameOutcome ⟨rxmsg.updateChecksum c, status⟩ (some (version, (before.headerOf version).take count)) c
      .incomplete := by
  refine .incomplete ?_ (by rw [step.read])
  rw [step.read]
  exact .header ⟨step.versioned.flag, step.versioned.magic⟩ place (fun _ => step.index)
    ⟨step.checksum, flags, msgid1, msgid2⟩ rfl

private theorem outcome_end (step : HeaderStep before rxmsg status version count c)
    (last : count + 1 = version.headerLength) (headed : Headed rxmsg version)
    (state : status.parseState = MavlinkChannel.behindHeader rxmsg) :
    FrameOutcome ⟨rxmsg.updateChecksum c, status⟩ (some (version, (before.headerOf version).take count)) c
      .incomplete := by
  have whole : (rxmsg.headerOf version).take (count + 1) = rxmsg.headerOf version := by
    apply List.take_of_length_le
    exact Nat.le_of_eq ((length_headerOf rxmsg version).trans last.symm)
  have sum := step.checksum
  refine .incomplete ?_ (by rw [step.read])
  rw [step.read]
  rw [whole] at sum ⊢
  rw [MavlinkChannel.behindHeader] at state
  split at state
  next some =>
    have none : rxmsg.payload.toList.take status.packetIdx.toNat = [] := by rw [step.index]; rfl
    refine .payload ⟨step.versioned.flag, step.versioned.magic⟩ ⟨headed.flags, headed.msgid⟩ state
      ?_ ?_ sum
    · rw [step.index]
      exact some
    · show rxmsg.headerOf version =
        rxmsg.headerOf version ++ rxmsg.payload.toList.take status.packetIdx.toNat
      rw [none, List.append_nil]
  next empty =>
    have zero : rxmsg.len = 0 := UInt8.le_antisymm (UInt8.not_lt.mp empty) UInt8.zero_le
    refine .checking ⟨step.versioned.flag, step.versioned.magic⟩ ⟨headed.flags, headed.msgid⟩ state
      ?_ ?_ sum
    · rw [step.index]
      exact zero.symm
    · show rxmsg.headerOf version =
        rxmsg.headerOf version ++ rxmsg.payload.toList.take rxmsg.len.toNat
      rw [zero]
      exact (List.append_nil _).symm

end HeaderStep

private theorem getLsbD_number (low middle high : UInt8) (place : Nat) :
    (MavlinkVersion.number low middle high).getLsbD place =
      if place < 8 then low.toBitVec.getLsbD place
      else if place < 16 then middle.toBitVec.getLsbD (place - 8)
      else high.toBitVec.getLsbD (place - 16) := by
  have beyond (byte : UInt8) (place : Nat) (far : 8 ≤ place) :
      byte.toBitVec.getLsbD place = false := BitVec.getLsbD_of_ge _ _ far
  rw [MavlinkVersion.number, BitVec.getLsbD_or, BitVec.getLsbD_or, BitVec.getLsbD_shiftLeft,
    BitVec.getLsbD_shiftLeft, BitVec.getLsbD_setWidth, BitVec.getLsbD_setWidth,
    BitVec.getLsbD_setWidth]
  by_cases first : place < 8
  · simp [first, Nat.lt_trans first (by decide : 8 < 16), Nat.lt_trans first (by decide : 8 < 24)]
  · have none := beyond low place (Nat.not_lt.mp first)
    by_cases second : place < 16
    · simp [first, second, none, Nat.lt_trans second (by decide : 16 < 24)]
      omega
    · have other := beyond middle (place - 8) (by omega)
      by_cases third : place < 24
      · simp [first, second, third, none, other]
        omega
      · simp [first, second, third, beyond high (place - 16) (by omega)]

private theorem getLsbD_msgidByte (message : MavlinkMessage) (which place : Nat) :
    (message.msgidByte which).toBitVec.getLsbD place =
      (decide (place < 8) && message.msgid.getLsbD (8 * which + place)) := by
  rw [MavlinkMessage.msgidByte, UInt8.toBitVec_ofBitVec, BitVec.getLsbD_setWidth,
    BitVec.getLsbD_ushiftRight]

theorem msgidByte_number {low middle high : UInt8} {message : MavlinkMessage}
    (msgid : message.msgid = MavlinkVersion.number low middle high) :
    message.msgidByte 0 = low ∧ message.msgidByte 1 = middle ∧ message.msgidByte 2 = high := by
  refine ⟨?_, ?_, ?_⟩
  all_goals
    apply UInt8.toBitVec_inj.mp
    apply BitVec.eq_of_getLsbD_eq
    intro place inside
    rw [getLsbD_msgidByte, msgid, getLsbD_number]
  · simp [inside]
  · have above : ¬ 8 * 1 + place < 8 := by omega
    have below : 8 * 1 + place < 16 := by omega
    simp [inside, above, below]
  · have above : ¬ 8 * 2 + place < 16 := by omega
    have far : ¬ 8 * 2 + place < 8 := by omega
    simp [inside, above, far]

theorem number_msgidByte (message : MavlinkMessage) :
    MavlinkVersion.number (message.msgidByte 0) (message.msgidByte 1) (message.msgidByte 2) =
      message.msgid := by
  apply BitVec.eq_of_getLsbD_eq
  intro place inside
  rw [getLsbD_number, getLsbD_msgidByte, getLsbD_msgidByte, getLsbD_msgidByte]
  split
  next low => simp [low]
  next high =>
    split
    next middle =>
      have back : 8 * 1 + (place - 8) = place := by omega
      have inner : place - 8 < 8 := by omega
      rw [back, decide_eq_true inner, Bool.true_and]
    next last =>
      have back : 8 * 2 + (place - 16) = place := by omega
      have inner : place - 16 < 8 := by omega
      rw [back, decide_eq_true inner, Bool.true_and]

theorem number_low (low : UInt8) : MavlinkVersion.number low 0 0 = low.toBitVec.setWidth 24 := by
  simp [MavlinkVersion.number]

private theorem number_middle (low middle : UInt8) :
    MavlinkVersion.number low 0 0 ||| middle.toBitVec.setWidth 24 <<< 8 =
      MavlinkVersion.number low middle 0 := by
  simp [MavlinkVersion.number]

private theorem number_high (low middle high : UInt8) :
    MavlinkVersion.number low middle 0 ||| high.toBitVec.setWidth 24 <<< 16 =
      MavlinkVersion.number low middle high := by
  simp [MavlinkVersion.number]

private theorem outcome_frameState_header {channel : MavlinkChannel} {version : MavlinkVersion}
    {count : Nat} (versioned : Versioned channel version)
    (place : HeaderPlace version channel.status.parseState count)
    (index : 0 < count → channel.status.packetIdx = 0)
    (read : HeaderRead channel.rxmsg version count) (c : UInt8) :
    FrameOutcome (channel.frameState c).1 (some (version, (channel.rxmsg.headerOf version).take count)) c
      (channel.frameState c).2 := by
  have inside := place.lt
  obtain ⟨rxmsg, status⟩ := channel
  obtain ⟨parseError, parseState, packetIdx, currentRxSeq, currentTxSeq, received, inMavlink1,
    outMavlink1, wait⟩ := status
  obtain ⟨flag, magic⟩ := versioned
  obtain ⟨checksum, flags, msgid1, msgid2⟩ := read
  simp only at *
  cases place with
  | stx =>
    cases version with
    | v1 =>
      have step : HeaderStep rxmsg { rxmsg with len := c, incompatFlags := 0, compatFlags := 0 }
          ⟨parseError, .gotCompatFlags, 0, currentRxSeq, currentTxSeq, received, inMavlink1,
            outMavlink1, wait⟩ .v1 0 c :=
        ⟨⟨flag, magic⟩, rfl, checksum, rfl, inside, fun second => absurd second (by decide)⟩
      have first : inMavlink1 = true := flag
      subst first
      exact step.outcome .behindLength (fun _ => ⟨rfl, rfl⟩)
        (fun second => absurd second (by decide)) (fun second => absurd second (by decide))
    | v2 =>
      have step : HeaderStep rxmsg { rxmsg with len := c } ⟨parseError, .gotLength, 0,
          currentRxSeq, currentTxSeq, received, inMavlink1, outMavlink1, wait⟩ .v2 0 c :=
        ⟨⟨flag, magic⟩, rfl, checksum, rfl, inside, fun _ early => absurd early (by decide)⟩
      have second : inMavlink1 = false := flag
      subst second
      exact step.outcome .length (fun early => absurd early (by decide))
        (fun _ early => absurd early (by decide)) (fun _ early => absurd early (by decide))
  | length =>
    by_cases refused : c &&& ~~~mavlinkIflagMask = 0
    · have step : HeaderStep rxmsg { rxmsg with incompatFlags := c } ⟨parseError, .gotIncompatFlags,
          packetIdx, currentRxSeq, currentTxSeq, received, inMavlink1, outMavlink1, wait⟩ .v2 1 c :=
        ⟨⟨flag, magic⟩, index (by decide), checksum, rfl, inside,
          fun _ _ => refused⟩
      rw [MavlinkChannel.frameState]
      simp only [refused, ne_eq, not_true_eq_false, if_false]
      exact step.outcome .incompatFlags (fun _ => refused)
        (fun _ early => absurd early (by decide)) (fun _ early => absurd early (by decide))
    · have spoiled : mavlinkFrames.read
          (some (.v2, (rxmsg.headerOf .v2).take 1)) c = (none, []) := by
        have judged : MavlinkVersion.v2.judge ((rxmsg.headerOf .v2).take 1 ++ [c]) =
            .spoiled none := if_pos ⟨rfl, rfl, refused⟩
        exact congrArg (Verdict.after _ _) judged
      rw [MavlinkChannel.frameState]
      simp only [refused, ne_eq, not_false_eq_true, if_true]
      refine .incomplete ?_ (by rw [spoiled])
      rw [spoiled]
      exact .idle (.inr rfl)
  | incompatFlags =>
    have step : HeaderStep rxmsg { rxmsg with compatFlags := c } ⟨parseError, .gotCompatFlags,
        packetIdx, currentRxSeq, currentTxSeq, received, inMavlink1, outMavlink1, wait⟩ .v2 2 c :=
      ⟨⟨flag, magic⟩, index (by decide), checksum, rfl, inside,
        fun _ late => absurd late (by decide)⟩
    exact step.outcome .compatFlags (fun _ => flags (by decide))
      (fun _ early => absurd early (by decide)) (fun _ early => absurd early (by decide))
  | behindLength =>
    have step : HeaderStep rxmsg { rxmsg with seq := c } ⟨parseError, .gotSeq, packetIdx,
        currentRxSeq, currentTxSeq, received, inMavlink1, outMavlink1, wait⟩ .v1 1 c :=
      ⟨⟨flag, magic⟩, index (by decide), checksum, rfl, inside,
        fun second => absurd second (by decide)⟩
    exact step.outcome .seq (fun _ => flags (by decide)) (fun second => absurd second (by decide))
      (fun second => absurd second (by decide))
  | compatFlags =>
    have step : HeaderStep rxmsg { rxmsg with seq := c } ⟨parseError, .gotSeq, packetIdx,
        currentRxSeq, currentTxSeq, received, inMavlink1, outMavlink1, wait⟩ .v2 3 c :=
      ⟨⟨flag, magic⟩, index (by decide), checksum, rfl, inside,
        fun _ late => absurd late (by decide)⟩
    exact step.outcome .seq2 (fun _ => flags (by decide))
      (fun _ early => absurd early (by decide))
      (fun _ early => absurd early (by decide))
  | seq =>
    have step : HeaderStep rxmsg { rxmsg with sysid := c } ⟨parseError, .gotSysid, packetIdx,
        currentRxSeq, currentTxSeq, received, inMavlink1, outMavlink1, wait⟩ .v1 2 c :=
      ⟨⟨flag, magic⟩, index (by decide), checksum, rfl, inside,
        fun second => absurd second (by decide)⟩
    exact step.outcome .sysid (fun _ => flags (by decide))
      (fun second => absurd second (by decide))
      (fun second => absurd second (by decide))
  | seq2 =>
    have step : HeaderStep rxmsg { rxmsg with sysid := c } ⟨parseError, .gotSysid, packetIdx,
        currentRxSeq, currentTxSeq, received, inMavlink1, outMavlink1, wait⟩ .v2 4 c :=
      ⟨⟨flag, magic⟩, index (by decide), checksum, rfl, inside,
        fun _ late => absurd late (by decide)⟩
    exact step.outcome .sysid2 (fun _ => flags (by decide))
      (fun _ early => absurd early (by decide))
      (fun _ early => absurd early (by decide))
  | sysid =>
    have step : HeaderStep rxmsg { rxmsg with compid := c } ⟨parseError, .gotCompid, packetIdx,
        currentRxSeq, currentTxSeq, received, inMavlink1, outMavlink1, wait⟩ .v1 3 c :=
      ⟨⟨flag, magic⟩, index (by decide), checksum, rfl, inside,
        fun second => absurd second (by decide)⟩
    exact step.outcome .compid (fun _ => flags (by decide))
      (fun second => absurd second (by decide))
      (fun second => absurd second (by decide))
  | sysid2 =>
    have step : HeaderStep rxmsg { rxmsg with compid := c } ⟨parseError, .gotCompid, packetIdx,
        currentRxSeq, currentTxSeq, received, inMavlink1, outMavlink1, wait⟩ .v2 5 c :=
      ⟨⟨flag, magic⟩, index (by decide), checksum, rfl, inside,
        fun _ late => absurd late (by decide)⟩
    exact step.outcome .compid2 (fun _ => flags (by decide))
      (fun _ early => absurd early (by decide))
      (fun _ early => absurd early (by decide))
  | compid =>
    let stored := { rxmsg with msgid := c.toBitVec.setWidth 24 }
    have number : stored.msgid = MavlinkVersion.number c 0 0 := (number_low c).symm
    have low := (msgidByte_number number).1
    have step : HeaderStep rxmsg stored ⟨parseError, MavlinkChannel.behindHeader rxmsg, packetIdx,
        currentRxSeq, currentTxSeq, received, inMavlink1, outMavlink1, wait⟩ .v1 4 c := by
      refine ⟨⟨flag, magic⟩, index (by decide), checksum, ?_, inside,
        fun second => absurd second (by decide)⟩
      show [rxmsg.len, rxmsg.seq, rxmsg.sysid, rxmsg.compid, stored.msgidByte 0] = _
      rw [low]
      rfl
    have first : inMavlink1 = true := flag
    subst first
    refine step.outcome_end rfl ⟨flags (by decide), ?_⟩ rfl
    show stored.msgid = MavlinkVersion.number (stored.msgidByte 0) 0 0
    rw [low, number]
  | compid2 =>
    let stored := { rxmsg with msgid := c.toBitVec.setWidth 24 }
    have number : stored.msgid = MavlinkVersion.number c 0 0 := (number_low c).symm
    have low := (msgidByte_number number).1
    have step : HeaderStep rxmsg stored ⟨parseError, .gotMsgid1, packetIdx, currentRxSeq,
        currentTxSeq, received, inMavlink1, outMavlink1, wait⟩ .v2 6 c := by
      refine ⟨⟨flag, magic⟩, index (by decide), checksum, ?_, inside,
        fun _ late => absurd late (by decide)⟩
      show [rxmsg.len, rxmsg.incompatFlags, rxmsg.compatFlags, rxmsg.seq, rxmsg.sysid,
        rxmsg.compid, stored.msgidByte 0] = _
      rw [low]
      rfl
    have second : inMavlink1 = false := flag
    subst second
    refine step.outcome .msgid1 (fun _ => flags (by decide)) (fun _ _ => ?_)
      (fun _ early => absurd early (by decide))
    rw [low, number]
  | msgid1 =>
    let stored := { rxmsg with msgid := rxmsg.msgid ||| c.toBitVec.setWidth 24 <<< 8 }
    have number : stored.msgid = MavlinkVersion.number (rxmsg.msgidByte 0) c 0 := by
      rw [← number_middle, ← msgid1 rfl rfl]
    obtain ⟨low, middle, _⟩ := msgidByte_number number
    have step : HeaderStep rxmsg stored ⟨parseError, .gotMsgid2, packetIdx, currentRxSeq,
        currentTxSeq, received, inMavlink1, outMavlink1, wait⟩ .v2 7 c := by
      refine ⟨⟨flag, magic⟩, index (by decide), checksum, ?_, inside,
        fun _ late => absurd late (by decide)⟩
      show [rxmsg.len, rxmsg.incompatFlags, rxmsg.compatFlags, rxmsg.seq, rxmsg.sysid,
        rxmsg.compid, stored.msgidByte 0, stored.msgidByte 1] = _
      rw [low, middle]
      rfl
    refine step.outcome .msgid2 (fun _ => flags (by decide))
      (fun _ late => absurd late (by decide)) (fun _ _ => ?_)
    rw [low, middle, number]
  | msgid2 =>
    let stored := { rxmsg with msgid := rxmsg.msgid ||| c.toBitVec.setWidth 24 <<< 16 }
    have number :
        stored.msgid = MavlinkVersion.number (rxmsg.msgidByte 0) (rxmsg.msgidByte 1) c := by
      rw [← number_high, ← msgid2 rfl rfl]
    obtain ⟨low, middle, high⟩ := msgidByte_number number
    have step : HeaderStep rxmsg stored ⟨parseError, MavlinkChannel.behindHeader rxmsg, packetIdx,
        currentRxSeq, currentTxSeq, received, inMavlink1, outMavlink1, wait⟩ .v2 8 c := by
      refine ⟨⟨flag, magic⟩, index (by decide), checksum, ?_, inside,
        fun _ late => absurd late (by decide)⟩
      show [rxmsg.len, rxmsg.incompatFlags, rxmsg.compatFlags, rxmsg.seq, rxmsg.sysid,
        rxmsg.compid, stored.msgidByte 0, stored.msgidByte 1, stored.msgidByte 2] = _
      rw [low, middle, high]
      rfl
    refine step.outcome_end rfl ⟨flags (by decide), ?_⟩ rfl
    exact (number_msgidByte stored).symm

private theorem contentLength_headerOf (message : MavlinkMessage) (version : MavlinkVersion)
    (rest : Bytes) :
    version.contentLength (message.headerOf version ++ rest) =
      version.headerLength + message.len.toNat := by
  cases version <;> rfl

private theorem length_payload (message : MavlinkMessage) (count : UInt8) :
    (message.payload.toList.take count.toNat).length = count.toNat := by
  have small := count.toNat_lt
  rw [List.length_take, Vector.length_toList]
  omega

theorem whole_contentOf (message : MavlinkMessage) (version : MavlinkVersion) :
    Whole version (message.contentOf version) := by
  rw [Whole, MavlinkMessage.contentOf, contentLength_headerOf, List.length_append,
    length_headerOf, length_payload]

private theorem take_set {α : Type} (list : List α) {place : Nat} (inside : place < list.length)
    (value : α) : (list.set place value).take (place + 1) = list.take place ++ [value] := by
  rw [List.take_add_one, List.take_set_of_le (Nat.le_refl place), List.getElem?_set_self inside]
  rfl

private theorem outcome_frameState_payload {channel : MavlinkChannel} {version : MavlinkVersion}
    {body : Bytes} (versioned : Versioned channel version) (headed : Headed channel.rxmsg version)
    (state : channel.status.parseState = .gotMsgid3)
    (index : channel.status.packetIdx < channel.rxmsg.len)
    (body_eq : body = channel.rxmsg.headerOf version ++
      channel.rxmsg.payload.toList.take channel.status.packetIdx.toNat)
    (checksum : channel.rxmsg.checksum = crcCalculate body) (c : UInt8) :
    FrameOutcome (channel.frameState c).1 (some (version, body)) c (channel.frameState c).2 := by
  obtain ⟨rxmsg, status⟩ := channel
  obtain ⟨parseError, parseState, packetIdx, currentRxSeq, currentTxSeq, received, inMavlink1,
    outMavlink1, wait⟩ := status
  simp only at *
  subst state
  have below := UInt8.lt_iff_toNat_lt.mp index
  have small := rxmsg.len.toNat_lt
  have next : (packetIdx + 1).toNat = packetIdx.toNat + 1 := by
    rw [UInt8.toNat_add]
    exact Nat.mod_eq_of_lt (by show packetIdx.toNat + 1 < 256; omega)
  let payload := rxmsg.payload.set packetIdx.toNat c
    (Nat.lt_trans packetIdx.toNat_lt (by decide))
  let stored : MavlinkMessage := { rxmsg with payload := payload }
  have longer : body ++ [c] =
      stored.headerOf version ++ payload.toList.take (packetIdx + 1).toNat := by
    rw [body_eq, next, Vector.toList_set, take_set _ (by rw [Vector.length_toList]; omega),
      ← List.append_assoc]
    rfl
  have length : (body ++ [c]).length = version.headerLength + (packetIdx.toNat + 1) := by
    rw [longer, List.length_append, length_headerOf, ← next]
    exact congrArg _ (length_payload stored (packetIdx + 1))
  have more : version.judge (body ++ [c]) = .more := by
    apply judge_more
    · rw [length, longer, contentLength_headerOf]
      show _ < version.headerLength + rxmsg.len.toNat + 2
      omega
    · rintro ⟨second, two, _⟩
      subst second
      rw [length] at two
      simp only [MavlinkVersion.headerLength] at two
      omega
  have read := read_more more
  have sum : (stored.updateChecksum c).checksum = crcCalculate (body ++ [c]) := by
    rw [crcCalculate_snoc, ← checksum]
    rfl
  rw [MavlinkChannel.frameState]
  simp only
  by_cases last : packetIdx + 1 = rxmsg.len
  · rw [if_pos last]
    refine .incomplete ?_ (by rw [read])
    rw [read]
    refine .checking ⟨versioned.flag, versioned.magic⟩ ⟨headed.flags, headed.msgid⟩ rfl last ?_ sum
    rw [longer, last]
    rfl
  · rw [if_neg last]
    refine .incomplete ?_ (by rw [read])
    rw [read]
    refine .payload ⟨versioned.flag, versioned.magic⟩ ⟨headed.flags, headed.msgid⟩ rfl ?_ longer sum
    apply UInt8.lt_iff_toNat_lt.mpr
    have other : (packetIdx + 1).toNat ≠ rxmsg.len.toNat := fun same =>
      last (UInt8.toNat_inj.mp same)
    show (packetIdx + 1).toNat < rxmsg.len.toNat
    omega

theorem msgid_contentOf (message : MavlinkMessage) (version : MavlinkVersion) :
    version.msgid (message.contentOf version) = version.msgid (message.headerOf version) := by
  cases version <;> rfl

private theorem take_mapIdx (payload : Vector UInt8 264) (first last : Nat) :
    (payload.mapIdx fun place byte =>
      if first ≤ place ∧ place < last then 0 else byte).toList.take first =
        payload.toList.take first := by
  apply List.ext_getElem
  · simp
  · intro place inside _
    have before : ¬ first ≤ place := by
      rw [List.length_take] at inside
      omega
    simp [before]

/-- The filling with zeros begins behind what has been received. -/
private theorem outcome_frameState_checking {channel : MavlinkChannel} {version : MavlinkVersion}
    {body : Bytes} (versioned : Versioned channel version) (headed : Headed channel.rxmsg version)
    (state : channel.status.parseState = .gotPayload)
    (index : channel.status.packetIdx = channel.rxmsg.len)
    (body_eq : body = channel.rxmsg.contentOf version)
    (checksum : channel.rxmsg.checksum = crcCalculate body) (c : UInt8) :
    FrameOutcome (channel.frameState c).1 (some (version, body)) c (channel.frameState c).2 := by
  obtain ⟨rxmsg, status⟩ := channel
  obtain ⟨parseError, parseState, packetIdx, currentRxSeq, currentTxSeq, received, inMavlink1,
    outMavlink1, wait⟩ := status
  simp only at *
  subst state index body_eq
  have whole := whole_contentOf rxmsg version
  have more : version.judge (rxmsg.contentOf version ++ [c]) = .more := by
    rw [whole.judge_append]
    rfl
  have read := read_more more
  have sum : crcAccumulate (mavlinkGetCrcExtra (uint32Msgid rxmsg.msgid)) rxmsg.checksum =
      version.checksum (rxmsg.contentOf version) := by
    rw [checksum, headed.msgid, ← msgid_contentOf]
    rfl
  have filled (payload : Vector UInt8 264) (same : payload.toList.take rxmsg.len.toNat =
      rxmsg.payload.toList.take rxmsg.len.toNat) :
      FrameOutcome ⟨{ rxmsg.updateChecksum (mavlinkGetCrcExtra (uint32Msgid rxmsg.msgid)) with
          payload := payload, ck := (c, rxmsg.ck.2) },
        ⟨parseError, if c = (ckBytes (rxmsg.updateChecksum (mavlinkGetCrcExtra
            (uint32Msgid rxmsg.msgid))).checksum).1 then .gotCrc1 else .gotBadCrc1, rxmsg.len,
          currentRxSeq, currentTxSeq, received, inMavlink1, outMavlink1, wait⟩⟩
        (some (version, rxmsg.contentOf version)) c .incomplete := by
    have content : rxmsg.contentOf version =
        rxmsg.headerOf version ++ payload.toList.take rxmsg.len.toNat := by
      rw [same]
      rfl
    refine .incomplete ?_ (by rw [read])
    rw [read, content]
    refine .crc ⟨versioned.flag, versioned.magic⟩ ⟨headed.flags, headed.msgid⟩ ?_ rfl rfl
    exact sum.trans (congrArg version.checksum content)
  rw [MavlinkChannel.frameState]
  simp only
  cases mavlinkGetMsgEntry (uint32Msgid rxmsg.msgid) with
  | none => exact filled rxmsg.payload rfl
  | some entry => exact filled _ (take_mapIdx rxmsg.payload _ _)

theorem signed_contentOf {message : MavlinkMessage} {version : MavlinkVersion}
    (flags : Understood message version) :
    version.Signed (message.contentOf version) ↔
      message.incompatFlags &&& mavlinkIflagSigned ≠ 0 := by
  cases version with
  | v1 =>
    constructor
    · intro signed
      cases signed.1
    · intro signed
      rw [flags.1] at signed
      exact absurd rfl signed
  | v2 => exact ⟨fun signed => signed.2, fun signed => ⟨rfl, signed⟩⟩

private theorem outcome_frameState_crc {channel : MavlinkChannel} {version : MavlinkVersion}
    {body : Bytes} (versioned : Versioned channel version) (headed : Headed channel.rxmsg version)
    (checksum : channel.rxmsg.checksum = version.checksum (channel.rxmsg.contentOf version))
    (state : channel.status.parseState =
      if channel.rxmsg.ck.1 = (ckBytes channel.rxmsg.checksum).1 then .gotCrc1 else .gotBadCrc1)
    (body_eq : body = channel.rxmsg.contentOf version ++ [channel.rxmsg.ck.1]) (c : UInt8) :
    FrameOutcome (channel.frameState c).1 (some (version, body)) c (channel.frameState c).2 := by
  have whole := whole_contentOf channel.rxmsg version
  have together : body ++ [c] = channel.rxmsg.contentOf version ++ [channel.rxmsg.ck.1, c] := by
    rw [body_eq, List.append_assoc]
    rfl
  have judged := whole.judge_append [channel.rxmsg.ck.1, c]
  rw [← together, ← checksum] at judged
  simp only [List.length_cons, List.length_nil, Nat.reduceAdd, Nat.lt_irrefl, if_false, if_true]
    at judged
  have spoils (wrong : [channel.rxmsg.ck.1, c] ≠ MavlinkVersion.ck channel.rxmsg.checksum) :
      FrameOutcome (channel.finish { channel.rxmsg with ck := (channel.rxmsg.ck.1, c) } false).1
        (some (version, body)) c
        (channel.finish { channel.rxmsg with ck := (channel.rxmsg.ck.1, c) } false).2 := by
    rw [if_neg wrong] at judged
    have read : mavlinkFrames.read (some (version, body)) c =
        (if c = mavlinkStx then some (version, []) else none, []) := by
      refine (congrArg (Verdict.after version (body ++ [c])) judged).trans ?_
      by_cases stx : c = mavlinkStx
      · simp [Verdict.after, stx]
      · simp [Verdict.after, stx]
    rw [MavlinkChannel.finish]
    split
    · exact .badCrc ⟨versioned.flag, versioned.magic⟩ read
    · exact .badCrc ⟨versioned.flag, versioned.magic⟩ read
  rw [MavlinkChannel.frameState, state]
  by_cases first : channel.rxmsg.ck.1 = (ckBytes channel.rxmsg.checksum).1
  · rw [if_pos first]
    simp only
    by_cases second : c = (ckBytes channel.rxmsg.checksum).2
    · have right : [channel.rxmsg.ck.1, c] = MavlinkVersion.ck channel.rxmsg.checksum := by
        rw [first, second]
        rfl
      rw [if_pos right] at judged
      have compared : (c == (ckBytes channel.rxmsg.checksum).2) = true := beq_iff_eq.mpr second
      have ck : (channel.rxmsg.ck.1, c) = ckBytes channel.rxmsg.checksum := by rw [first, second]
      rw [compared, MavlinkChannel.finish]
      by_cases signed : channel.rxmsg.incompatFlags &&& mavlinkIflagSigned ≠ 0
      · rw [if_pos ((signed_contentOf headed.flags).mpr signed)] at judged
        have read := read_more judged
        rw [if_pos signed]
        refine .incomplete ?_ (by rw [read])
        rw [read, together, right]
        refine .signature ⟨versioned.flag, versioned.magic⟩ ⟨headed.flags, headed.msgid⟩ checksum
          rfl ck signed (show (0 : UInt8) < 13 by decide) (show (13 : UInt8) ≤ 13 by decide) ?_
        exact (List.append_nil _).symm
      · have unsigned : ¬ version.Signed (channel.rxmsg.contentOf version) := fun claimed =>
          signed ((signed_contentOf headed.flags).mp claimed)
        rw [if_neg unsigned] at judged
        have read : mavlinkFrames.read (some (version, body)) c = (none, [(version, body ++ [c])]) :=
          congrArg (Verdict.after version (body ++ [c])) judged
        rw [if_neg signed]
        refine .ok rfl ?_ read
        refine ⟨versioned.magic, ⟨headed.flags, headed.msgid⟩, checksum, ck, ?_⟩
        have none : ¬ version.Signed (MavlinkMessage.contentOf
            { channel.rxmsg with ck := (channel.rxmsg.ck.1, c) } version) := unsigned
        rw [if_neg none, together, right]
        exact (List.append_nil _).symm
    · rw [beq_eq_false_iff_ne.mpr second]
      apply spoils
      intro same
      exact second (List.cons.inj (List.cons.inj same).2).1
  · rw [if_neg first]
    apply spoils
    intro same
    exact first (List.cons.inj same).1

private theorem outcome_frameState_signature {channel : MavlinkChannel} {version : MavlinkVersion}
    {body : Bytes} (versioned : Versioned channel version) (headed : Headed channel.rxmsg version)
    (checksum : channel.rxmsg.checksum = version.checksum (channel.rxmsg.contentOf version))
    (state : channel.status.parseState = .signatureWait)
    (ck : channel.rxmsg.ck = ckBytes channel.rxmsg.checksum)
    (signed : channel.rxmsg.incompatFlags &&& mavlinkIflagSigned ≠ 0)
    (positive : 0 < channel.status.signatureWait) (room : channel.status.signatureWait ≤ 13)
    (body_eq : body = channel.rxmsg.contentOf version ++
      MavlinkVersion.ck channel.rxmsg.checksum ++
        channel.rxmsg.signature.toList.take (13 - channel.status.signatureWait.toNat))
    (c : UInt8) :
    FrameOutcome (channel.frameState c).1 (some (version, body)) c (channel.frameState c).2 := by
  have whole := whole_contentOf channel.rxmsg version
  have some := UInt8.lt_iff_toNat_lt.mp positive
  have few := UInt8.le_iff_toNat_le.mp room
  have zero : (0 : UInt8).toNat = 0 := rfl
  have thirteen : (13 : UInt8).toNat = 13 := rfl
  rw [zero] at some
  rw [thirteen] at few
  have less : (channel.status.signatureWait - 1).toNat =
      channel.status.signatureWait.toNat - 1 := by
    have one : (1 : UInt8) ≤ channel.status.signatureWait := UInt8.le_iff_toNat_le.mpr some
    rw [UInt8.toNat_sub_of_le _ _ one]
    rfl
  let signature := channel.rxmsg.signature.setIfInBounds
    (13 - channel.status.signatureWait.toNat) c
  let stored : MavlinkMessage := { channel.rxmsg with signature := signature }
  have inside : 13 - channel.status.signatureWait.toNat < channel.rxmsg.signature.toList.length := by
    rw [Vector.length_toList]
    omega
  have taken : signature.toList.take (13 - channel.status.signatureWait.toNat + 1) =
      channel.rxmsg.signature.toList.take (13 - channel.status.signatureWait.toNat) ++ [c] := by
    rw [Vector.toList_setIfInBounds, take_set _ inside]
  have together : body ++ [c] = stored.contentOf version ++
      (MavlinkVersion.ck channel.rxmsg.checksum ++
        signature.toList.take (13 - channel.status.signatureWait.toNat + 1)) := by
    rw [taken, body_eq, List.append_assoc, List.append_assoc]
    rfl
  have length : (MavlinkVersion.ck channel.rxmsg.checksum ++
      signature.toList.take (13 - channel.status.signatureWait.toNat + 1)).length =
        16 - channel.status.signatureWait.toNat := by
    rw [List.length_append, List.length_take, Vector.length_toList]
    show 2 + _ = _
    omega
  have judged := (whole_contentOf stored version).judge_append
    (MavlinkVersion.ck channel.rxmsg.checksum ++
      signature.toList.take (13 - channel.status.signatureWait.toNat + 1))
  rw [← together, length, if_neg (by omega), if_neg (by omega)] at judged
  rw [MavlinkChannel.frameState, state]
  simp only
  by_cases last : channel.status.signatureWait - 1 = 0
  · have done : channel.status.signatureWait.toNat = 1 := by
      rw [last, zero] at less
      omega
    rw [done, if_neg (by decide)] at judged
    have read : mavlinkFrames.read (.some (version, body)) c = (none, [(version, body ++ [c])]) :=
      congrArg (Verdict.after version (body ++ [c])) judged
    rw [if_pos last]
    refine .ok rfl ?_ read
    refine ⟨versioned.magic, ⟨headed.flags, headed.msgid⟩, checksum, ck, ?_⟩
    have claimed : version.Signed (stored.contentOf version) :=
      (signed_contentOf headed.flags).mpr signed
    have full : signature.toList.take 13 = signature.toList := by
      apply List.take_of_length_le
      exact Nat.le_of_eq (Vector.length_toList)
    have end_eq : 13 - channel.status.signatureWait.toNat + 1 = 13 := by omega
    rw [together, end_eq, full, if_pos claimed, List.append_assoc]
  · have further : 1 < channel.status.signatureWait.toNat := by
      have positive : (channel.status.signatureWait - 1).toNat ≠ 0 := fun nothing =>
        last (UInt8.toNat_inj.mp nothing)
      omega
    rw [if_pos (by omega)] at judged
    have read := read_more judged
    rw [if_neg last]
    refine .incomplete ?_ (by rw [read])
    rw [read]
    refine .signature ⟨versioned.flag, versioned.magic⟩ ⟨headed.flags, headed.msgid⟩ checksum rfl
      ck signed ?_ ?_ ?_
    · apply UInt8.lt_iff_toNat_lt.mpr
      show 0 < (channel.status.signatureWait - 1).toNat
      omega
    · apply UInt8.le_iff_toNat_le.mpr
      show (channel.status.signatureWait - 1).toNat ≤ 13
      omega
    · have count : 13 - (channel.status.signatureWait - 1).toNat =
          13 - channel.status.signatureWait.toNat + 1 := by omega
      show body ++ [c] = _ ++ signature.toList.take (13 - (channel.status.signatureWait - 1).toNat)
      rw [together, count, List.append_assoc]

private theorem outcome_frameState_idle {channel : MavlinkChannel}
    (state : channel.status.parseState = .uninit ∨ channel.status.parseState = .idle) (c : UInt8) :
    FrameOutcome (channel.frameState c).1 none c (channel.frameState c).2 := by
  obtain ⟨rxmsg, status⟩ := channel
  obtain ⟨parseError, parseState, packetIdx, currentRxSeq, currentTxSeq, received, inMavlink1,
    outMavlink1, wait⟩ := status
  have begins (version : MavlinkVersion) (starts : MavlinkVersion.starts c = some version)
      (magic : c = mavlinkStxMavlink1 ↔ version = .v1) :
      FrameOutcome ⟨{ rxmsg with len := 0, magic := c }.startChecksum, ⟨parseError, .gotStx, packetIdx,
        currentRxSeq, currentTxSeq, received, decide (version = .v1), outMavlink1, wait⟩⟩ none c
        .incomplete := by
    have read : mavlinkFrames.read none c = (some (version, []), []) := by
      show ((MavlinkVersion.starts c).map fun mode => (mode, []), []) = _
      rw [starts]
      rfl
    refine .incomplete ?_ (by rw [read])
    rw [read]
    refine .header ⟨rfl, magic⟩ (.stx version) (fun some => absurd some (by decide)) ?_ rfl
    refine ⟨rfl, ?_, fun _ none => absurd none (by decide), fun _ none => absurd none (by decide)⟩
    intro early
    cases version <;> exact absurd early (by decide)
  have frame : MavlinkChannel.frameState c ⟨rxmsg, ⟨parseError, parseState, packetIdx,
      currentRxSeq, currentTxSeq, received, inMavlink1, outMavlink1, wait⟩⟩ =
      if c = mavlinkStx then
        (⟨{ rxmsg with len := 0, magic := c }.startChecksum, ⟨parseError, .gotStx, packetIdx,
          currentRxSeq, currentTxSeq, received, false, outMavlink1, wait⟩⟩, .incomplete)
      else if c = mavlinkStxMavlink1 then
        (⟨{ rxmsg with len := 0, magic := c }.startChecksum, ⟨parseError, .gotStx, packetIdx,
          currentRxSeq, currentTxSeq, received, true, outMavlink1, wait⟩⟩, .incomplete)
      else (⟨rxmsg, ⟨parseError, parseState, packetIdx, currentRxSeq, currentTxSeq, received,
        inMavlink1, outMavlink1, wait⟩⟩, .incomplete) := by
    simp only at state
    rcases state with rfl | rfl <;> rfl
  rw [frame]
  by_cases stx : c = mavlinkStx
  · rw [if_pos stx]
    refine begins .v2 (if_pos stx) ?_
    rw [stx]
    decide
  · rw [if_neg stx]
    by_cases first : c = mavlinkStxMavlink1
    · rw [if_pos first]
      exact begins .v1 ((if_neg stx).trans (if_pos first)) ⟨fun _ => rfl, fun _ => first⟩
    · rw [if_neg first]
      have read : mavlinkFrames.read none c = (none, []) := by
        show ((MavlinkVersion.starts c).map fun mode => (mode, []), []) = _
        rw [MavlinkVersion.starts, if_neg stx, if_neg first]
        rfl
      refine .incomplete ?_ (by rw [read])
      rw [read]
      exact .idle state

theorem Reading.outcome {channel : MavlinkChannel} {state : Option (MavlinkVersion × Bytes)}
    (reading : Reading channel state) (c : UInt8) :
    FrameOutcome (channel.frameState c).1 state c (channel.frameState c).2 := by
  cases reading with
  | idle state => exact outcome_frameState_idle state c
  | header versioned place index read body_eq =>
    subst body_eq
    exact outcome_frameState_header versioned place index read c
  | payload versioned headed state index body_eq checksum =>
    exact outcome_frameState_payload versioned headed state index body_eq checksum c
  | checking versioned headed state index body_eq checksum =>
    exact outcome_frameState_checking versioned headed state index body_eq checksum c
  | crc versioned headed checksum state body_eq =>
    exact outcome_frameState_crc versioned headed checksum state body_eq c
  | signature versioned headed checksum state ck signed positive room body_eq =>
    exact outcome_frameState_signature versioned headed checksum state ck signed positive room
      body_eq c

theorem Reading.counted {channel : MavlinkChannel} {state : Option (MavlinkVersion × Bytes)}
    (reading : Reading channel state) (parseError currentRxSeq : UInt8) (received : UInt16) :
    Reading ⟨channel.rxmsg, { channel.status with
      parseError := parseError, currentRxSeq := currentRxSeq, packetRxSuccessCount := received }⟩
      state := by
  cases reading with
  | idle state => exact .idle state
  | header versioned place index read body_eq =>
    exact .header ⟨versioned.flag, versioned.magic⟩ place index read body_eq
  | payload versioned headed state index body_eq checksum =>
    exact .payload ⟨versioned.flag, versioned.magic⟩ headed state index body_eq checksum
  | checking versioned headed state index body_eq checksum =>
    exact .checking ⟨versioned.flag, versioned.magic⟩ headed state index body_eq checksum
  | crc versioned headed checksum state body_eq =>
    exact .crc ⟨versioned.flag, versioned.magic⟩ headed checksum state body_eq
  | signature versioned headed checksum state ck signed positive room body_eq =>
    exact .signature ⟨versioned.flag, versioned.magic⟩ headed checksum state ck signed positive
      room body_eq

def MavlinkChannel.step (channel : MavlinkChannel) (c : UInt8) :
    MavlinkChannel × List MavlinkMessage :=
  ((channel.parseChar c).1, (channel.parseChar c).2.toList)

theorem Reading.step {channel : MavlinkChannel} {state : Option (MavlinkVersion × Bytes)}
    (c : UInt8) (reading : Reading channel state) :
    Reading (channel.step c).1 (mavlinkFrames.read state c).1 ∧
      List.Forall₂ (fun message frame => Carried message frame.1 frame.2) (channel.step c).2
        (mavlinkFrames.read state c).2 := by
  have outcome := reading.outcome c
  rw [MavlinkChannel.step, MavlinkChannel.parseChar, MavlinkChannel.frameChar]
  generalize channel.frameState c = framed at outcome
  obtain ⟨after, framing⟩ := framed
  simp only at outcome
  cases outcome with
  | incomplete next silent =>
    rw [silent]
    exact ⟨next.counted 0 after.status.currentRxSeq after.status.packetRxSuccessCount, .nil⟩
  | ok idle carried handedOn =>
    rw [handedOn]
    exact ⟨.idle (.inr idle), .cons carried .nil⟩
  | @badCrc version versioned spoiled =>
    rw [spoiled]
    simp only [reduceCtorEq, if_false]
    by_cases stx : c = mavlinkStx
    · rw [if_pos stx, if_pos stx]
      refine ⟨.header ⟨versioned.flag, versioned.magic⟩ (.stx version)
        (fun some => absurd some (by decide)) ⟨rfl, ?_, fun _ none => absurd none (by decide),
          fun _ none => absurd none (by decide)⟩ rfl, .nil⟩
      intro early
      cases version <;> exact absurd early (by decide)
    · rw [if_neg stx, if_neg stx]
      exact ⟨.idle (.inr rfl), .nil⟩

/-- However many bytes are parsed, the parser reads frames as the reader does. -/
theorem Reading.transduce {channel : MavlinkChannel} {state : Option (MavlinkVersion × Bytes)}
    (reading : Reading channel state) (stream : Bytes) :
    Reading (transduce MavlinkChannel.step channel stream).1
        (transduce mavlinkFrames.read state stream).1 ∧
      List.Forall₂ (fun message frame => Carried message frame.1 frame.2)
        (transduce MavlinkChannel.step channel stream).2
        (transduce mavlinkFrames.read state stream).2 :=
  transduce_simulates MavlinkChannel.step channel (fun c => Reading.step c) reading stream

end PilotingMavsdk
