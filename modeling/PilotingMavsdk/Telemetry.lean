import PilotingMavsdk.MavlinkMessageHandler
import PilotingMavsdk.UdpWire

/-! The telemetry plugins: what the vehicle's sends, what the ground station's keeps of it, and to whom
it is reported. -/

namespace PilotingMavsdk
open Library

namespace TelemetryBase

def nan : FloatBits := 0x7fc00000

structure PositionNed where
  northM : FloatBits := nan
  eastM : FloatBits := nan
  downM : FloatBits := nan
deriving DecidableEq, Repr

structure VelocityNed where
  northMS : FloatBits := 0
  eastMS : FloatBits := 0
  downMS : FloatBits := 0
deriving DecidableEq, Repr

structure PositionVelocityNed where
  systemId : UInt8 := 0
  componentId : UInt8 := 0
  stampMs : UInt32 := 0
  position : PositionNed := {}
  velocity : VelocityNed := {}
deriving DecidableEq, Repr

structure Quaternion where
  w : FloatBits := nan
  x : FloatBits := nan
  y : FloatBits := nan
  z : FloatBits := nan
deriving DecidableEq, Repr

structure AngularVelocityBody where
  rollRadS : FloatBits := nan
  pitchRadS : FloatBits := nan
  yawRadS : FloatBits := nan
deriving DecidableEq, Repr

structure Attitude where
  systemId : UInt8 := 0
  componentId : UInt8 := 0
  stampMs : UInt32 := 0
  quaternionAngle : Quaternion := {}
  angularVelocity : AngularVelocityBody := {}
deriving DecidableEq, Repr

/-- The bytes of a `std::string`, which may contain zeros. -/
structure TextStatus where
  type : TextStatusType := .error
  text : Bytes := []
deriving DecidableEq, Repr

end TelemetryBase
open TelemetryBase

inductive TelemetrySample where
  | positionVelocityNed (sample : PositionVelocityNed)
  | attitude (sample : Attitude)
  | textStatus (sample : TextStatus)
deriving DecidableEq, Repr

/-- What a pack function is called with, and what a decode function finds: the structure, filled up
with zeros, and the constants of its message. -/
structure PackCall where
  source : MAVLinkAddress
  msgId : Nat
  bytes : Bytes
  minLength : Nat
  crcExtra : UInt8
deriving DecidableEq, Repr

namespace PackCall

def packed (memory : PackMemory) (call : PackCall) : MavlinkMessage :=
  (mavlinkFinalizeMessageBuffer (memory.buffer.put call.msgId call.bytes) call.source.systemId
    call.source.componentId memory.status (UInt8.ofNat call.minLength)
    (UInt8.ofNat call.bytes.length) call.crcExtra).1

/-- The decode functions know the constants from their headers. -/
def received (message : MavlinkMessage) : Option PackCall :=
  (mavlinkGetMsgEntry (uint32Msgid message.msgid)).map fun entry =>
    { source := ⟨message.sysid, message.compid⟩
      msgId := message.msgid.toNat
      bytes := decode entry.maxMsgLen.toNat (message.payload.toList.take message.len.toNat)
      minLength := entry.minMsgLen.toNat
      crcExtra := entry.crcExtra }

/-- The constants are those of the table that the parser uses. -/
def known (call : PackCall) : Bool :=
  call.msgId < 2 ^ 24 && call.minLength < 256 && call.bytes.length < 256 &&
    mavlinkGetMsgEntry (uint32Msgid (BitVec.ofNat 24 call.msgId)) = some
      ⟨UInt32.ofNat call.msgId, call.crcExtra, UInt8.ofNat call.minLength,
        UInt8.ofNat call.bytes.length⟩

def codec : MavlinkCodec PackCall := ⟨packed, fun _ => received⟩

end PackCall

namespace Layout

def localPositionNed : Layout (UInt32 × PositionNed × VelocityNed) :=
  (Layout.uint32.pair (Layout.uint32.pair (Layout.uint32.pair (Layout.uint32.pair
    (Layout.uint32.pair (Layout.uint32.pair .uint32)))))).map
    (fun (stamp, x, y, z, vx, vy, vz) => (stamp, ⟨x, y, z⟩, ⟨vx, vy, vz⟩))
    (fun (stamp, position, velocity) => (stamp, position.northM, position.eastM, position.downM,
      velocity.northMS, velocity.eastMS, velocity.downMS))
    (fun _ => rfl)

/-- The last four are `repr_offset_q`. -/
def attitudeQuaternion : Layout ((UInt32 × Quaternion × AngularVelocityBody) ×
    FloatBits × FloatBits × FloatBits × FloatBits) :=
  (Layout.uint32.pair (Layout.uint32.pair (Layout.uint32.pair (Layout.uint32.pair
    (Layout.uint32.pair (Layout.uint32.pair (Layout.uint32.pair (Layout.uint32.pair
      (Layout.uint32.pair (Layout.uint32.pair (Layout.uint32.pair .uint32))))))))))).map
    (fun (stamp, w, x, y, z, roll, pitch, yaw, offset) =>
      ((stamp, ⟨w, x, y, z⟩, ⟨roll, pitch, yaw⟩), offset))
    (fun ((stamp, angle, velocity), offset) => (stamp, angle.w, angle.x, angle.y, angle.z,
      velocity.rollRadS, velocity.pitchRadS, velocity.yawRadS, offset))
    (fun _ => rfl)

end Layout

structure TelemetryRoboticVehicleImpl where
  own : MAVLinkAddress

namespace TelemetryRoboticVehicleImpl
variable (plugin : TelemetryRoboticVehicleImpl)

/-- A sample of another system is refused. -/
def sendLocalPositionNed (localPositionNed : PositionVelocityNed) : Option PackCall :=
  if plugin.own.systemId ≠ localPositionNed.systemId then none
  else some {
    source := ⟨plugin.own.systemId, localPositionNed.componentId⟩
    msgId := 32
    bytes := Layout.localPositionNed.encode (fun _ => 0)
      (localPositionNed.stampMs, localPositionNed.position, localPositionNed.velocity)
    minLength := 28
    crcExtra := 185 }

/-- `mav_array_memcpy` makes zeros of the null pointer. -/
def sendAttitude (attitude : Attitude) : Option PackCall :=
  if plugin.own.systemId ≠ attitude.systemId then none
  else some {
    source := ⟨plugin.own.systemId, attitude.componentId⟩
    msgId := 31
    bytes := Layout.attitudeQuaternion.encode (fun _ => 0)
      ((attitude.stampMs, attitude.quaternionAngle, attitude.angularVelocity), 0, 0, 0, 0)
    minLength := 32
    crcExtra := 246 }

/-- All of the array is copied, beyond the zero that ends the text as well. -/
def sendTextStatus (behind : Nat → UInt8) (textStatus : TextStatus) : PackCall where
  source := plugin.own
  msgId := 205
  bytes := textStatus.type.severity :: fixedWidth 254 textStatus.text behind
  minLength := 255
  crcExtra := 12

end TelemetryRoboticVehicleImpl

/-- The callbacks that `init` registers. -/
inductive TelemetryImpl.Handler where
  | processLocalPositionNed
  | processAttitudeQuaternion
  | processTextStatus
deriving DecidableEq, Repr

structure TelemetryValues where
  positionVelocityNed : PositionVelocityNed := {}
  attitude : Attitude := {}
  textStatus : TextStatus := {}
deriving DecidableEq, Repr

structure TelemetryImpl (Callback : Type) extends TelemetryValues where
  positionVelocityNedSubscription : Option Callback := none
  attitudeSubscription : Option Callback := none
  textStatusSubscription : Option Callback := none

def TelemetryValues.put (values : TelemetryValues) : TelemetrySample → TelemetryValues
  | .positionVelocityNed sample => { values with positionVelocityNed := sample }
  | .attitude sample => { values with attitude := sample }
  | .textStatus sample => { values with textStatus := sample }

namespace TelemetryImpl
variable {Callback : Type}

def init (this : Cookie) (handler : MAVLinkMessageHandler Handler) :
    MAVLinkMessageHandler Handler :=
  [HandlerCall.register 32 .processLocalPositionNed this,
    .register 31 .processAttitudeQuaternion this,
    .register 205 .processTextStatus this].foldl HandlerCall.apply handler

def subscription (plugin : TelemetryImpl Callback) : TelemetrySample → Option Callback
  | .positionVelocityNed _ => plugin.positionVelocityNedSubscription
  | .attitude _ => plugin.attitudeSubscription
  | .textStatus _ => plugin.textStatusSubscription

def take (plugin : TelemetryImpl Callback) :
    Option TelemetrySample → TelemetryImpl Callback × List (Callback × TelemetrySample)
  | none => (plugin, [])
  | some sample =>
    ({ plugin with toTelemetryValues := plugin.toTelemetryValues.put sample },
      ((plugin.subscription sample).map (·, sample)).toList)

def processLocalPositionNed (call : PackCall) (plugin : TelemetryImpl Callback) :
    TelemetryImpl Callback × List (Callback × TelemetrySample) :=
  plugin.take ((Layout.localPositionNed.decode call.bytes).map fun (stamp, position, velocity) =>
    .positionVelocityNed
      ⟨call.source.systemId, call.source.componentId, stamp, position, velocity⟩)

def processAttitudeQuaternion (call : PackCall) (plugin : TelemetryImpl Callback) :
    TelemetryImpl Callback × List (Callback × TelemetrySample) :=
  plugin.take ((Layout.attitudeQuaternion.decode call.bytes).map
    fun ((stamp, angle, velocity), _) =>
      .attitude ⟨call.source.systemId, call.source.componentId, stamp, angle, velocity⟩)

def textStatusType : UInt8 → Option TextStatusType
  | 0 => some .error
  | 1 => some .warning
  | 2 => some .info
  | _ => none

/-- The array is first copied into a longer one that ends with a zero. -/
def processTextStatus (call : PackCall) (plugin : TelemetryImpl Callback) :
    TelemetryImpl Callback × List (Callback × TelemetrySample) :=
  plugin.take do
    let type ← textStatusType (← call.bytes.head?)
    let text ← cString ((call.bytes.drop 1).take 254 ++ [0])
    return .textStatus ⟨type, text⟩

def Handler.call (call : PackCall) (plugin : TelemetryImpl Callback) :
    Handler → TelemetryImpl Callback × List (Callback × TelemetrySample)
  | .processLocalPositionNed => plugin.processLocalPositionNed call
  | .processAttitudeQuaternion => plugin.processAttitudeQuaternion call
  | .processTextStatus => plugin.processTextStatus call

/-- The table calls its callbacks one after the other. -/
def processMessage (this : Cookie) (call : PackCall) (plugin : TelemetryImpl Callback) :
    TelemetryImpl Callback × List (Callback × TelemetrySample) :=
  ((init this {}).processMessage (BitVec.ofNat 24 call.msgId)).foldl
    (fun (plugin, reports) handler =>
      let (after, more) := handler.call call plugin
      (after, reports ++ more))
    (plugin, [])

end TelemetryImpl

/-- What users do and see: a sample that has been sent, a subscription that has been changed, a
callback that is handed over with a sample. -/
inductive TelemetryEvent (Callback : Type) where
  | sent (sample : TelemetrySample)
  | subscribed
  | called (callback : Callback) (sample : TelemetrySample)
deriving DecidableEq, Repr

/-- Other parts of a process send messages of their own, under its system id. -/
def PackCall.allowed (own : MAVLinkAddress) (call : PackCall) : Bool :=
  call.known && call.source.systemId = own.systemId &&
    call.msgId ∉ [32, 31, 205]

namespace TelemetryImpl
variable {Callback : Type}

inductive Act (Callback : Type) where
  | positionVelocityNedAsync (callback : Option Callback)
  | attitudeAsync (callback : Option Callback)
  | textStatusAsync (callback : Option Callback)
  | other (call : PackCall)

def party (own : MAVLinkAddress) (this : Cookie) :
    Party (TelemetryImpl Callback) (Act Callback) Unit PackCall (TelemetryEvent Callback) where
  act act plugin :=
    match act with
    | .positionVelocityNedAsync callback =>
      some ({ plugin with positionVelocityNedSubscription := callback }, [], [.subscribed])
    | .attitudeAsync callback =>
      some ({ plugin with attitudeSubscription := callback }, [], [.subscribed])
    | .textStatusAsync callback =>
      some ({ plugin with textStatusSubscription := callback }, [], [.subscribed])
    | .other call => if call.allowed own then some (plugin, [call], []) else none
  hear call _ plugin :=
    let (after, reports) := plugin.processMessage this call
    some (after, [], reports.map fun report => .called report.1 report.2)

end TelemetryImpl

namespace TelemetryRoboticVehicleImpl
variable {Callback : Type}

inductive Act where
  | sendLocalPositionNed (localPositionNed : PositionVelocityNed)
  | sendAttitude (attitude : Attitude)
  | sendTextStatus (behind : Nat → UInt8) (textStatus : TextStatus)
  | other (call : PackCall)

/-- The plugin registers no handler. -/
def party (Callback : Type) :
    Party TelemetryRoboticVehicleImpl Act Unit PackCall (TelemetryEvent Callback) where
  act act plugin :=
    match act with
    | .sendLocalPositionNed sample =>
      match plugin.sendLocalPositionNed sample with
      | some call => some (plugin, [call], [.sent (.positionVelocityNed sample)])
      | none => some (plugin, [], [])
    | .sendAttitude sample =>
      match plugin.sendAttitude sample with
      | some call => some (plugin, [call], [.sent (.attitude sample)])
      | none => some (plugin, [], [])
    | .sendTextStatus behind sample =>
      some (plugin, [plugin.sendTextStatus behind sample], [.sent (.textStatus sample)])
    | .other call => if call.allowed plugin.own then some (plugin, [call], []) else none
  hear _ _ plugin := some (plugin, [], [])

end TelemetryRoboticVehicleImpl
end PilotingMavsdk
