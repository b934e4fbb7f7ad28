import PilotingMavsdk.Proofs.UdpPorts
import PilotingMavsdk.Proofs.PayloadRoundTrip
import PilotingMavsdk.Telemetry

/-! Telemetry from call to call: what a plugin of the vehicle sends, the plugin of the ground station
hears as the same sample, texts as far as their array goes. -/

namespace PilotingMavsdk
open Library TelemetryBase

namespace PackCall

private theorem known_iff {call : PackCall} : call.known = true ↔
    call.msgId < 2 ^ 24 ∧ call.minLength < 256 ∧ call.bytes.length < 256 ∧
      mavlinkGetMsgEntry (uint32Msgid (BitVec.ofNat 24 call.msgId)) = some
        ⟨UInt32.ofNat call.msgId, call.crcExtra, UInt8.ofNat call.minLength,
          UInt8.ofNat call.bytes.length⟩ := by
  simp [known, and_assoc]

private theorem known_mk {source : MAVLinkAddress} {msgId minLength width : Nat} {bytes : Bytes}
    {crcExtra : UInt8} (length : bytes.length = width)
    (constants : msgId < 2 ^ 24 ∧ minLength < 256 ∧ width < 256 ∧
      mavlinkGetMsgEntry (uint32Msgid (BitVec.ofNat 24 msgId)) = some
        ⟨UInt32.ofNat msgId, crcExtra, UInt8.ofNat minLength, UInt8.ofNat width⟩) :
    (PackCall.mk source msgId bytes minLength crcExtra).known = true := by
  rw [← length] at constants
  exact known_iff.mpr constants

theorem packs {call : PackCall} (known : call.known = true) :
    codec.Packs call.source.systemId call := by
  obtain ⟨msgId, minLength, length, entry⟩ := known_iff.mp known
  intro memory
  let sending : Sending := {
    message := memory.buffer.put call.msgId call.bytes
    systemId := call.source.systemId
    componentId := call.source.componentId
    status := memory.status
    minLength := UInt8.ofNat call.minLength
    length := UInt8.ofNat call.bytes.length
    crcExtra := call.crcExtra
    checked := by
      simp only [MavlinkMessage.put]
      rw [mavlinkGetCrcExtra, entry]
      rfl
    narrow := by
      intro first
      rw [memory.second] at first
      cases first }
  refine ⟨sending, rfl, rfl, ?_⟩
  intro received behind same
  have sysid : received.sysid = call.source.systemId := congrArg MavlinkFrame.sysid same
  have compid : received.compid = call.source.componentId := congrArg MavlinkFrame.compid same
  have msgid : received.msgid = BitVec.ofNat 24 call.msgId := congrArg MavlinkFrame.msgid same
  have number : (BitVec.ofNat 24 call.msgId).toNat = call.msgId := by
    rw [BitVec.toNat_ofNat]
    exact Nat.mod_eq_of_lt msgId
  have payload : received.payload.toList.take received.len.toNat = trimPayload call.bytes :=
    (congrArg MavlinkFrame.payload same).trans
      (Sending.payload_put rfl rfl length memory.second)
  have width : (UInt8.ofNat call.bytes.length).toNat = call.bytes.length :=
    Nat.mod_eq_of_lt length
  have least : (UInt8.ofNat call.minLength).toNat = call.minLength := Nat.mod_eq_of_lt minLength
  simp only [codec, PackCall.received]
  rw [msgid, entry, Option.map_some, payload, sysid, compid, number]
  simp only
  rw [width, least, decode_trimPayload]

end PackCall

namespace TelemetryImpl
variable {Callback : Type}

private theorem handlers_eq (this : Cookie) {msgId : Nat} (small : msgId < 2 ^ 24) :
    (init this {}).processMessage (BitVec.ofNat 24 msgId) =
      if msgId = 32 then [.processLocalPositionNed]
      else if msgId = 31 then [.processAttitudeQuaternion]
      else if msgId = 205 then [.processTextStatus]
      else [] := by
  have number : (BitVec.ofNat 24 msgId).toNat = msgId := by
    rw [BitVec.toNat_ofNat]
    exact Nat.mod_eq_of_lt small
  have first : (HandlerCall.msgIdParameter 32).toNat = 32 := by decide
  have second : (HandlerCall.msgIdParameter 31).toNat = 31 := by decide
  have third : (HandlerCall.msgIdParameter 205).toNat = 205 := by decide
  simp only [init, List.foldl, HandlerCall.apply, MAVLinkMessageHandler.registerOne,
    MAVLinkMessageHandler.processMessage, number, List.nil_append, List.cons_append,
    List.filter_cons, List.filter_nil, first, second, third, decide_eq_true_eq]
  by_cases position : msgId = 32
  · simp [position]
  by_cases attitude : msgId = 31
  · simp [attitude]
  by_cases text : msgId = 205
  · simp [text]
  simp [position, attitude, text, Ne.symm position, Ne.symm attitude, Ne.symm text]

def heard (call : PackCall) : Option TelemetrySample :=
  if call.msgId = 32 then
    (Layout.localPositionNed.decode call.bytes).map fun (stamp, position, velocity) =>
      .positionVelocityNed
        ⟨call.source.systemId, call.source.componentId, stamp, position, velocity⟩
  else if call.msgId = 31 then
    (Layout.attitudeQuaternion.decode call.bytes).map fun ((stamp, angle, velocity), _) =>
      .attitude ⟨call.source.systemId, call.source.componentId, stamp, angle, velocity⟩
  else if call.msgId = 205 then do
    let type ← textStatusType (← call.bytes.head?)
    let text ← cString ((call.bytes.drop 1).take 254 ++ [0])
    return .textStatus ⟨type, text⟩
  else none

private theorem processMessage_eq (this : Cookie) {call : PackCall} (known : call.known = true)
    (plugin : TelemetryImpl Callback) :
    plugin.processMessage this call = plugin.take (heard call) := by
  rw [processMessage, handlers_eq this (PackCall.known_iff.mp known).1, heard]
  split
  next =>
    simp only [List.foldl, Handler.call, processLocalPositionNed, List.nil_append]
  next =>
    split
    next => simp only [List.foldl, Handler.call, processAttitudeQuaternion, List.nil_append]
    next =>
      split
      next => simp only [List.foldl, Handler.call, processTextStatus, List.nil_append]
      next => rfl

end TelemetryImpl

/-- The text ends at its first zero, or where the array ends. -/
def TelemetrySample.delivered : TelemetrySample → TelemetrySample
  | .textStatus sample =>
    .textStatus { sample with text := (sample.text.takeWhile (· ≠ 0)).take 254 }
  | other => other

namespace TelemetryRoboticVehicleImpl
variable {plugin : TelemetryRoboticVehicleImpl} {call : PackCall}

/-- The message goes out under the plugin's system id, and is heard as this sample. -/
structure Utters (plugin : TelemetryRoboticVehicleImpl) (call : PackCall)
    (sample : TelemetrySample) : Prop where
  known : call.known = true
  own : call.source.systemId = plugin.own.systemId
  heard : TelemetryImpl.heard call = some sample.delivered

private theorem utters_sendLocalPositionNed {sample : PositionVelocityNed}
    (sent : plugin.sendLocalPositionNed sample = some call) :
    plugin.Utters call (.positionVelocityNed sample) := by
  rw [sendLocalPositionNed] at sent
  split at sent
  · cases sent
  next mine =>
    cases sent
    have own : plugin.own.systemId = sample.systemId := not_not.mp mine
    refine ⟨PackCall.known_mk (Layout.length_encode _ _ _) (by decide +kernel), rfl, ?_⟩
    have decoded := @Layout.decode_encode _ Layout.localPositionNed (fun _ => 0)
      (sample.stampMs, sample.position, sample.velocity) []
      ⟨trivial, trivial, trivial, trivial, trivial, trivial, trivial⟩
    rw [List.append_nil] at decoded
    rw [TelemetryImpl.heard, if_pos rfl, decoded, Option.map_some, own]
    rfl

private theorem utters_sendAttitude {sample : Attitude}
    (sent : plugin.sendAttitude sample = some call) :
    plugin.Utters call (.attitude sample) := by
  rw [sendAttitude] at sent
  split at sent
  · cases sent
  next mine =>
    cases sent
    have own : plugin.own.systemId = sample.systemId := not_not.mp mine
    refine ⟨PackCall.known_mk (Layout.length_encode _ _ _) (by decide +kernel), rfl, ?_⟩
    have decoded := @Layout.decode_encode _ Layout.attitudeQuaternion (fun _ => 0)
      ((sample.stampMs, sample.quaternionAngle, sample.angularVelocity), 0, 0, 0, 0) []
      ⟨trivial, trivial, trivial, trivial, trivial, trivial, trivial, trivial, trivial, trivial,
        trivial, trivial⟩
    rw [List.append_nil] at decoded
    rw [TelemetryImpl.heard, if_neg (show (31 : Nat) ≠ 32 by decide), if_pos rfl, decoded,
      Option.map_some, own]
    rfl

private theorem textStatusType_severity (type : TextStatusType) :
    TelemetryImpl.textStatusType type.severity = some type := by
  cases type <;> rfl

private theorem utters_sendTextStatus (behind : Nat → UInt8) (sample : TextStatus) :
    plugin.Utters (plugin.sendTextStatus behind sample) (.textStatus sample) := by
  have length : (sample.type.severity :: fixedWidth 254 sample.text behind).length = 255 := by simp
  refine ⟨PackCall.known_mk length (by decide +kernel), rfl, ?_⟩
  have array : (fixedWidth 254 sample.text behind).take 254 = fixedWidth 254 sample.text behind :=
    List.take_of_length_le (by simp)
  simp only [TelemetryImpl.heard, sendTextStatus]
  rw [if_neg (by decide), if_neg (by decide), if_pos trivial]
  simp only [List.head?_cons, List.drop_succ_cons, List.drop_zero, array,
    cString_append_singleton, takeWhile_fixedWidth, Option.bind_eq_bind, Option.bind_some,
    textStatusType_severity]
  rfl

end TelemetryRoboticVehicleImpl

namespace TelemetryEvent
variable {Callback : Type}

@[simp] def sentSample : TelemetryEvent Callback → Option TelemetrySample
  | .sent sample => some sample
  | .subscribed | .called _ _ => none

@[simp] def calledSample : TelemetryEvent Callback → Option TelemetrySample
  | .called _ sample => some sample
  | .sent _ | .subscribed => none

end TelemetryEvent

/-- Messages of a process that is in the table with its system id. -/
structure PackCall.From (systemId : UInt8) (call : PackCall) : Prop where
  known : call.known = true
  own : call.source.systemId = systemId

private theorem PackCall.allowed_iff {own : MAVLinkAddress} {call : PackCall} :
    call.allowed own = true ↔ call.From own.systemId ∧ call.msgId ∉ [32, 31, 205] := by
  rw [PackCall.allowed, Bool.and_eq_true, Bool.and_eq_true, decide_eq_true_eq, decide_eq_true_eq]
  constructor
  · rintro ⟨⟨known, own⟩, other⟩
    exact ⟨⟨known, own⟩, other⟩
  · rintro ⟨⟨known, own⟩, other⟩
    exact ⟨⟨known, own⟩, other⟩

private theorem TelemetryImpl.heard_other {call : PackCall} (other : call.msgId ∉ [32, 31, 205]) :
    TelemetryImpl.heard call = none := by
  simp only [List.mem_cons, List.not_mem_nil, or_false, not_or] at other
  rw [TelemetryImpl.heard, if_neg other.1, if_neg other.2.1, if_neg other.2.2]

namespace TelemetryRoboticVehicleImpl
variable {Callback : Type} {plugin after : TelemetryRoboticVehicleImpl} {sent : List PackCall}
  {events : List (TelemetryEvent Callback)}

/-- In one go the vehicle says nothing, one sample, or something else. -/
inductive Acted (plugin : TelemetryRoboticVehicleImpl) :
    List PackCall → List (TelemetryEvent Callback) → Prop where
  | silent : Acted plugin [] []
  | sample {call : PackCall} {sample : TelemetrySample} (utters : plugin.Utters call sample) :
      Acted plugin [call] [.sent sample]
  | other {call : PackCall} (own : call.From plugin.own.systemId)
      (unheard : TelemetryImpl.heard call = none) : Acted plugin [call] []

theorem acted {act : Act}
    (step : (party Callback).act act plugin = some (after, sent, events)) :
    after = plugin ∧ plugin.Acted sent events := by
  simp only [party] at step
  cases act with
  | sendLocalPositionNed sample =>
    simp only at step
    split at step
    next told => cases step; exact ⟨rfl, .sample (utters_sendLocalPositionNed told)⟩
    · cases step; exact ⟨rfl, .silent⟩
  | sendAttitude sample =>
    simp only at step
    split at step
    next told => cases step; exact ⟨rfl, .sample (utters_sendAttitude told)⟩
    · cases step; exact ⟨rfl, .silent⟩
  | sendTextStatus behind sample =>
    cases step
    exact ⟨rfl, .sample (utters_sendTextStatus behind sample)⟩
  | other call =>
    simp only at step
    split at step
    next allowed =>
      cases step
      obtain ⟨own, others⟩ := PackCall.allowed_iff.mp allowed
      exact ⟨rfl, .other own (TelemetryImpl.heard_other others)⟩
    · cases step

end TelemetryRoboticVehicleImpl

namespace TelemetryImpl
variable {Callback : Type} {own : MAVLinkAddress} {this : Cookie}
  {plugin after : TelemetryImpl Callback} {sent : List PackCall}
  {events : List (TelemetryEvent Callback)}

/-- The subscriptions that the user has made, by kind. -/
def subscriptions (plugin : TelemetryImpl Callback) :
    Option Callback × Option Callback × Option Callback :=
  (plugin.positionVelocityNedSubscription, plugin.attitudeSubscription,
    plugin.textStatusSubscription)

inductive Acted (own : MAVLinkAddress) (plugin : TelemetryImpl Callback) :
    TelemetryImpl Callback → List PackCall → List (TelemetryEvent Callback) → Prop where
  | subscribed {after : TelemetryImpl Callback}
      (same : after.toTelemetryValues = plugin.toTelemetryValues) :
      Acted own plugin after [] [.subscribed]
  | other {call : PackCall} (mine : call.From own.systemId) : Acted own plugin plugin [call] []

theorem acted {act : Act Callback}
    (step : (party own this).act act plugin = some (after, sent, events)) :
    plugin.Acted own after sent events := by
  simp only [party] at step
  cases act with
  | positionVelocityNedAsync callback => cases step; exact .subscribed rfl
  | attitudeAsync callback => cases step; exact .subscribed rfl
  | textStatusAsync callback => cases step; exact .subscribed rfl
  | other call =>
    simp only at step
    split at step
    next allowed => cases step; exact .other (PackCall.allowed_iff.mp allowed).1
    · cases step

/-- A message is stored if it is a sample, and whoever has subscribed is called. -/
inductive Hears (call : PackCall) (plugin : TelemetryImpl Callback) :
    TelemetryImpl Callback → List (TelemetryEvent Callback) → Prop where
  | nothing (unheard : heard call = none) : Hears call plugin plugin []
  | sample {sample : TelemetrySample} (present : heard call = some sample) :
      Hears call plugin
        { plugin with toTelemetryValues := plugin.toTelemetryValues.put sample }
        ((plugin.subscription sample).map fun callback => .called callback sample).toList

theorem hears {call : PackCall} (known : call.known = true)
    (step : (party own this).hear call () plugin = some (after, sent, events)) :
    sent = [] ∧ plugin.Hears call after events := by
  simp only [party, processMessage_eq this known] at step
  cases step
  refine ⟨rfl, ?_⟩
  cases present : heard call with
  | none => exact .nothing present
  | some sample =>
    have called : (((plugin.subscription sample).map (·, sample)).toList.map
        fun report => TelemetryEvent.called report.1 report.2) =
        ((plugin.subscription sample).map fun callback =>
          TelemetryEvent.called callback sample).toList := by
      cases plugin.subscription sample <;> rfl
    rw [take, called]
    exact .sample present

theorem subscription_of_subscriptions {other : TelemetryImpl Callback}
    (same : plugin.subscriptions = other.subscriptions) (sample : TelemetrySample) :
    plugin.subscription sample = other.subscription sample := by
  simp only [subscriptions, Prod.mk.injEq] at same
  cases sample with
  | positionVelocityNed => exact same.1
  | attitude => exact same.2.1
  | textStatus => exact same.2.2

end TelemetryImpl

/-- What the getters return, as samples. -/
def TelemetryValues.samples (values : TelemetryValues) : List TelemetrySample :=
  [.positionVelocityNed values.positionVelocityNed, .attitude values.attitude,
    .textStatus values.textStatus]

theorem TelemetryValues.mem_samples_put {values : TelemetryValues} {sample kept : TelemetrySample}
    (member : kept ∈ (values.put sample).samples) : kept = sample ∨ kept ∈ values.samples := by
  cases sample <;> simp only [put, samples, List.mem_cons, List.not_mem_nil, or_false] at member ⊢ <;>
    tauto

namespace TelemetryImpl
variable {Callback : Type}

def Subscribed (plugin : TelemetryImpl Callback) : Prop :=
  ∀ sample, (plugin.subscription sample).isSome = true

end TelemetryImpl

end PilotingMavsdk
