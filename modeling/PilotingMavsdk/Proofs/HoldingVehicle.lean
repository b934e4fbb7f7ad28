import PilotingMavsdk.Proofs.FaultFreeDownload

/-! The vehicle's side of a download without faults: a plugin that holds the list makes the upload
when the REQUEST arrives, and the upload then serves it. -/

namespace PilotingMavsdk
open Library

namespace DownloadPlan
section
variable {Header Item Ack Told : Type} (plan : DownloadPlan Header Item Ack Told)

/-- The upload at each stage, whichever plugin it belongs to. -/
def uploadAt : DownloadStage → Option (Life (UploadWorkItem Header Item Ack)) → Prop
  | .created | .requested => fun life => life = none
  | .accepted => WorkItemClass.Holds
    (· = RoboticVehicle.UploadWorkItem.create plan.protocol plan.vehicle plan.list true)
  | .counted =>
    WorkItemClass.Holds (UploadWorkItem.Serving plan.protocol plan.vehicle plan.list 0)
  | .reading place =>
    WorkItemClass.Holds (UploadWorkItem.Serving plan.protocol plan.vehicle plan.list place)
  | .sending place =>
    WorkItemClass.Holds (UploadWorkItem.Serving plan.protocol plan.vehicle plan.list (place + 1))
  | .acknowledged => WorkItemClass.Holds
    (UploadWorkItem.Serving plan.protocol plan.vehicle plan.list plan.list.items.length)
  | .finished => (RoboticVehicle.UploadWorkItem.workItemClass plan.protocol).Ended

variable {plan} {life after : Option (Life (UploadWorkItem Header Item Ack))}
  {effects : List (Effect (UploadWorkItem.Report Ack))} {stage : DownloadStage}
  {turn : Turn DownloadStage Message Told}

theorem numbered : Numbered plan.protocol plan.list := numbered_of_indexed plan.indexed

private theorem upload_act (here : plan.uploadAt stage life) {act : ItemAct}
    (advanced : (RoboticVehicle.UploadWorkItem.workItemClass plan.protocol).Advanced act.event life
      after effects) :
    (∃ turn, plan.script.turn stage = some turn ∧ turn.side = .second ∧ turn.heard = none ∧
      plan.uploadAt turn.next after ∧ effects.filterMap Effect.sent = turn.said.toList ∧
      effects.filterMap Effect.reported = [] ∧ turn.told = []) ∨
    (plan.uploadAt stage after ∧ effects.filterMap Effect.sent = [] ∧
      effects.filterMap Effect.reported = [] ∧
      WorkItemClass.weight after < WorkItemClass.weight life) := by
  cases stage with
  | created | requested => exact absurd here advanced.present
  | accepted =>
    obtain ⟨held, sent, heard⟩ := advanced.does_start here rfl
      fun cookie => RoboticVehicle.UploadWorkItem.does_start rfl plan.inhabited
        ((plan.protocol.sequenceValid_iff _).mpr plan.indexed)
    left
    exact ⟨_, rfl, rfl, rfl, held, sent, heard, rfl⟩
  | counted | reading place | sending place | acknowledged =>
    exact absurd advanced (WorkItemClass.Advanced.not_running here
      fun item serving => ⟨serving.started, serving.running⟩)
  | finished =>
    obtain ⟨rfl, sent, heard, lighter⟩ := advanced.of_ended here
    right
    exact ⟨by simp [uploadAt, WorkItemClass.Ended], sent, heard, lighter⟩

private theorem upload_can_act (here : plan.uploadAt stage life) (going : plan.Going stage turn)
    (mine : turn.side = .second) (own : turn.heard = none) :
    ∃ act : ItemAct, ((RoboticVehicle.UploadWorkItem.workItemClass plan.protocol).advance act.event
      life).isSome = true := by
  cases going with
  | accepted =>
    obtain ⟨cookie, possible⟩ : ∃ cookie,
        ((RoboticVehicle.UploadWorkItem.workItemClass plan.protocol).advance
          (ItemAct.start cookie).event life).isSome = true := WorkItemClass.can_start here rfl
    exact ⟨.start cookie, possible⟩
  | created => cases mine
  | requested | counted | reading | last | sending | acknowledged => cases own

private theorem upload_wait (here : plan.uploadAt stage life) (going : plan.Going stage turn)
    (other : turn.side ≠ .second) : plan.uploadAt turn.next life := by
  cases going with
  | created | counted | sending => exact here
  | last present last =>
    simp only [uploadAt] at here ⊢
    rw [← last]
    exact here
  | requested | accepted | reading | acknowledged => exact absurd rfl other

private theorem upload_can_hear (here : plan.uploadAt stage life) (going : plan.Going stage turn)
    {message : Message} (mine : turn.side = .second) (hearing : turn.heard = some message) :
    ∃ cookie, ((RoboticVehicle.UploadWorkItem.workItemClass plan.protocol).deliver message
      ⟨true, cookie⟩ life).isSome = true := by
  cases going with
  | created | counted | last | sending => cases mine
  | accepted => cases hearing
  | requested =>
    subst here
    exact ⟨0, rfl⟩
  | reading | acknowledged => exact WorkItemClass.can_deliver message here

private theorem upload_hear (here : plan.uploadAt stage life) (going : plan.Going stage turn)
    {message : Message} {cookie : Cookie} (mine : turn.side = .second)
    (hearing : turn.heard = some message)
    (delivered : (RoboticVehicle.UploadWorkItem.workItemClass plan.protocol).Delivered message
      ⟨true, cookie⟩ life after effects) :
    (turn = ⟨.second, some plan.request, none, [], .accepted⟩ ∧ after = none ∧ effects = []) ∨
    (∃ content, message.payload = plan.protocol.payload content ∧ content ≠ .request ∧
      content.kind ≠ .count ∧ plan.uploadAt turn.next after ∧
      effects.filterMap Effect.sent = turn.said.toList ∧
      ((turn.told = [] ∧ effects.filterMap Effect.reported = []) ∨
        (turn.told = [plan.vehicleTold] ∧ effects.filterMap Effect.reported =
          [(.success, plan.protocol.toAck plan.protocol.accepted)]))) := by
  cases going with
  | created | counted | last | sending => cases mine
  | accepted => cases hearing
  | requested =>
    subst here
    cases delivered
    exact .inl ⟨rfl, rfl, rfl⟩
  | @reading place found present =>
    cases hearing
    have bound := inside present
    have fits := plan.fits
    obtain ⟨held, sent, heard⟩ := delivered.does here fun item serving =>
      UploadWorkItem.does_read rfl serving present numbered (by omega) rfl
    exact .inr ⟨_, rfl, by simp, by simp [ListMessage.kind], held, sent, .inl ⟨rfl, heard⟩⟩
  | acknowledged =>
    cases hearing
    obtain ⟨held, sent, heard⟩ := delivered.does here fun item serving =>
      UploadWorkItem.does_ack serving rfl
    exact .inr ⟨_, rfl, by simp, by simp [ListMessage.kind], WorkItemClass.Ended.of_holds held,
      sent, .inr ⟨rfl, heard⟩⟩

end
end DownloadPlan

namespace ListRoboticVehicleImpl
variable {Item : Type} {protocol : ListProtocol Unit Item ListAck}
  {plugin : ListRoboticVehicleImpl Item} {message : Message}

theorem processMessage_request (registered : protocol.id .request ∈ plugin.handlers)
    (callback : plugin.uploadCallback = true) (idle : plugin.lastUpload = false)
    (transfer : plugin.transfer = true) (payload : message.payload = protocol.payload .request) :
    plugin.processMessage protocol message =
      ({ plugin with lastUpload := true }, [.uploadItems plugin.items]) := by
  have requested : message.payload.msgId ∈ plugin.handlers := by
    rw [payload, protocol.id_payload]
    exact registered
  have decoded : protocol.decode message.payload = some .request := by
    rw [payload, protocol.decode_payload]
  simp [processMessage, requested, decoded, upload, callback, idle, transfer]

theorem processMessage_other {content : ListMessage Unit Item}
    (payload : message.payload = protocol.payload content) (other : content ≠ .request) :
    plugin.processMessage protocol message = (plugin, []) := by
  unfold processMessage
  rw [payload, protocol.decode_payload]
  split
  · split
    next requested =>
      cases requested
      exact absurd rfl other
    · rfl
  · rfl

end ListRoboticVehicleImpl

namespace ListVehicle
variable {Item Remote : Type} {protocol : ListProtocol Unit Item ListAck}
  {vehicle after : ListVehicle Item} {sent : List Message} {reports : List (Remote ⊕ UserReport)}

theorem party_act {act : ItemAct}
    (acted : (party protocol Remote).act act vehicle = some (after, sent, reports)) :
    ∃ upload effects, (RoboticVehicle.UploadWorkItem.workItemClass protocol).Advanced act.event
        vehicle.upload upload effects ∧
      after = { vehicle with
        plugin := { vehicle.plugin with lastUpload := upload.isSome }
        upload := upload } ∧
      sent = effects.filterMap Effect.sent ∧
      reports = ((effects.filterMap Effect.reported).filterMap vehicle.uploadReport).map .inr := by
  simp only [party] at acted
  split at acted
  next upload effects stepped =>
    cases acted
    exact ⟨upload, effects, WorkItemClass.advanced stepped, rfl, rfl, rfl⟩
  · cases acted

theorem party_hear {message : Message} {cookie : Cookie}
    (heard : (party protocol Remote).hear message cookie vehicle = some (after, sent, reports)) :
    ∃ upload effects, (RoboticVehicle.UploadWorkItem.workItemClass protocol).Delivered message
        ⟨true, cookie⟩ vehicle.upload upload effects ∧
      after = (vehicle.plugin.processMessage protocol message).2.foldl (accept protocol)
        { vehicle with
          plugin := (vehicle.plugin.processMessage protocol message).1
          upload := upload } ∧
      sent = effects.filterMap Effect.sent ∧
      reports = ((effects.filterMap Effect.reported).filterMap vehicle.uploadReport ++
        (vehicle.plugin.processMessage protocol message).2.filterMap pluginReport).map .inr := by
  simp only [party] at heard
  split at heard
  next upload effects stepped =>
    cases heard
    exact ⟨upload, effects, WorkItemClass.delivered stepped, rfl, rfl, rfl⟩
  · cases heard

private theorem filterMap_uploadReport (callback : vehicle.plugin.uploadCallback = true)
    (heard : List (UploadWorkItem.Report ListAck)) :
    heard.filterMap vehicle.uploadReport = heard.map convertToResultAndAck := by
  have always : vehicle.uploadReport = fun report => some (convertToResultAndAck report) := by
    funext report
    simp [uploadReport, callback]
  rw [always]
  exact congrFun List.filterMap_eq_map heard

/-- The plugin is ready for the REQUEST as long as there is no upload. -/
structure At (plan : DownloadPlan Unit Item ListAck (Remote ⊕ UserReport)) (stage : DownloadStage)
    (vehicle : ListVehicle Item) : Prop where
  sender : vehicle.sender = plan.vehicle
  registered : plan.protocol.id .request ∈ vehicle.plugin.handlers
  callback : vehicle.plugin.uploadCallback = true
  transfer : vehicle.plugin.transfer = true
  items : vehicle.plugin.items = plan.list.items
  last : vehicle.plugin.lastUpload = vehicle.upload.isSome
  upload : plan.uploadAt stage vehicle.upload

theorem keeps {plan : DownloadPlan Unit Item ListAck (Remote ⊕ UserReport)}
    (ending : plan.vehicleTold =
      .inr (convertToResultAndAck (.success, plan.protocol.toAck plan.protocol.accepted))) :
    (party plan.protocol Remote).Keeps .second plan.script (At plan)
      (fun vehicle => WorkItemClass.weight vehicle.upload) where
  act {stage vehicle act after sent reports} here acted := by
    obtain ⟨upload, effects, advanced, rfl, rfl, rfl⟩ := party_act acted
    rw [filterMap_uploadReport here.callback]
    rcases DownloadPlan.upload_act here.upload advanced with
      ⟨turn, going, mine, own, arrived, said, heard, told⟩ | ⟨stays, said, heard, lighter⟩
    · left
      refine ⟨turn, going, mine, own, ?_, said, by simp [heard, told]⟩
      exact ⟨here.sender, here.registered, here.callback, here.transfer, here.items, rfl, arrived⟩
    · right
      refine ⟨?_, said, by simp [heard], lighter⟩
      exact ⟨here.sender, here.registered, here.callback, here.transfer, here.items, rfl, stays⟩
  hear {stage vehicle turn message choice after sent reports} here turned mine hearing heard := by
    obtain ⟨upload, effects, delivered, rfl, rfl, rfl⟩ := party_hear heard
    rw [filterMap_uploadReport here.callback]
    rcases DownloadPlan.upload_hear here.upload (DownloadPlan.going turned) mine hearing
      delivered with ⟨rfl, rfl, rfl⟩ | ⟨content, payload, request, _, arrived, said, told⟩
    · cases hearing
      have idle : vehicle.plugin.lastUpload = false := by
        rw [here.last, ← delivered.isSome]
        rfl
      rw [ListRoboticVehicleImpl.processMessage_request here.registered here.callback idle
        here.transfer rfl]
      refine ⟨?_, rfl, rfl⟩
      refine ⟨here.sender, here.registered, here.callback, here.transfer, here.items, rfl, ?_⟩
      refine ⟨_, rfl, rfl, ?_⟩
      simp only [here.sender, here.items]
    · rw [ListRoboticVehicleImpl.processMessage_other payload request]
      refine ⟨?_, said, ?_⟩
      · refine ⟨here.sender, here.registered, here.callback, here.transfer, here.items, ?_, arrived⟩
        exact here.last.trans delivered.isSome.symm
      · rcases told with ⟨nothing, heard⟩ | ⟨final, heard⟩
        · simp [nothing, heard]
        · simp [final, heard, ending]
  wait {stage vehicle turn} here turned other :=
    ⟨here.sender, here.registered, here.callback, here.transfer, here.items, here.last,
      DownloadPlan.upload_wait here.upload (DownloadPlan.going turned) other⟩
  can_act {stage vehicle turn} here turned mine own := by
    obtain ⟨act, possible⟩ :=
      DownloadPlan.upload_can_act here.upload (DownloadPlan.going turned) mine own
    obtain ⟨result, stepped⟩ := Option.isSome_iff_exists.mp possible
    exact ⟨act, by simp [party, stepped]⟩
  can_hear {stage vehicle turn message} here turned mine hearing := by
    obtain ⟨cookie, possible⟩ :=
      DownloadPlan.upload_can_hear here.upload (DownloadPlan.going turned) mine hearing
    obtain ⟨result, stepped⟩ := Option.isSome_iff_exists.mp possible
    exact ⟨cookie, by simp [party, stepped]⟩
  light vehicle := WorkItemClass.weight_le vehicle.upload

end ListVehicle
namespace InspectionRoboticVehicleImpl
variable {plugin : InspectionRoboticVehicleImpl} {message : Message}

theorem processMessage_request (registered : inspection.id .request ∈ plugin.handlers)
    (callback : plugin.uploadCallback = true) (idle : plugin.lastUpload = false)
    (transfer : plugin.transfer = true)
    (payload : message.payload = inspection.payload .request) :
    plugin.processMessage message =
      ({ plugin with lastUpload := true }, [.uploadItems (toIntList plugin.list)]) := by
  have requested : message.payload.msgId ∈ plugin.handlers := by
    rw [payload]
    exact registered
  have same : message.payload = .waypointList .request := payload
  simp only [processMessage, requested, if_true]
  simp [same, uploadInspection, callback, idle, transfer, toIntList]

theorem processMessage_count (registered : inspection.id .count ∈ plugin.handlers)
    (callback : plugin.downloadCallback = true) (idle : plugin.lastDownload = false)
    (transfer : plugin.transfer = true) {planId : PlanId} {count : UInt16}
    (payload : message.payload = inspection.payload (.count planId count)) :
    plugin.processMessage message =
      ({ plugin with lastDownload := true }, [.downloadItems count planId]) := by
  have requested : message.payload.msgId ∈ plugin.handlers := by
    rw [payload]
    exact registered
  have same : message.payload = .waypointList (.count planId count) := payload
  simp only [processMessage, requested, if_true]
  simp [same, downloadInspection, callback, idle, transfer]

theorem processMessage_other {content : ListMessage PlanId WaypointItem}
    (payload : message.payload = inspection.payload content) (request : content ≠ .request)
    (count : content.kind ≠ .count) : plugin.processMessage message = (plugin, []) := by
  have same : message.payload = .waypointList content := payload
  unfold processMessage
  split
  · rw [same]
    cases content with
    | request => exact absurd rfl request
    | count => exact absurd rfl count
    | read | item | ack => rfl
  · rfl

end InspectionRoboticVehicleImpl

namespace InspectionVehicle
variable {vehicle : Vehicle}

private theorem told_uploadOutput (callback : vehicle.plugin.uploadCallback = true)
    (effects : List (Effect (UploadWorkItem.Report InspectionAck))) :
    (effects.filterMap vehicle.uploadOutput).filterMap told =
      (effects.filterMap Effect.reported).map fun report =>
        .uploadCallback (InspectionRoboticVehicleImpl.convertResult report.1) report.2 := by
  rw [List.filterMap_filterMap, List.map_filterMap]
  apply List.filterMap_congr
  intro effect _
  cases effect with
  | sendMessage message sent => cases sent <;> rfl
  | callback report => simp [Vehicle.uploadOutput, callback, told, Effect.reported]
  | addTimeout | refreshTimeout | removeTimeout => rfl

private theorem received_uploadOutput
    (effects : List (Effect (UploadWorkItem.Report InspectionAck))) :
    (effects.filterMap vehicle.uploadOutput).countP received = 0 := by
  rw [List.countP_eq_zero]
  intro output member
  obtain ⟨effect, _, same⟩ := List.mem_filterMap.mp member
  cases effect with
  | sendMessage message sent =>
    cases sent <;> cases same
    simp [received]
  | callback report =>
    simp only [Vehicle.uploadOutput] at same
    split at same
    · cases same
      simp [received]
    · cases same
  | addTimeout | refreshTimeout | removeTimeout => cases same

theorem told_downloadOutput (callback : vehicle.plugin.downloadCallback = true)
    (effects : List (Effect RoboticVehicle.DownloadWorkItem.Report)) :
    (effects.filterMap vehicle.downloadOutput).filterMap told =
      (effects.filterMap Effect.reported).map fun report =>
        let converted :=
          InspectionRoboticVehicleImpl.downloadReport vehicle.planId report.1 report.2
        .downloadCallback converted.1 converted.2 := by
  rw [List.filterMap_filterMap, List.map_filterMap]
  apply List.filterMap_congr
  intro effect _
  cases effect with
  | sendMessage message sent => cases sent <;> rfl
  | callback report => simp [Vehicle.downloadOutput, callback, told, Effect.reported]
  | addTimeout | refreshTimeout | removeTimeout => rfl

theorem received_told (outputs : List Vehicle.Output) :
    (outputs.filterMap told).countP received = outputs.countP received := by
  rw [List.countP_filterMap]
  apply List.countP_congr
  intro output _
  cases output with
  | sendMessage | uploadCallback | downloadCallback | setCurrentCallback => simp [told, received]

inductive Acted (system : InspectionVehicle) :
    Act → InspectionVehicle → List Message → List Vehicle.Output → Prop where
  | upload {act : ItemAct}
      {upload : Option (Life (UploadWorkItem PlanId WaypointItem InspectionAck))}
      {effects : List (Effect (UploadWorkItem.Report InspectionAck))}
      (advanced : (RoboticVehicle.UploadWorkItem.workItemClass inspection).Advanced act.event
        system.vehicle.upload upload effects) :
      Acted system (.upload act)
        ⟨{ system.vehicle with
            plugin := { system.vehicle.plugin with lastUpload := upload.isSome }
            upload := upload }, system.unanswered⟩
        (effects.filterMap Effect.sent)
        ((effects.filterMap system.vehicle.uploadOutput).filterMap told)
  | download {act : ItemAct} {download : Option (Life RoboticVehicle.DownloadWorkItem)}
      {effects : List (Effect RoboticVehicle.DownloadWorkItem.Report)}
      (advanced : RoboticVehicle.DownloadWorkItem.workItemClass.Advanced act.event
        system.vehicle.download download effects) :
      Acted system (.download act)
        ⟨{ system.vehicle with
            plugin := { system.vehicle.plugin with lastDownload := download.isSome }
            download := download },
          system.unanswered + (effects.filterMap system.vehicle.downloadOutput).countP received⟩
        (effects.filterMap Effect.sent)
        ((effects.filterMap system.vehicle.downloadOutput).filterMap told)
  | answer {unanswered : Nat} (waiting : system.unanswered = unanswered + 1) :
      Acted system .answer ⟨system.vehicle, unanswered⟩
        [system.vehicle.sender.pack (inspection.payload (.ack inspection.accepted))] []

variable {Remote : Type} {system next : InspectionVehicle} {sent : List Message}
  {reports : List (Remote ⊕ Vehicle.Output)}

theorem party_act {act : Act}
    (acted : (party Remote).act act system = some (next, sent, reports)) :
    ∃ outputs, system.Acted act next sent outputs ∧ reports = outputs.map .inr := by
  simp only [party, Option.map_eq_some_iff] at acted
  obtain ⟨⟨after, messages, outputs⟩, stepped, same⟩ := acted
  cases same
  refine ⟨outputs, ?_, rfl⟩
  cases act with
  | upload act =>
    simp only [Option.map_eq_some_iff] at stepped
    obtain ⟨⟨vehicle, all⟩, legal, same⟩ := stepped
    cases same
    cases Vehicle.stepped legal with
    | upload advanced =>
      rw [Vehicle.sent_uploadOutput, received_uploadOutput]
      exact .upload advanced
  | download act =>
    simp only [Option.map_eq_some_iff] at stepped
    obtain ⟨⟨vehicle, all⟩, legal, same⟩ := stepped
    cases same
    cases Vehicle.stepped legal with
    | download advanced =>
      rw [Vehicle.sent_downloadOutput]
      exact .download advanced
  | answer =>
    simp only at stepped
    split at stepped
    · cases stepped
    next unanswered waiting =>
      cases stepped
      exact .answer waiting

theorem party_hear {message : Message} {cookie : Cookie}
    (heard : (party Remote).hear message cookie system = some (next, sent, reports)) :
    ∃ upload download first second,
      (RoboticVehicle.UploadWorkItem.workItemClass inspection).Delivered message ⟨true, cookie⟩
        system.vehicle.upload upload first ∧
      RoboticVehicle.DownloadWorkItem.workItemClass.Delivered message ⟨true, cookie⟩
        system.vehicle.download download second ∧
      next = ⟨(system.vehicle.plugin.processMessage message).2.foldl Vehicle.accept
          { system.vehicle with
            plugin := (system.vehicle.plugin.processMessage message).1
            upload := upload
            download := download },
        system.unanswered + (second.filterMap system.vehicle.downloadOutput ++
          (system.vehicle.plugin.processMessage message).2.filterMap
            Vehicle.pluginOutput).countP received⟩ ∧
      sent = first.filterMap Effect.sent ++ second.filterMap Effect.sent ∧
      reports = ((first.filterMap system.vehicle.uploadOutput ++
        second.filterMap system.vehicle.downloadOutput ++
        (system.vehicle.plugin.processMessage message).2.filterMap
          Vehicle.pluginOutput).filterMap told).map .inr := by
  simp only [party, Option.map_eq_some_iff] at heard
  obtain ⟨_, ⟨⟨vehicle, all⟩, legal, rfl⟩, same⟩ := heard
  cases same
  cases Vehicle.stepped legal with
  | @receive _ _ upload download first second uploading downloading =>
    refine ⟨upload, download, first, second, uploading, downloading, ?_, ?_, rfl⟩
    · simp only [after, List.append_assoc, List.countP_append, received_uploadOutput, Nat.zero_add]
    · simp only [after, List.filterMap_append, Vehicle.sent_uploadOutput,
        Vehicle.sent_downloadOutput, Vehicle.sent_pluginOutput, List.append_nil]

/-- Nothing arrives that would begin a download, and there is nothing for the user to answer. -/
structure At (plan : DownloadPlan PlanId WaypointItem InspectionAck (Remote ⊕ Vehicle.Output))
    (stage : DownloadStage) (system : InspectionVehicle) : Prop where
  sender : system.vehicle.sender = plan.vehicle
  registered : inspection.id .request ∈ system.vehicle.plugin.handlers
  callback : system.vehicle.plugin.uploadCallback = true
  transfer : system.vehicle.plugin.transfer = true
  list : toIntList system.vehicle.plugin.list = plan.list
  last : system.vehicle.plugin.lastUpload = system.vehicle.upload.isSome
  upload : plan.uploadAt stage system.vehicle.upload
  download : system.vehicle.download = none
  unanswered : system.unanswered = 0

theorem keeps {plan : DownloadPlan PlanId WaypointItem InspectionAck (Remote ⊕ Vehicle.Output)}
    (speaking : plan.protocol = inspection)
    (ending : plan.vehicleTold = .inr (.uploadCallback .success .accepted)) :
    (party Remote).Keeps .second plan.script (At plan)
      (fun system => WorkItemClass.weight system.vehicle.upload) where
  act {stage system act after sent reports} here acted := by
    obtain ⟨outputs, moved, rfl⟩ := party_act acted
    cases moved with
    | upload advanced =>
      rw [told_uploadOutput here.callback]
      rw [← speaking] at advanced
      rcases DownloadPlan.upload_act here.upload advanced with
        ⟨turn, going, mine, own, arrived, said, heard, told⟩ | ⟨stays, said, heard, lighter⟩
      · left
        refine ⟨turn, going, mine, own, ?_, said, by simp [heard, told]⟩
        exact ⟨here.sender, here.registered, here.callback, here.transfer, here.list, rfl,
          arrived, here.download, here.unanswered⟩
      · right
        refine ⟨?_, said, by simp [heard], lighter⟩
        exact ⟨here.sender, here.registered, here.callback, here.transfer, here.list, rfl, stays,
          here.download, here.unanswered⟩
    | download advanced => exact absurd here.download advanced.present
    | answer waiting =>
      rw [here.unanswered] at waiting
      cases waiting
  hear {stage system turn message choice after sent reports} here turned mine hearing heard := by
    obtain ⟨upload, download, first, second, uploading, downloading, rfl, rfl, rfl⟩ :=
      party_hear heard
    obtain ⟨rfl, rfl⟩ := downloading.nothing here.download
    rw [← speaking] at uploading
    rcases DownloadPlan.upload_hear here.upload (DownloadPlan.going turned) mine hearing
      uploading with ⟨rfl, rfl, rfl⟩ | ⟨content, payload, request, count, arrived, said, told⟩
    · cases hearing
      have idle : system.vehicle.plugin.lastUpload = false := by
        rw [here.last, ← uploading.isSome]
        rfl
      have requested : plan.request.payload = inspection.payload .request := by
        rw [← speaking]
        rfl
      rw [InspectionRoboticVehicleImpl.processMessage_request here.registered here.callback idle
        here.transfer requested]
      refine ⟨?_, rfl, rfl⟩
      refine ⟨here.sender, here.registered, here.callback, here.transfer, here.list, rfl, ?_, rfl,
        here.unanswered⟩
      refine ⟨_, rfl, rfl, ?_⟩
      simp only [here.sender, here.list, speaking]
    · rw [speaking] at payload
      rw [InspectionRoboticVehicleImpl.processMessage_other payload request count]
      refine ⟨?_, by simpa using said, ?_⟩
      · exact ⟨here.sender, here.registered, here.callback, here.transfer, here.list,
          here.last.trans uploading.isSome.symm, arrived, rfl, here.unanswered⟩
      · simp only [List.filterMap_nil, List.append_nil, told_uploadOutput here.callback]
        rcases told with ⟨nothing, heard⟩ | ⟨final, heard⟩
        · simp [nothing, heard]
        · simp [final, heard, ending, speaking, inspection, InspectionAck.ofType,
            InspectionRoboticVehicleImpl.convertResult]
  wait {stage system turn} here turned other :=
    ⟨here.sender, here.registered, here.callback, here.transfer, here.list, here.last,
      DownloadPlan.upload_wait here.upload (DownloadPlan.going turned) other, here.download,
      here.unanswered⟩
  can_act {stage system turn} here turned mine own := by
    obtain ⟨act, possible⟩ :=
      DownloadPlan.upload_can_act here.upload (DownloadPlan.going turned) mine own
    obtain ⟨result, stepped⟩ := Option.isSome_iff_exists.mp possible
    rw [speaking] at stepped
    exact ⟨.upload act, by simp [party, Vehicle.step, stepped]⟩
  can_hear {stage system turn message} here turned mine hearing := by
    obtain ⟨cookie, possible⟩ :=
      DownloadPlan.upload_can_hear here.upload (DownloadPlan.going turned) mine hearing
    obtain ⟨result, stepped⟩ := Option.isSome_iff_exists.mp possible
    rw [speaking] at stepped
    exact ⟨cookie, by simp [party, Vehicle.step, stepped, here.download]⟩
  light system := WorkItemClass.weight_le system.vehicle.upload

end InspectionVehicle
end PilotingMavsdk
