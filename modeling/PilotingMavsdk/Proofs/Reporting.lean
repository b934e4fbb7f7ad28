import PilotingMavsdk.WorkItemClass

/-! What a call makes of an item and tells its user. Only `start()` starts an item, and whatever
ends it calls its callback and empties it in the same step; only the command item reports more
than once, and what it reports before its end is `InProgress`. -/

namespace PilotingMavsdk
open Library

/-- A done item has nobody left to report to. -/
def WorkItem.Finished (item : WorkItem) : Prop := item.done = true → item.callback = false

/-- Only `start()` starts an item, and whatever ends it empties its callback. -/
structure WorkItem.Proceeds (call : Call) (before after : WorkItem) : Prop where
  started : after.started = true ↔ call = .start ∨ before.started = true
  ended : after.done = before.done ∧ after.callback = before.callback ∨
    after.done = true ∧ after.callback = false

structure WorkItem.GoesOn (call : Call) (before after : WorkItem) : Prop where
  started : after.started = true ↔ call = .start ∨ before.started = true
  done : after.done = before.done
  callback : after.callback = before.callback

/-- A call either goes on, telling of progress at most, or ends the item and tells that. -/
inductive WorkItem.Reporting {Report : Type} (terminal : Report → Bool) (call : Call)
    (before after : WorkItem) : List Report → Prop where
  | going {reports : List Report} (goesOn : before.GoesOn call after)
      (progress : ∀ report ∈ reports, terminal report = false)
      (addressed : before.callback = false → reports = []) :
      Reporting terminal call before after reports
  | ending {report : Report} (final : terminal report = true)
      (started : after.started = true ↔ call = .start ∨ before.started = true)
      (done : after.done = true) (callback : after.callback = false) :
      Reporting terminal call before after (if before.callback then [report] else [])

namespace WorkItem
variable {call : Call} {before after : WorkItem}

theorem GoesOn.begun (started : after.started = true) (done : after.done = before.done)
    (callback : after.callback = before.callback) : GoesOn .start before after :=
  ⟨by simp [started], done, callback⟩

theorem GoesOn.running (running : call ≠ .start) (started : after.started = before.started)
    (done : after.done = before.done) (callback : after.callback = before.callback) :
    GoesOn call before after :=
  ⟨by simp [running, started], done, callback⟩

theorem Proceeds.finished (proceeds : Proceeds call before after) (finished : before.Finished) :
    after.Finished := by
  intro done
  rcases proceeds.ended with ⟨same, callback⟩ | ⟨_, empty⟩
  · rw [callback]
    rw [same] at done
    exact finished done
  · exact empty

theorem Proceeds.done (proceeds : Proceeds call before after) (done : before.done = true) :
    after.done = true := by
  rcases proceeds.ended with ⟨same, _⟩ | ⟨ended, _⟩
  · rw [same]; exact done
  · exact ended

variable {Report : Type} {terminal : Report → Bool} {reports : List Report}

theorem Reporting.proceeds (reporting : before.Reporting terminal call after reports) :
    before.Proceeds call after := by
  cases reporting with
  | going goesOn => exact ⟨goesOn.started, .inl ⟨goesOn.done, goesOn.callback⟩⟩
  | ending _ started done callback => exact ⟨started, .inr ⟨done, callback⟩⟩

theorem Reporting.silent (reporting : before.Reporting terminal call after reports)
    (empty : before.callback = false) : reports = [] := by
  cases reporting with
  | going _ _ addressed => exact addressed empty
  | ending => simp [empty]

end WorkItem

namespace Outcome
variable {Item Report : Type}

def heard (outcome : Outcome Item Report) : List Report :=
  outcome.effects.filterMap Effect.reported

@[simp] theorem heard_mk (item : Item) (effects : List (Effect Report)) :
    heard ⟨item, effects⟩ = effects.filterMap Effect.reported := rfl

@[simp] theorem heard_after (effects : List (Effect Report)) (outcome : Outcome Item Report) :
    (outcome.after effects).heard = effects.filterMap Effect.reported ++ outcome.heard := by
  simp [heard]

@[simp] private theorem heard_followedBy (effects : List (Effect Report))
    (outcome : Outcome Item Report) : (outcome.followedBy effects).heard =
      outcome.heard ++ effects.filterMap Effect.reported := by
  simp [heard]

theorem heard_sending (environment : Environment) (message : Message)
    (failed sent : Outcome Item Report) : (sending environment message failed sent).heard =
      if environment.sent then sent.heard else failed.heard := by
  rw [sending, heard_after]
  split <;> simp [Effect.reported]

variable {base : Item → WorkItem} {terminal : Report → Bool} {call : Call} {before : WorkItem}
  {outcome : Outcome Item Report}

def Reporting (base : Item → WorkItem) (terminal : Report → Bool) (call : Call)
    (before : WorkItem) (outcome : Outcome Item Report) : Prop :=
  before.Reporting terminal call (base outcome.item) outcome.heard

namespace Reporting

theorem after (reporting : outcome.Reporting base terminal call before)
    {effects : List (Effect Report)} (mute : effects.filterMap Effect.reported = []) :
    (outcome.after effects).Reporting base terminal call before := by
  unfold Reporting
  rw [heard_after, mute]
  exact reporting

theorem followedBy (reporting : outcome.Reporting base terminal call before)
    {effects : List (Effect Report)} (mute : effects.filterMap Effect.reported = []) :
    (outcome.followedBy effects).Reporting base terminal call before := by
  unfold Reporting
  rw [heard_followedBy, mute, List.append_nil]
  exact reporting

theorem sending {environment : Environment} {message : Message}
    {failed sent : Outcome Item Report} (lost : failed.Reporting base terminal call before)
    (delivered : sent.Reporting base terminal call before) :
    (Outcome.sending environment message failed sent).Reporting base terminal call before := by
  unfold Reporting
  rw [sending_item, heard_sending]
  split
  · exact delivered
  · exact lost

theorem mute {item : Item} {effects : List (Effect Report)}
    (goesOn : before.GoesOn call (base item))
    (mute : effects.filterMap Effect.reported = []) :
    Reporting base terminal call before ⟨item, effects⟩ := by
  apply WorkItem.Reporting.going goesOn
  · rw [heard_mk, mute]
    nofun
  · exact fun _ => mute

/-- What the `callback_and_reset` of all classes does. -/
theorem reset {item : WorkItem} (report : Report) (final : terminal report = true)
    (goesOn : before.GoesOn call item)
    (ended : base outcome.item = { item with callback := false, done := true })
    (heard : outcome.heard = if item.callback then [report] else []) :
    outcome.Reporting base terminal call before := by
  unfold Reporting
  rw [ended, heard, goesOn.callback]
  exact .ending final goesOn.started rfl rfl

theorem unreported (reporting : outcome.Reporting base terminal call before)
    (empty : before.callback = false) : ∀ report, .callback report ∉ outcome.effects := by
  intro report member
  have told : report ∈ outcome.heard := List.mem_filterMap.mpr ⟨_, member, rfl⟩
  rw [WorkItem.Reporting.silent reporting empty] at told
  cases told

end Reporting
end Outcome

section
variable {call : Call} {before : WorkItem}

namespace UploadWorkItem
variable {Header Item Ack : Type} (protocol : ListProtocol Header Item Ack)
  {item : UploadWorkItem Header Item Ack}

private theorem reporting_callbackAndReset (result : Result)
    (goesOn : before.GoesOn call item.toWorkItem) :
    (item.callbackAndReset result).Reporting toWorkItem Kind.everyReport call before := by
  refine .reset (result, item.ack) rfl goesOn rfl ?_
  cases callback : item.callback <;> simp [callbackAndReset, callback, Effect.reported]

private theorem reporting_connectionError (goesOn : before.GoesOn call item.toWorkItem) :
    item.connectionError.Reporting toWorkItem Kind.everyReport call before :=
  .after (reporting_callbackAndReset _ goesOn) rfl

private theorem reporting_sendCount (environment : Environment)
    (goesOn : before.GoesOn call item.toWorkItem) :
    (item.sendCount protocol environment).Reporting toWorkItem Kind.everyReport call before :=
  .sending (reporting_connectionError goesOn)
    (.mute ⟨goesOn.started, goesOn.done, goesOn.callback⟩ rfl)

private theorem reporting_sendItem (environment : Environment)
    (goesOn : before.GoesOn call item.toWorkItem) :
    (item.sendItem protocol environment).Reporting toWorkItem Kind.everyReport call before := by
  simp only [sendItem]
  split
  · exact .mute goesOn rfl
  · exact .sending (reporting_connectionError goesOn)
      (.mute ⟨goesOn.started, goesOn.done, goesOn.callback⟩ rfl)

private theorem reporting_cancel (environment : Environment)
    (item : UploadWorkItem Header Item Ack) :
    (item.cancel protocol environment).Reporting toWorkItem Kind.everyReport .cancel
      item.toWorkItem := by
  have goesOn : item.GoesOn .cancel item.toWorkItem := .running nofun rfl rfl rfl
  apply Outcome.Reporting.after _ rfl
  apply Outcome.Reporting.sending
  · exact reporting_callbackAndReset _ goesOn
  · exact reporting_callbackAndReset _ goesOn

private theorem reporting_processMessage (environment : Environment) (message : Message)
    (item : UploadWorkItem Header Item Ack) :
    (item.processMessage protocol environment message).Reporting toWorkItem Kind.everyReport
      (.processMessage message) item.toWorkItem := by
  simp only [processMessage]
  split
  · simp only [processRead]
    split
    · exact .mute (.running nofun rfl rfl rfl) rfl
    split
    · apply Outcome.Reporting.after _ rfl
      exact reporting_callbackAndReset _ (.running nofun rfl rfl rfl)
    · apply Outcome.Reporting.after _ rfl
      exact reporting_sendItem protocol environment (.running nofun rfl rfl rfl)
  · apply Outcome.Reporting.after _ rfl
    exact reporting_callbackAndReset _ (.running nofun rfl rfl rfl)
  · exact .mute (.running nofun rfl rfl rfl) rfl

end UploadWorkItem

theorem GroundStation.UploadWorkItem.reporting_handle (call : Call) (environment : Environment)
    (item : UploadWorkItem PlanId WaypointItem InspectionAck) :
    (workItemClass.handle call environment item).Reporting workItemClass.base Kind.everyReport
      call item.toWorkItem := by
  cases call with
  | start =>
    simp only [workItemClass, start]
    split
    · apply Outcome.Reporting.after _ rfl
      exact UploadWorkItem.reporting_sendCount inspection environment (.begun rfl rfl rfl)
    · exact UploadWorkItem.reporting_callbackAndReset _ (.begun rfl rfl rfl)
  | cancel => exact UploadWorkItem.reporting_cancel inspection environment item
  | processTimeout =>
    simp only [workItemClass, processTimeout]
    split
    · exact UploadWorkItem.reporting_callbackAndReset _ (.running nofun rfl rfl rfl)
    · cases item.step with
      | sendCount =>
        apply Outcome.Reporting.after _ rfl
        exact UploadWorkItem.reporting_sendCount inspection environment
          (.running nofun rfl rfl rfl)
      | sendItems => exact UploadWorkItem.reporting_callbackAndReset _ (.running nofun rfl rfl rfl)
  | processMessage message =>
    exact UploadWorkItem.reporting_processMessage inspection environment message item

theorem RoboticVehicle.UploadWorkItem.reporting_handle {Header Item Ack : Type}
    (protocol : ListProtocol Header Item Ack) (call : Call) (environment : Environment)
    (item : UploadWorkItem Header Item Ack) :
    ((workItemClass protocol).handle call environment item).Reporting
      (workItemClass protocol).base Kind.everyReport call item.toWorkItem := by
  cases call with
  | start =>
    apply Outcome.Reporting.after _ rfl
    split
    · exact UploadWorkItem.reporting_sendCount protocol environment (.begun rfl rfl rfl)
    split
    · exact UploadWorkItem.reporting_sendCount protocol environment (.begun rfl rfl rfl)
    · exact UploadWorkItem.reporting_callbackAndReset _ (.begun rfl rfl rfl)
  | cancel => exact UploadWorkItem.reporting_cancel protocol environment item
  | processTimeout =>
    exact UploadWorkItem.reporting_callbackAndReset _ (.running nofun rfl rfl rfl)
  | processMessage message =>
    exact UploadWorkItem.reporting_processMessage protocol environment message item

namespace GroundStation.DownloadWorkItem
variable {Header Item Ack : Type} (protocol : ListProtocol Header Item Ack)
  {item : DownloadWorkItem Header Item}

private theorem reporting_callbackAndReset (result : Result)
    (goesOn : before.GoesOn call item.toWorkItem) :
    (item.callbackAndReset result).Reporting toWorkItem Kind.everyReport call before := by
  refine .reset (result, item.list) rfl goesOn rfl ?_
  cases callback : item.callback <;> simp [callbackAndReset, callback, Effect.reported]

private theorem reporting_requestList (environment : Environment)
    (goesOn : before.GoesOn call item.toWorkItem) :
    (item.requestList protocol environment).Reporting toWorkItem Kind.everyReport call before :=
  .sending (.after (reporting_callbackAndReset _ goesOn) rfl)
    (.mute ⟨goesOn.started, goesOn.done, goesOn.callback⟩ rfl)

private theorem reporting_requestItem (environment : Environment)
    (goesOn : before.GoesOn call item.toWorkItem) :
    (item.requestItem protocol environment).Reporting toWorkItem Kind.everyReport call before :=
  .sending (.after (reporting_callbackAndReset _ goesOn) rfl)
    (.mute ⟨goesOn.started, goesOn.done, goesOn.callback⟩ rfl)

private theorem reporting_sendAckAndFinish (environment : Environment)
    (goesOn : before.GoesOn call item.toWorkItem) :
    (item.sendAckAndFinish protocol environment).Reporting toWorkItem Kind.everyReport call
      before :=
  .sending (reporting_callbackAndReset _ goesOn) (reporting_callbackAndReset _ goesOn)

theorem reporting_handle (call : Call) (environment : Environment)
    (item : DownloadWorkItem Header Item) :
    ((workItemClass protocol).handle call environment item).Reporting
      (workItemClass protocol).base Kind.everyReport call item.toWorkItem := by
  cases call with
  | start =>
    apply Outcome.Reporting.after _ rfl
    exact reporting_requestList protocol environment (.begun rfl rfl rfl)
  | cancel =>
    apply Outcome.Reporting.after _ rfl
    apply Outcome.Reporting.sending
    · exact reporting_callbackAndReset _ (.running nofun rfl rfl rfl)
    · exact reporting_callbackAndReset _ (.running nofun rfl rfl rfl)
  | processTimeout =>
    simp only [workItemClass, processTimeout]
    split
    · exact reporting_callbackAndReset _ (.running nofun rfl rfl rfl)
    · cases item.step with
      | requestList =>
        apply Outcome.Reporting.after _ rfl
        exact reporting_requestList protocol environment (.running nofun rfl rfl rfl)
      | requestItem =>
        apply Outcome.Reporting.after _ rfl
        exact reporting_requestItem protocol environment (.running nofun rfl rfl rfl)
  | processMessage message =>
    simp only [workItemClass, processMessage]
    split
    · simp only [processCount]
      split
      · apply Outcome.Reporting.followedBy _ rfl
        exact reporting_sendAckAndFinish protocol environment (.running nofun rfl rfl rfl)
      · apply Outcome.Reporting.after _ rfl
        exact reporting_requestItem protocol environment (.running nofun rfl rfl rfl)
    · simp only [processItem]
      split
      · apply Outcome.Reporting.after _ rfl
        exact reporting_sendAckAndFinish protocol environment (.running nofun rfl rfl rfl)
      · apply Outcome.Reporting.after _ rfl
        exact reporting_requestItem protocol environment (.running nofun rfl rfl rfl)
    · exact .mute (.running nofun rfl rfl rfl) rfl

end GroundStation.DownloadWorkItem

namespace RoboticVehicle.DownloadWorkItem
variable {item : DownloadWorkItem}

private theorem reporting_callbackAndReset (result : Result)
    (goesOn : before.GoesOn call item.toWorkItem) :
    (item.callbackAndReset result).Reporting toWorkItem Kind.everyReport call before := by
  refine .reset (result, item.list) rfl goesOn rfl ?_
  cases callback : item.callback <;> simp [callbackAndReset, callback, Effect.reported]

private theorem reporting_requestItem (environment : Environment)
    (goesOn : before.GoesOn call item.toWorkItem) :
    (item.requestItem environment).Reporting toWorkItem Kind.everyReport call before :=
  .sending (.after (reporting_callbackAndReset _ goesOn) rfl)
    (.mute ⟨goesOn.started, goesOn.done, goesOn.callback⟩ rfl)

theorem reporting_handle (call : Call) (environment : Environment) (item : DownloadWorkItem) :
    (workItemClass.handle call environment item).Reporting workItemClass.base Kind.everyReport
      call item.toWorkItem := by
  cases call with
  | start =>
    simp only [workItemClass, start]
    split
    · exact reporting_callbackAndReset _ (.begun rfl rfl rfl)
    · apply Outcome.Reporting.after _ rfl
      exact reporting_requestItem environment (.begun rfl rfl rfl)
  | cancel =>
    apply Outcome.Reporting.after _ rfl
    apply Outcome.Reporting.sending
    · exact reporting_callbackAndReset _ (.running nofun rfl rfl rfl)
    · exact reporting_callbackAndReset _ (.running nofun rfl rfl rfl)
  | processTimeout =>
    simp only [workItemClass, processTimeout]
    split
    · exact reporting_callbackAndReset _ (.running nofun rfl rfl rfl)
    · apply Outcome.Reporting.after _ rfl
      exact reporting_requestItem environment (.running nofun rfl rfl rfl)
  | processMessage message =>
    simp only [workItemClass, processMessage]
    split
    · simp only [processItem]
      split
      · apply Outcome.Reporting.after _ rfl
        exact reporting_callbackAndReset _ (.running nofun rfl rfl rfl)
      · apply Outcome.Reporting.after _ rfl
        exact reporting_requestItem environment (.running nofun rfl rfl rfl)
    · exact .mute (.running nofun rfl rfl rfl) rfl

end RoboticVehicle.DownloadWorkItem

namespace SendWorkItem
variable {item : SendWorkItem}

theorem heard_report (result : CommandBase.Result) (item : SendWorkItem) :
    (item.report result).filterMap Effect.reported =
      if item.callback then [(result, item.ack)] else [] := by
  cases callback : item.callback <;> simp [report, callback, Effect.reported]

private theorem reporting_callbackAndReset {result : CommandBase.Result}
    (final : result ≠ .inProgress) (goesOn : before.GoesOn call item.toWorkItem) :
    (item.callbackAndReset result).Reporting toWorkItem Report.terminal call before :=
  .reset (result, item.ack) (by simpa [Report.terminal] using final) goesOn rfl
    (heard_report result item)

private theorem reporting_sendCommand (environment : Environment)
    (goesOn : before.GoesOn call item.toWorkItem) :
    (item.sendCommand environment).Reporting toWorkItem Report.terminal call before := by
  apply Outcome.Reporting.sending
  · apply Outcome.Reporting.after _ rfl
    exact reporting_callbackAndReset (by decide) goesOn
  · exact .mute ⟨goesOn.started, goesOn.done, goesOn.callback⟩ rfl

/-- The one place where the callback is called and kept. -/
private theorem reporting_inProgress (environment : Environment)
    (goesOn : before.GoesOn call item.toWorkItem) :
    Outcome.Reporting toWorkItem Report.terminal call before
      ⟨item, .addTimeout environment.cookie :: item.report .inProgress⟩ := by
  have heard : Outcome.heard ⟨item, .addTimeout environment.cookie :: item.report .inProgress⟩ =
      if before.callback then [(.inProgress, item.ack)] else [] := by
    rw [← goesOn.callback, ← heard_report]
    rfl
  unfold Outcome.Reporting
  rw [heard]
  apply WorkItem.Reporting.going goesOn
  · intro report member
    split at member
    · rw [List.mem_singleton.mp member]
      rfl
    · cases member
  · intro empty
    rw [empty]
    rfl

theorem reporting_handle (call : Call) (environment : Environment) (item : SendWorkItem) :
    (workItemClass.handle call environment item).Reporting workItemClass.base Report.terminal
      call item.toWorkItem := by
  cases call with
  | start =>
    apply Outcome.Reporting.after _ rfl
    exact reporting_sendCommand environment (.begun rfl rfl rfl)
  | cancel =>
    apply Outcome.Reporting.after _ rfl
    exact reporting_callbackAndReset (by decide) (.running nofun rfl rfl rfl)
  | processTimeout =>
    simp only [workItemClass, processTimeout]
    split
    · exact reporting_callbackAndReset (by decide) (.running nofun rfl rfl rfl)
    · apply Outcome.Reporting.after _ rfl
      exact reporting_sendCommand environment (.running nofun rfl rfl rfl)
  | processMessage message =>
    simp only [workItemClass, processMessage]
    split
    · simp only [processCommandAck]
      split
      · exact .mute (.running nofun rfl rfl rfl) rfl
      · apply Outcome.Reporting.after _ rfl
        split
        · exact reporting_inProgress environment (.running nofun rfl rfl rfl)
        · exact reporting_callbackAndReset (by decide) (.running nofun rfl rfl rfl)
    · exact .mute (.running nofun rfl rfl rfl) rfl

end SendWorkItem
end

namespace Kind

theorem reporting_handle (kind : Kind) (call : Call) (environment : Environment)
    (item : kind.State) :
    (kind.workItemClass.handle call environment item).Reporting kind.workItemClass.base
      kind.terminal call (kind.workItemClass.base item) := by
  cases kind with
  | inspectionUpload => exact GroundStation.UploadWorkItem.reporting_handle call environment item
  | inspectionDownload | checklistDownload | alarmDownload | hlActionDownload =>
    exact GroundStation.DownloadWorkItem.reporting_handle _ call environment item
  | vehicleInspectionUpload | vehicleChecklistUpload | vehicleAlarmUpload
  | vehicleHLActionUpload =>
    exact RoboticVehicle.UploadWorkItem.reporting_handle _ call environment item
  | vehicleInspectionDownload =>
    exact RoboticVehicle.DownloadWorkItem.reporting_handle call environment item
  | commandSend => exact SendWorkItem.reporting_handle call environment item

theorem proceeds_handle (kind : Kind) (call : Call) (environment : Environment)
    (item : kind.State) : (kind.workItemClass.base item).Proceeds call
      (kind.workItemClass.base (kind.workItemClass.handle call environment item).item) :=
  (kind.reporting_handle call environment item).proceeds

end Kind
end PilotingMavsdk
