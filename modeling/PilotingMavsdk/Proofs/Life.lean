import PilotingMavsdk.Proofs.Reporting

/-! What a single step in the life of an item can be, and what every kind of work item has in
common: it is started once, and cancelling removes its timer. -/

namespace PilotingMavsdk
open Library

namespace WorkItemClass
variable {State Report : Type}

/-- The three kinds of step, with the guard of each. -/
inductive Lived (workItemClass : WorkItemClass State Report) (life : Life State) :
    LifeEvent → Life State → List (Effect Report) → Prop where
  | call {call : Call} {environment : Environment}
      (callable : workItemClass.callable call life = true)
      (fresh : environment.cookie ∉ life.used) :
      Lived workItemClass life (.call call environment)
        (workItemClass.afterCall call environment life)
        (workItemClass.handle call environment life.item).effects
  | select {cookie : Cookie} (expired : cookie ∈ life.pending) (idle : life.selected = false) :
      Lived workItemClass life (.select cookie)
        { life with pending := life.pending.filter (· ≠ cookie), selected := true } []
  | destroy :
      Lived workItemClass life .destroy
        { life with
          pending := life.pending.filter (· ≠ (workItemClass.base life.item).cookie)
          destroyed := true }
        [.removeTimeout (workItemClass.base life.item).cookie]

variable {workItemClass : WorkItemClass State Report}

private theorem lived_of_step {life after : Life State} {event : LifeEvent}
    {effects : List (Effect Report)}
    (stepped : workItemClass.step event life = some (after, effects)) :
    workItemClass.Lived life event after effects := by
  cases event with
  | call call environment =>
    simp only [step] at stepped
    split at stepped
    next allowed => cases stepped; exact .call allowed.1 allowed.2
    · cases stepped
  | select cookie =>
    simp only [step] at stepped
    split at stepped
    next allowed => cases stepped; exact .select allowed.1 allowed.2
    · cases stepped
  | destroy => cases stepped; exact .destroy

theorem lived {life after : Life State} {event : LifeEvent} {effects : List (Effect Report)}
    (legal : workItemClass.machine.Legal ⟨life, event, after, effects⟩) :
    life.destroyed = false ∧ workItemClass.Lived life event after effects := by
  simp only [Machine.Legal, machine] at legal
  split at legal
  · cases legal
  next alive => exact ⟨by simpa using alive, lived_of_step legal⟩

theorem lived_late {life after : Life State} {event : LifeEvent} {effects : List (Effect Report)}
    (legal : workItemClass.machineWithLateTimeouts.Legal ⟨life, event, after, effects⟩) :
    (life.destroyed = true → event.expiring = true) ∧
      workItemClass.Lived life event after effects := by
  simp only [Machine.Legal, machineWithLateTimeouts] at legal
  split at legal
  · cases legal
  next allowed =>
    refine ⟨?_, lived_of_step legal⟩
    intro destroyed
    by_contra other
    exact allowed ⟨destroyed, by simpa using other⟩

theorem legal_call {call : Call} {environment : Environment} {life : Life State}
    (present : life.destroyed = false) (callable : workItemClass.callable call life = true)
    (fresh : environment.cookie ∉ life.used) :
    workItemClass.machine.Legal ⟨life, .call call environment,
      workItemClass.afterCall call environment life,
      (workItemClass.handle call environment life.item).effects⟩ := by
  simp [Machine.Legal, machine, step, present, callable, fresh]

theorem running_of_callable {call : Call} {life : Life State}
    (callable : workItemClass.callable call life = true)
    (started : (workItemClass.base life.item).started = true) : call ≠ .start := by
  rintro rfl
  rw [WorkItemClass.callable, started] at callable
  cases callable

end WorkItemClass

namespace Kind

theorem started_of_handle (kind : Kind) (call : Call) (environment : Environment)
    {item : kind.State}
    (after : (kind.workItemClass.base
      (kind.workItemClass.handle call environment item).item).started = false) :
    call ≠ .start ∧ (kind.workItemClass.base item).started = false := by
  have unstarted := mt (kind.proceeds_handle call environment item).started.mpr
    (Bool.eq_false_iff.mp after)
  rw [not_or] at unstarted
  exact ⟨unstarted.1, Bool.eq_false_iff.mpr unstarted.2⟩

theorem pendingAfter_cancel (kind : Kind) (environment : Environment) (item : kind.State)
    (pending : List Cookie) :
    (kind.workItemClass.handle .cancel environment item).pendingAfter pending =
      pending.filter (· ≠ (kind.workItemClass.base item).cookie) := by
  cases kind with
  | inspectionUpload =>
    simp [workItemClass, GroundStation.UploadWorkItem.workItemClass, UploadWorkItem.cancel,
      UploadWorkItem.sendCancelAndFinish, Effect.pendingAfter]
  | inspectionDownload | checklistDownload | alarmDownload | hlActionDownload =>
    simp [workItemClass, GroundStation.DownloadWorkItem.workItemClass,
      GroundStation.DownloadWorkItem.cancel, GroundStation.DownloadWorkItem.sendCancelAndFinish,
      Effect.pendingAfter]
  | vehicleInspectionUpload | vehicleChecklistUpload | vehicleAlarmUpload
  | vehicleHLActionUpload =>
    simp [workItemClass, RoboticVehicle.UploadWorkItem.workItemClass, UploadWorkItem.cancel,
      UploadWorkItem.sendCancelAndFinish, Effect.pendingAfter]
  | vehicleInspectionDownload =>
    simp [workItemClass, RoboticVehicle.DownloadWorkItem.workItemClass,
      RoboticVehicle.DownloadWorkItem.cancel, RoboticVehicle.DownloadWorkItem.sendCancelAndFinish,
      Effect.pendingAfter]
  | commandSend =>
    simp [workItemClass, SendWorkItem.workItemClass, SendWorkItem.cancel, Effect.pendingAfter]

theorem created_fields (kind : Kind) {item : kind.State}
    (created : kind.workItemClass.Created item) :
    (kind.workItemClass.base item).started = false ∧ (kind.workItemClass.base item).done = false ∧
      (kind.workItemClass.base item).cookie = 0 := by
  cases kind with
  | inspectionUpload => obtain ⟨_, _, _, rfl⟩ := created; exact ⟨rfl, rfl, rfl⟩
  | inspectionDownload | checklistDownload | alarmDownload | hlActionDownload =>
    obtain ⟨_, _, rfl⟩ := created; exact ⟨rfl, rfl, rfl⟩
  | vehicleInspectionUpload | vehicleChecklistUpload | vehicleAlarmUpload
  | vehicleHLActionUpload => obtain ⟨_, _, _, rfl⟩ := created; exact ⟨rfl, rfl, rfl⟩
  | vehicleInspectionDownload => obtain ⟨_, _, _, rfl⟩ := created; exact ⟨rfl, rfl, rfl⟩
  | commandSend => obtain ⟨_, _, _, rfl⟩ := created; exact ⟨rfl, rfl, rfl⟩

end Kind
end PilotingMavsdk
