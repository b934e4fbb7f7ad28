import Mathlib.Data.Fintype.EquivFin
import PilotingMavsdk.Proofs.Finality

/-! No transfer hangs. A call that does not end a started item leaves one of its timers behind,
and each expiration either ends the item or uses up one of the expirations that it has left. -/

namespace PilotingMavsdk
open Library

/-- How many expirations it takes to end an item that counts its retries. With the retries used
up it still takes one. -/
def WorkItem.expirationsLeft (item : WorkItem) : Nat := max 1 (retries + 1 - item.retriesDone)

private theorem WorkItem.expirationsLeft_pos (item : WorkItem) : 0 < item.expirationsLeft := by
  unfold expirationsLeft
  omega

/-- An item that has sent something since it counts from zero. -/
private theorem WorkItem.expirationsLeft_le {item : WorkItem} :
    item.expirationsLeft ≤ retries ↔ 1 ≤ item.retriesDone := by
  unfold expirationsLeft retries
  omega

private theorem WorkItem.expirationsLeft_counted {before after : WorkItem}
    (counted : after.retriesDone = before.retriesDone + 1)
    (remaining : ¬before.retriesDone ≥ retries) :
    after.expirationsLeft < before.expirationsLeft := by
  unfold expirationsLeft
  omega

namespace Outcome
variable {Item Report : Type}

/-- A call that does not end the item leaves a timer behind and wastes no expiration. -/
structure Endures (base : Item → WorkItem) (left : Item → Nat) (call : Call) (before : Item)
    (outcome : Outcome Item Report) : Prop where
  armed : (base outcome.item).done = false → ∀ pending, outcome.pendingAfter pending = [] →
    pending = [] ∧ call ≠ .start ∧ call ≠ .processTimeout
  patient : (base outcome.item).done = false → call = .start ∨ left before ≤ retries →
    left outcome.item ≤ retries
  spent : (base outcome.item).done = false → call = .processTimeout →
    left outcome.item < left before

variable {base : Item → WorkItem} {left : Item → Nat} {call : Call} {before : Item}

theorem Endures.ended {outcome : Outcome Item Report} (done : (base outcome.item).done = true) :
    Endures base left call before outcome := by
  constructor
  all_goals
    intro goesOn
    rw [done] at goesOn
    cases goesOn

theorem Endures.ignored {message : Message} {outcome : Outcome Item Report}
    (kept : ∀ pending, outcome.pendingAfter pending = pending)
    (patient : left before ≤ retries → left outcome.item ≤ retries) :
    Endures base left (.processMessage message) before outcome := by
  constructor
  · intro _ pending empty
    rw [kept] at empty
    exact ⟨empty, nofun, nofun⟩
  · rintro _ (same | few)
    · cases same
    · exact patient few
  · nofun

section
variable {environment : Environment} {sending : Message} {failed : Outcome Item Report}
  {item : Item} (lost : (base failed.item).done = true)
include lost

private theorem goes_on_of_sending (effects : List (Effect Report))
    (goesOn : (base ((Outcome.sending environment sending failed ⟨item, []⟩).after
      effects).item).done = false) : environment.sent = true := by
  cases sent : environment.sent with
  | true => rfl
  | false => simp [sent, lost] at goesOn

theorem Endures.rearmed {cookie : Cookie} (patient : left item ≤ retries)
    (spent : call = .processTimeout → left item < left before) :
    Endures base left call before
      ((Outcome.sending environment sending failed ⟨item, []⟩).after [.addTimeout cookie]) := by
  constructor
  · intro goesOn pending empty
    have sent := goes_on_of_sending lost _ goesOn
    simp [sent, Effect.pendingAfter] at empty
  · intro goesOn _
    have sent := goes_on_of_sending lost _ goesOn
    simpa [sent] using patient
  · intro goesOn expired
    have sent := goes_on_of_sending lost _ goesOn
    simpa [sent] using spent expired

theorem Endures.refreshed {message : Message} {cookie : Cookie}
    (patient : left before ≤ retries → left item ≤ retries) :
    Endures base left (.processMessage message) before
      ((Outcome.sending environment sending failed ⟨item, []⟩).after
        [.refreshTimeout cookie]) := by
  constructor
  · intro goesOn pending empty
    have sent := goes_on_of_sending lost _ goesOn
    refine ⟨by simpa [sent, Effect.pendingAfter] using empty, ?_, ?_⟩
    · intro same
      cases same
    · intro same
      cases same
  · intro goesOn few
    have sent := goes_on_of_sending lost _ goesOn
    rcases few with same | few
    · cases same
    · simpa [sent] using patient few
  · intro _ same
    cases same

end
end Outcome

namespace GroundStation.DownloadWorkItem
variable {Header Item Ack : Type} (protocol : ListProtocol Header Item Ack)

def expirationsLeft (item : DownloadWorkItem Header Item) : Nat := item.toWorkItem.expirationsLeft

private theorem endures_handle (call : Call) (environment : Environment)
    (item : DownloadWorkItem Header Item) :
    ((workItemClass protocol).handle call environment item).Endures (workItemClass protocol).base
      expirationsLeft call item := by
  cases call with
  | start =>
    apply Outcome.Endures.rearmed rfl
    · exact WorkItem.expirationsLeft_le.mpr (Nat.le_refl 1)
    · nofun
  | cancel =>
    apply Outcome.Endures.ended
    simp [workItemClass]
  | processTimeout =>
    simp only [workItemClass, processTimeout]
    split
    · exact .ended rfl
    next remaining =>
      cases item.step with
      | requestList =>
        apply Outcome.Endures.rearmed rfl
        · exact WorkItem.expirationsLeft_le.mpr (Nat.le_add_left 1 _)
        · exact fun _ => WorkItem.expirationsLeft_counted rfl remaining
      | requestItem =>
        apply Outcome.Endures.rearmed rfl
        · exact WorkItem.expirationsLeft_le.mpr (Nat.le_add_left 1 _)
        · exact fun _ => WorkItem.expirationsLeft_counted rfl remaining
  | processMessage message =>
    simp only [workItemClass, processMessage]
    split
    · simp only [processCount]
      split
      · apply Outcome.Endures.ended
        simp
      · apply Outcome.Endures.refreshed rfl
        exact fun _ => WorkItem.expirationsLeft_le.mpr (Nat.le_refl 1)
    · simp only [processItem]
      split
      · apply Outcome.Endures.ended
        simp
      · apply Outcome.Endures.refreshed rfl
        exact fun _ => WorkItem.expirationsLeft_le.mpr (Nat.le_refl 1)
    · exact .ignored (fun _ => rfl) id

end GroundStation.DownloadWorkItem

namespace UploadWorkItem
variable {Header Item Ack : Type} (protocol : ListProtocol Header Item Ack)
  {base : UploadWorkItem Header Item Ack → WorkItem} {left : UploadWorkItem Header Item Ack → Nat}

/-- Both uploads take one expiration from the first READ on, so no handler of theirs has to
count. -/
private theorem endures_processMessage (base_eq : ∀ item, base item = item.toWorkItem)
    (answering : ∀ item : UploadWorkItem Header Item Ack, item.step = .sendItems →
      left item ≤ retries)
    (environment : Environment) (message : Message) (item : UploadWorkItem Header Item Ack) :
    (item.processMessage protocol environment message).Endures base left
      (.processMessage message) item := by
  simp only [processMessage]
  split
  · simp only [processRead]
    split
    · exact .ignored (fun _ => rfl) fun _ => answering _ rfl
    split
    · apply Outcome.Endures.ended
      simp [base_eq]
    · simp only [sendItem]
      split
      · exact .ignored (fun _ => rfl) fun _ => answering _ rfl
      · apply Outcome.Endures.refreshed (by simp [base_eq])
        exact fun _ => answering _ rfl
  · apply Outcome.Endures.ended
    simp [processAck, base_eq]
  · exact .ignored (fun _ => rfl) id

private theorem endures_cancel (base_eq : ∀ item, base item = item.toWorkItem)
    (environment : Environment) (item : UploadWorkItem Header Item Ack) :
    (item.cancel protocol environment).Endures base left .cancel item := by
  apply Outcome.Endures.ended
  rw [base_eq, cancel_item]

end UploadWorkItem

namespace GroundStation.UploadWorkItem

/-- It counts as long as no READ has come, and then gives up at once. -/
def expirationsLeft (item : UploadWorkItem PlanId WaypointItem InspectionAck) : Nat :=
  match item.step with
  | .sendCount => item.toWorkItem.expirationsLeft
  | .sendItems => 1

private theorem endures_handle (call : Call) (environment : Environment)
    (item : UploadWorkItem PlanId WaypointItem InspectionAck) :
    (workItemClass.handle call environment item).Endures workItemClass.base expirationsLeft call
      item := by
  cases call with
  | start =>
    simp only [workItemClass, start]
    split
    · apply Outcome.Endures.rearmed rfl
      · exact WorkItem.expirationsLeft_le.mpr (Nat.le_refl 1)
      · intro same
        cases same
    · exact .ended rfl
  | cancel => exact UploadWorkItem.endures_cancel inspection (fun _ => rfl) environment item
  | processTimeout =>
    simp only [workItemClass, processTimeout]
    split
    · exact .ended rfl
    next remaining =>
      split
      next step =>
        apply Outcome.Endures.rearmed rfl
        · simp only [expirationsLeft, step]
          exact WorkItem.expirationsLeft_le.mpr (Nat.le_add_left 1 _)
        · intro _
          simp only [expirationsLeft, step]
          exact WorkItem.expirationsLeft_counted rfl remaining
      · exact .ended rfl
  | processMessage message =>
    apply UploadWorkItem.endures_processMessage inspection fun _ => rfl
    intro other step
    simp [expirationsLeft, step, retries]

end GroundStation.UploadWorkItem

private theorem RoboticVehicle.UploadWorkItem.endures_handle {Header Item Ack : Type}
    (protocol : ListProtocol Header Item Ack) (call : Call) (environment : Environment)
    (item : UploadWorkItem Header Item Ack) :
    ((workItemClass protocol).handle call environment item).Endures (workItemClass protocol).base
      (fun _ => 1) call item := by
  have few : 1 ≤ retries := by decide
  have untimed : Call.start ≠ .processTimeout := by decide
  cases call with
  | start =>
    simp only [workItemClass, start]
    split
    · exact .rearmed rfl few fun same => absurd same untimed
    split
    · exact .rearmed rfl few fun same => absurd same untimed
    · exact .ended rfl
  | cancel => exact UploadWorkItem.endures_cancel protocol (fun _ => rfl) environment item
  | processTimeout => exact .ended rfl
  | processMessage message =>
    exact UploadWorkItem.endures_processMessage protocol (fun _ => rfl) (fun _ _ => few)
      environment message item

namespace RoboticVehicle.DownloadWorkItem

def expirationsLeft (item : DownloadWorkItem) : Nat := item.toWorkItem.expirationsLeft

private theorem endures_handle (call : Call) (environment : Environment) (item : DownloadWorkItem) :
    (workItemClass.handle call environment item).Endures workItemClass.base expirationsLeft call
      item := by
  cases call with
  | start =>
    simp only [workItemClass, start]
    split
    · exact .ended rfl
    · apply Outcome.Endures.rearmed rfl
      · exact WorkItem.expirationsLeft_le.mpr (Nat.le_refl 1)
      · intro same
        cases same
  | cancel =>
    apply Outcome.Endures.ended
    simp [workItemClass]
  | processTimeout =>
    simp only [workItemClass, processTimeout]
    split
    · exact .ended rfl
    next remaining =>
      apply Outcome.Endures.rearmed rfl
      · exact WorkItem.expirationsLeft_le.mpr (Nat.le_add_left 1 _)
      · exact fun _ => WorkItem.expirationsLeft_counted rfl remaining
  | processMessage message =>
    simp only [workItemClass, processMessage]
    split
    · simp only [processItem]
      split
      · exact .ended rfl
      · apply Outcome.Endures.refreshed rfl
        exact fun _ => WorkItem.expirationsLeft_le.mpr (Nat.le_refl 1)
    · exact .ignored (fun _ => rfl) id

end RoboticVehicle.DownloadWorkItem

namespace SendWorkItem

def expirationsLeft (item : SendWorkItem) : Nat := item.toWorkItem.expirationsLeft

private theorem endures_inProgress (environment : Environment) (message : Message)
    {before item : SendWorkItem} (same : item.retriesDone = before.retriesDone) :
    Outcome.Endures toWorkItem expirationsLeft (.processMessage message) before
      (Outcome.after [.removeTimeout before.cookie]
        ⟨item, .addTimeout environment.cookie :: item.report .inProgress⟩) := by
  constructor
  · intro _ pending empty
    cases callback : item.callback <;> simp [report, callback, Effect.pendingAfter] at empty
  · rintro _ (started | few)
    · cases started
    · rw [expirationsLeft, WorkItem.expirationsLeft_le] at few ⊢
      exact Nat.le_trans few (Nat.le_of_eq same.symm)
  · intro _ same
    cases same

private theorem endures_handle (call : Call) (environment : Environment) (item : SendWorkItem) :
    (workItemClass.handle call environment item).Endures workItemClass.base expirationsLeft call
      item := by
  cases call with
  | start =>
    apply Outcome.Endures.rearmed rfl
    · exact WorkItem.expirationsLeft_le.mpr (Nat.le_refl 1)
    · nofun
  | cancel => exact .ended rfl
  | processTimeout =>
    simp only [workItemClass, processTimeout]
    split
    · exact .ended rfl
    next remaining =>
      apply Outcome.Endures.rearmed rfl
      · exact WorkItem.expirationsLeft_le.mpr (Nat.le_add_left 1 _)
      · exact fun _ => WorkItem.expirationsLeft_counted rfl remaining
  | processMessage message =>
    simp only [workItemClass, processMessage]
    split
    · simp only [processCommandAck]
      split
      · exact .ignored (fun _ => rfl) id
      · split
        · exact endures_inProgress environment message rfl
        · exact .ended rfl
    · exact .ignored (fun _ => rfl) id

end SendWorkItem

def LifeEvent.expiration : LifeEvent → Bool
  | .call .processTimeout _ => true
  | _ => false

namespace Kind

def expirationsLeft : (kind : Kind) → kind.State → Nat
  | inspectionUpload => GroundStation.UploadWorkItem.expirationsLeft
  | inspectionDownload | checklistDownload | alarmDownload | hlActionDownload =>
    GroundStation.DownloadWorkItem.expirationsLeft
  | vehicleInspectionUpload | vehicleChecklistUpload | vehicleAlarmUpload
  | vehicleHLActionUpload => fun _ => 1
  | vehicleInspectionDownload => RoboticVehicle.DownloadWorkItem.expirationsLeft
  | commandSend => SendWorkItem.expirationsLeft

private theorem endures_handle (kind : Kind) (call : Call) (environment : Environment)
    (item : kind.State) :
    (kind.workItemClass.handle call environment item).Endures kind.workItemClass.base
      kind.expirationsLeft call item := by
  cases kind with
  | inspectionUpload => exact GroundStation.UploadWorkItem.endures_handle call environment item
  | inspectionDownload | checklistDownload | alarmDownload | hlActionDownload =>
    exact GroundStation.DownloadWorkItem.endures_handle _ call environment item
  | vehicleInspectionUpload | vehicleChecklistUpload | vehicleAlarmUpload
  | vehicleHLActionUpload =>
    exact RoboticVehicle.UploadWorkItem.endures_handle _ call environment item
  | vehicleInspectionDownload =>
    exact RoboticVehicle.DownloadWorkItem.endures_handle call environment item
  | commandSend => exact SendWorkItem.endures_handle call environment item

private theorem expirationsLeft_pos (kind : Kind) (item : kind.State) :
    0 < kind.expirationsLeft item := by
  cases kind with
  | inspectionUpload =>
    simp only [expirationsLeft, GroundStation.UploadWorkItem.expirationsLeft]
    split
    · exact WorkItem.expirationsLeft_pos _
    · decide
  | inspectionDownload | checklistDownload | alarmDownload | hlActionDownload
  | vehicleInspectionDownload | commandSend => exact WorkItem.expirationsLeft_pos _
  | vehicleInspectionUpload | vehicleChecklistUpload | vehicleAlarmUpload
  | vehicleHLActionUpload => exact Nat.one_pos

variable (kind : Kind)

structure Active (life : Life kind.State) : Prop where
  present : life.destroyed = false
  started : (kind.workItemClass.base life.item).started = true
  running : (kind.workItemClass.base life.item).done = false

/-- A timer is pending or its callback is about to run, and few expirations are left. -/
def Timed (life : Life kind.State) : Prop :=
  kind.Active life → (life.pending ≠ [] ∨ life.selected = true) ∧
    kind.expirationsLeft life.item ≤ retries

def expirations (log : List kind.Step) : Nat :=
  (log.filter fun taken => taken.action.expiration).length

variable {kind}

private theorem active_before {call : Call} {environment : Environment} {life : Life kind.State}
    (active : kind.Active (kind.workItemClass.afterCall call environment life)) :
    call = .start ∨ kind.Active life := by
  have proceeds := kind.proceeds_handle call environment life.item
  apply (proceeds.started.mp active.started).imp_right
  intro started
  refine ⟨active.present, started, ?_⟩
  apply Bool.eq_false_iff.mpr
  intro ended
  have done := proceeds.done ended
  have running := active.running
  simp only [WorkItemClass.afterCall, done] at running
  cases running

private theorem timed_step {taken : kind.Step} (legal : kind.workItemClass.machine.Legal taken)
    (timed : kind.Timed taken.before) : kind.Timed taken.after := by
  obtain ⟨before, event, after, effects⟩ := taken
  obtain ⟨alive, lived⟩ := WorkItemClass.lived legal
  intro active
  cases lived with
  | @call call environment =>
    have endures := kind.endures_handle call environment before.item
    have earlier := active_before active
    constructor
    · by_contra hung
      obtain ⟨empty, unselected⟩ := not_or.mp hung
      obtain ⟨none, running, unexpired⟩ :=
        endures.armed active.running before.pending (not_not.mp empty)
      simp only [WorkItemClass.afterCall, if_neg unexpired] at unselected
      exact (timed (earlier.resolve_left running)).1.elim (absurd none) unselected
    · exact endures.patient active.running (earlier.imp_right fun before => (timed before).2)
  | select =>
    have earlier : kind.Active before := ⟨alive, active.started, active.running⟩
    exact ⟨.inr rfl, (timed earlier).2⟩
  | destroy => cases active.present

private theorem expiring_step {taken : kind.Step} (legal : kind.workItemClass.machine.Legal taken)
    (expiring : taken.action.expiring = true) :
    taken.after.destroyed = false ∧
      ((kind.workItemClass.base taken.before.item).started = true →
        (kind.workItemClass.base taken.after.item).started = true) ∧
      (kind.Active taken.after → kind.Active taken.before ∧
        (if taken.action.expiration then 1 else 0) + kind.expirationsLeft taken.after.item ≤
          kind.expirationsLeft taken.before.item) := by
  obtain ⟨before, event, after, effects⟩ := taken
  obtain ⟨alive, lived⟩ := WorkItemClass.lived legal
  cases lived with
  | @call call environment =>
    cases call with
    | processTimeout =>
      have proceeds := kind.proceeds_handle .processTimeout environment before.item
      refine ⟨alive, fun started => proceeds.started.mpr (.inr started), ?_⟩
      intro active
      have spent := (kind.endures_handle .processTimeout environment before.item).spent
        active.running rfl
      refine ⟨(active_before active).resolve_left nofun, ?_⟩
      simp only [LifeEvent.expiration, WorkItemClass.afterCall, if_true]
      omega
    | start | cancel | processMessage => cases expiring
  | select =>
    refine ⟨alive, id, ?_⟩
    intro active
    exact ⟨⟨alive, active.started, active.running⟩, by simp [LifeEvent.expiration]⟩
  | destroy => cases expiring

private theorem expiring_run {first last : Life kind.State} (active : kind.Active first)
    {log : List kind.Step} (run : kind.workItemClass.machine.Run first log last)
    (expiring : ∀ taken ∈ log, taken.action.expiring = true) :
    last.destroyed = false ∧ (kind.workItemClass.base last.item).started = true ∧
      (kind.Active last → kind.expirations log + kind.expirationsLeft last.item ≤
        kind.expirationsLeft first.item) := by
  induction run with
  | nil => exact ⟨active.present, active.started, by simp [expirations]⟩
  | @snoc log taken run legal ih =>
    obtain ⟨_, started, spent⟩ := ih fun other member => expiring other (by simp [member])
    obtain ⟨present, kept, spends⟩ := expiring_step legal (expiring taken (by simp))
    refine ⟨present, kept started, ?_⟩
    intro still
    obtain ⟨before, here⟩ := spends still
    have earlier := spent before
    have counted : kind.expirations (log ++ [taken]) =
        kind.expirations log + if taken.action.expiration then 1 else 0 := by
      simp only [expirations, List.filter_append, List.length_append]
      cases expired : taken.action.expiration <;> simp [expired]
    omega

private theorem can_expire {life : Life kind.State} (active : kind.Active life)
    (timed : life.pending ≠ [] ∨ life.selected = true) :
    ∃ event : LifeEvent, event.expiring = true ∧
      (kind.workItemClass.machine.step life event).isSome = true := by
  have present := active.present
  cases selected : life.selected with
  | true =>
    obtain ⟨cookie, fresh⟩ := Infinite.exists_notMem_finset life.used.toFinset
    rw [List.mem_toFinset] at fresh
    refine ⟨.call .processTimeout ⟨true, cookie⟩, rfl, ?_⟩
    simp [WorkItemClass.machine, WorkItemClass.step, WorkItemClass.callable, present, selected, fresh]
  | false =>
    obtain ⟨cookie, member⟩ :=
      List.exists_mem_of_ne_nil _ (timed.resolve_right (by simp [selected]))
    refine ⟨.select cookie, rfl, ?_⟩
    simp [WorkItemClass.machine, WorkItemClass.step, present, selected, member]

/-- In every state of the life of a started item that is not done a timer is pending or about to
run. Where nothing else happens from there on, timers can go on expiring until the item is done,
and after at most four expirations it is. -/
theorem no_transfer_hangs (kind : Kind) {item : kind.State}
    (created : kind.workItemClass.Created item) {log : List kind.Step} {last : Life kind.State}
    (run : kind.workItemClass.machine.Run { item := item } log last) (active : kind.Active last) :
    (last.pending ≠ [] ∨ last.selected = true) ∧
      ∀ {more : List kind.Step} {final : Life kind.State},
        kind.workItemClass.machine.Run last more final →
        (∀ taken ∈ more, taken.action.expiring = true) →
        (retries ≤ kind.expirations more →
          (kind.workItemClass.base final.item).done = true) ∧
        ((kind.workItemClass.base final.item).done = false →
          ∃ event : LifeEvent, event.expiring = true ∧
            (kind.workItemClass.machine.step final event).isSome = true) := by
  have fresh : kind.Timed { item := item } := by
    intro begun
    have started := begun.started
    rw [(kind.created_fields created).1] at started
    cases started
  have timed := (run.invariant (fun _ => timed_step) fresh).1
  refine ⟨(timed active).1, ?_⟩
  intro more final continued expiring
  obtain ⟨present, started, spent⟩ := expiring_run active continued expiring
  constructor
  · intro enough
    by_contra unfinished
    have still : kind.Active final := ⟨present, started, Bool.eq_false_iff.mpr unfinished⟩
    have used := spent still
    have few := (timed active).2
    have left := kind.expirationsLeft_pos final.item
    omega
  · intro unfinished
    have still : kind.Active final := ⟨present, started, unfinished⟩
    have later := (continued.invariant (fun _ => timed_step) timed).1
    exact can_expire still (later still).1

/-- A list request is repeated three times and then given up. -/
theorem no_transfer_hangs_unanswered :
    let item : checklistDownload.State :=
      GroundStation.DownloadWorkItem.create checklist ⟨⟨245, 190⟩, ⟨1, 1⟩⟩ true
    let machine := checklistDownload.workItemClass.machine
    let started := machine.last { item := item } [.call .start ⟨true, 1⟩]
    let events : List LifeEvent := [.select 1, .call .processTimeout ⟨true, 2⟩,
      .select 2, .call .processTimeout ⟨true, 3⟩, .select 3, .call .processTimeout ⟨true, 4⟩,
      .select 4, .call .processTimeout ⟨true, 5⟩]
    started.pending = [1] ∧
      (checklistDownload.workItemClass.base (machine.last started events).item).done = true := by
  intro item machine started events
  have run := machine.run_last { item := item } [.call .start ⟨true, 1⟩] (by decide)
  have more := machine.run_last started events (by decide)
  have hangs :=
    no_transfer_hangs checklistDownload ⟨_, _, rfl⟩ run ⟨by decide, by decide, by decide⟩
  exact ⟨by decide, (hangs.2 more (by decide)).1 (by decide)⟩

end Kind
end PilotingMavsdk
