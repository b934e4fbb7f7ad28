import PilotingMavsdk.Proofs.Finality

/-! The timers that refer to an item and the one cookie in which it remembers them. An `add`
overwrites the cookie, so a second one may only come when the first timer is gone. -/

namespace PilotingMavsdk
open Library

/-- The calls that add a timer whatever the table holds. -/
def Call.Rearming (item : WorkItem) : Call → Prop
  | .start => True
  | .processTimeout => item.retriesDone < retries
  | _ => False

section
variable (environment : Environment) (before after : WorkItem)
  (pendingAfter : List Cookie → List Cookie)

/-- No timer is added, and none but the item's own is removed. -/
def KeepsTimer : Prop :=
  after.cookie = before.cookie ∧
    ∀ pending, pendingAfter pending = pending ∨
      pendingAfter pending = pending.filter (· ≠ before.cookie)

/-- A timer is added, and removed again when the sending fails. -/
def AddsTimer : Prop :=
  after.cookie = environment.cookie ∧
    ∀ pending, pendingAfter pending = pending ++ [environment.cookie] ∨
      pendingAfter pending = (pending ++ [environment.cookie]).filter (· ≠ environment.cookie)

/-- The item's own timer is removed and another one added. -/
def ReplacesTimer : Prop :=
  after.cookie = environment.cookie ∧
    ∀ pending, pendingAfter pending =
      pending.filter (· ≠ before.cookie) ++ [environment.cookie]

end

namespace GroundStation.DownloadWorkItem
variable {Header Item Ack : Type} (protocol : ListProtocol Header Item Ack)

private theorem timers_handle (call : Call) (environment : Environment)
    (item : DownloadWorkItem Header Item) :
    let outcome := (workItemClass protocol).handle call environment item
    call.Rearming item.toWorkItem ∧
        AddsTimer environment outcome.item.toWorkItem outcome.pendingAfter ∨
      KeepsTimer item.toWorkItem outcome.item.toWorkItem outcome.pendingAfter := by
  cases call with
  | start =>
    left
    simp only [workItemClass, start, requestList, AddsTimer, Call.Rearming]
    cases sent : environment.sent <;> simp [Effect.pendingAfter, sent]
  | cancel =>
    right
    simp only [workItemClass, cancel, sendCancelAndFinish, KeepsTimer]
    cases sent : environment.sent <;> simp [Effect.pendingAfter, sent]
  | processTimeout =>
    simp only [workItemClass, processTimeout, Call.Rearming]
    split
    · right
      simp [KeepsTimer]
    next remaining =>
      left
      refine ⟨by omega, ?_⟩
      cases item.step <;> cases sent : environment.sent <;>
        simp [requestList, requestItem, AddsTimer, Effect.pendingAfter, sent]
  | processMessage message =>
    right
    simp only [workItemClass, processMessage]
    generalize protocol.dispatched item.toWorkItem message = received
    split
    · simp only [processCount]
      split <;> cases sent : environment.sent <;>
        simp [sendAckAndFinish, requestItem, KeepsTimer, Effect.pendingAfter, sent]
    · simp only [processItem]
      split <;> cases sent : environment.sent <;>
        simp [sendAckAndFinish, requestItem, KeepsTimer, Effect.pendingAfter, sent]
    · simp [KeepsTimer]

end GroundStation.DownloadWorkItem

namespace UploadWorkItem
variable {Header Item Ack : Type} (protocol : ListProtocol Header Item Ack)

private theorem addsTimer_sendCount (environment : Environment)
    {item : UploadWorkItem Header Item Ack} (current : item.cookie = environment.cookie) :
    let outcome := (item.sendCount protocol environment).after [.addTimeout environment.cookie]
    AddsTimer environment outcome.item.toWorkItem outcome.pendingAfter := by
  simp only [sendCount, AddsTimer]
  cases sent : environment.sent <;> simp [Effect.pendingAfter, sent, current]

theorem keepsTimer_cancel (environment : Environment) (item : UploadWorkItem Header Item Ack) :
    let outcome := item.cancel protocol environment
    KeepsTimer item.toWorkItem outcome.item.toWorkItem outcome.pendingAfter := by
  simp only [cancel, sendCancelAndFinish, KeepsTimer]
  cases sent : environment.sent <;> simp [Effect.pendingAfter, sent]

theorem keepsTimer_processMessage (environment : Environment) (message : Message)
    (item : UploadWorkItem Header Item Ack) :
    let outcome := item.processMessage protocol environment message
    KeepsTimer item.toWorkItem outcome.item.toWorkItem outcome.pendingAfter := by
  simp only [processMessage]
  generalize protocol.dispatched item.toWorkItem message = received
  split
  · simp only [processRead]
    split
    · simp [KeepsTimer]
    · split
      · simp [KeepsTimer, Effect.pendingAfter]
      · simp only [sendItem]
        split
        · simp [KeepsTimer, Effect.pendingAfter]
        · cases sent : environment.sent <;> simp [KeepsTimer, Effect.pendingAfter, sent]
  · simp [processAck, KeepsTimer, Effect.pendingAfter]
  · simp [KeepsTimer]

end UploadWorkItem

private theorem GroundStation.UploadWorkItem.timers_handle (call : Call) (environment : Environment)
    (item : UploadWorkItem PlanId WaypointItem InspectionAck) :
    let outcome := workItemClass.handle call environment item
    call.Rearming item.toWorkItem ∧
        AddsTimer environment outcome.item.toWorkItem outcome.pendingAfter ∨
      KeepsTimer item.toWorkItem outcome.item.toWorkItem outcome.pendingAfter := by
  cases call with
  | start =>
    simp only [workItemClass, start, Call.Rearming]
    split
    · exact .inl ⟨trivial, UploadWorkItem.addsTimer_sendCount inspection environment rfl⟩
    · right
      simp [KeepsTimer]
  | cancel => exact .inr (UploadWorkItem.keepsTimer_cancel inspection environment item)
  | processTimeout =>
    simp only [workItemClass, processTimeout, Call.Rearming]
    split
    · right
      simp [KeepsTimer]
    next remaining =>
      cases item.step with
      | sendCount =>
        exact .inl ⟨by omega, UploadWorkItem.addsTimer_sendCount inspection environment rfl⟩
      | sendItems =>
        right
        simp [KeepsTimer]
  | processMessage message =>
    exact .inr (UploadWorkItem.keepsTimer_processMessage inspection environment message item)

private theorem RoboticVehicle.UploadWorkItem.timers_handle {Header Item Ack : Type}
    (protocol : ListProtocol Header Item Ack) (call : Call) (environment : Environment)
    (item : UploadWorkItem Header Item Ack) :
    let outcome := (workItemClass protocol).handle call environment item
    call.Rearming item.toWorkItem ∧
        AddsTimer environment outcome.item.toWorkItem outcome.pendingAfter ∨
      KeepsTimer item.toWorkItem outcome.item.toWorkItem outcome.pendingAfter := by
  cases call with
  | start =>
    refine .inl ⟨trivial, ?_⟩
    simp only [workItemClass, start]
    split
    · exact UploadWorkItem.addsTimer_sendCount protocol environment rfl
    · split
      · exact UploadWorkItem.addsTimer_sendCount protocol environment rfl
      · simp [AddsTimer, Effect.pendingAfter]
  | cancel => exact .inr (UploadWorkItem.keepsTimer_cancel protocol environment item)
  | processTimeout =>
    right
    simp [workItemClass, processTimeout, KeepsTimer]
  | processMessage message =>
    exact .inr (UploadWorkItem.keepsTimer_processMessage protocol environment message item)

private theorem RoboticVehicle.DownloadWorkItem.timers_handle (call : Call)
    (environment : Environment) (item : DownloadWorkItem) :
    let outcome := workItemClass.handle call environment item
    call.Rearming item.toWorkItem ∧
        AddsTimer environment outcome.item.toWorkItem outcome.pendingAfter ∨
      KeepsTimer item.toWorkItem outcome.item.toWorkItem outcome.pendingAfter := by
  cases call with
  | start =>
    simp only [workItemClass, start, Call.Rearming]
    split
    · right
      simp [KeepsTimer]
    · left
      cases sent : environment.sent <;> simp [requestItem, AddsTimer, Effect.pendingAfter, sent]
  | cancel =>
    right
    simp only [workItemClass, cancel, sendCancelAndFinish, KeepsTimer]
    cases sent : environment.sent <;> simp [Effect.pendingAfter, sent]
  | processTimeout =>
    simp only [workItemClass, processTimeout, Call.Rearming]
    split
    · right
      simp [KeepsTimer]
    next remaining =>
      left
      refine ⟨by omega, ?_⟩
      cases sent : environment.sent <;> simp [requestItem, AddsTimer, Effect.pendingAfter, sent]
  | processMessage message =>
    right
    simp only [workItemClass, processMessage]
    generalize inspection.dispatched item.toWorkItem message = received
    split
    · simp only [processItem]
      split <;> cases sent : environment.sent <;>
        simp [requestItem, KeepsTimer, Effect.pendingAfter, sent]
    · simp [KeepsTimer]

namespace SendWorkItem

private theorem addsTimer_handle (environment : Environment) {call : Call} {item : SendWorkItem}
    (rearming : call.Rearming item.toWorkItem) :
    let outcome := workItemClass.handle call environment item
    AddsTimer environment outcome.item.toWorkItem outcome.pendingAfter := by
  cases call with
  | start =>
    simp only [workItemClass, start, sendCommand, AddsTimer]
    cases sent : environment.sent <;> simp [Effect.pendingAfter, sent]
  | processTimeout =>
    have remaining : ¬item.retriesDone ≥ retries := by
      unfold Call.Rearming at rearming
      omega
    simp only [workItemClass, processTimeout, remaining, if_false, sendCommand, AddsTimer]
    cases sent : environment.sent <;> simp [Effect.pendingAfter, sent]
  | cancel | processMessage => cases rearming

private theorem keepsTimer_handle (environment : Environment) {call : Call} {item : SendWorkItem}
    (resting : ¬call.Rearming item.toWorkItem) :
    let outcome := workItemClass.handle call environment item
    KeepsTimer item.toWorkItem outcome.item.toWorkItem outcome.pendingAfter ∨
      ReplacesTimer environment item.toWorkItem outcome.item.toWorkItem outcome.pendingAfter := by
  cases call with
  | start => exact absurd trivial resting
  | cancel =>
    left
    simp [workItemClass, cancel, KeepsTimer, Effect.pendingAfter]
  | processTimeout =>
    have exhausted : item.retriesDone ≥ retries := by
      unfold Call.Rearming at resting
      omega
    left
    simp [workItemClass, processTimeout, exhausted, KeepsTimer]
  | processMessage message =>
    simp only [workItemClass, processMessage]
    generalize dispatched item.toWorkItem message = received
    split
    next commandAck =>
      simp only [processCommandAck]
      split
      · left
        simp [KeepsTimer]
      · split
        · right
          cases item.callback <;> simp [ReplacesTimer, report, Effect.pendingAfter]
        · left
          simp [KeepsTimer, Effect.pendingAfter]
    · left
      simp [KeepsTimer]

end SendWorkItem

namespace Kind

/-- The pending timers of the item are none or the one in its cookie, and none once the item is
destroyed. -/
def Owned (kind : Kind) (life : Life kind.State) : Prop :=
  (life.pending = [] ∨ life.pending = [(kind.workItemClass.base life.item).cookie]) ∧
    (life.destroyed = true → life.pending = [])

/-- An expired timer is followed by another one, if sending succeeds. -/
def Resends : (kind : Kind) → kind.State → Prop
  | inspectionUpload => fun item => item.retriesDone < retries ∧ item.step = .sendCount
  | inspectionDownload | checklistDownload | alarmDownload | hlActionDownload
  | vehicleInspectionDownload | commandSend => fun item => item.retriesDone < retries
  | vehicleInspectionUpload | vehicleChecklistUpload | vehicleAlarmUpload
  | vehicleHLActionUpload => fun _ => False

/-- A call that adds a timer comes when no timer of the item is pending. After the destructor it
leaves none. -/
def RearmsFree (kind : Kind) (taken : kind.Step) : Prop :=
  match taken.action with
  | .call call environment =>
    (call.Rearming (kind.workItemClass.base taken.before.item) → taken.before.pending = []) ∧
      (taken.before.destroyed = true → kind.Resends taken.before.item → environment.sent = false)
  | _ => True

private theorem timers_handle {kind : Kind} (transfer : kind ≠ .commandSend) (call : Call)
    (environment : Environment) (item : kind.State) :
    let outcome := kind.workItemClass.handle call environment item
    let before := kind.workItemClass.base item
    let after := kind.workItemClass.base outcome.item
    call.Rearming before ∧ AddsTimer environment after outcome.pendingAfter ∨
      KeepsTimer before after outcome.pendingAfter := by
  cases kind with
  | inspectionUpload => exact GroundStation.UploadWorkItem.timers_handle call environment item
  | inspectionDownload | checklistDownload | alarmDownload | hlActionDownload =>
    exact GroundStation.DownloadWorkItem.timers_handle _ call environment item
  | vehicleInspectionUpload | vehicleChecklistUpload | vehicleAlarmUpload
  | vehicleHLActionUpload =>
    exact RoboticVehicle.UploadWorkItem.timers_handle _ call environment item
  | vehicleInspectionDownload =>
    exact RoboticVehicle.DownloadWorkItem.timers_handle call environment item
  | commandSend => exact absurd rfl transfer

end Kind

theorem AddsTimer.owned {environment : Environment} {after : WorkItem}
    {pendingAfter : List Cookie → List Cookie} (adds : AddsTimer environment after pendingAfter) :
    pendingAfter [] = [] ∨ pendingAfter [] = [after.cookie] := by
  rcases adds.2 [] with added | removed
  · right
    rw [added, adds.1, List.nil_append]
  · left
    rw [removed]
    simp

theorem KeepsTimer.owned {before after : WorkItem} {pendingAfter : List Cookie → List Cookie}
    (keeps : KeepsTimer before after pendingAfter) {pending : List Cookie}
    (owned : pending = [] ∨ pending = [before.cookie]) :
    pendingAfter pending = [] ∨ pendingAfter pending = [after.cookie] := by
  rw [keeps.1]
  rcases keeps.2 pending with same | removed
  · rwa [same]
  · left
    rw [removed]
    rcases owned with none | one
    · simp [none]
    · simp [one]

theorem KeepsTimer.none {before after : WorkItem} {pendingAfter : List Cookie → List Cookie}
    (keeps : KeepsTimer before after pendingAfter) : pendingAfter [] = [] := by
  rcases keeps.2 [] with same | removed
  · exact same
  · rw [removed, List.filter_nil]

theorem ReplacesTimer.owned {environment : Environment} {before after : WorkItem}
    {pendingAfter : List Cookie → List Cookie}
    (replaces : ReplacesTimer environment before after pendingAfter) {pending : List Cookie}
    (owned : pending = [] ∨ pending = [before.cookie]) :
    pendingAfter pending = [after.cookie] := by
  rw [replaces.2 pending, replaces.1]
  rcases owned with none | one
  · simp [none]
  · simp [one]

theorem AddsTimer.subset {environment : Environment} {after : WorkItem}
    {pendingAfter : List Cookie → List Cookie} (adds : AddsTimer environment after pendingAfter)
    {pending : List Cookie} :
    ∀ cookie ∈ pendingAfter pending, cookie ∈ environment.cookie :: pending := by
  intro cookie member
  rcases adds.2 pending with added | removed
  · rw [added] at member
    simpa [or_comm] using member
  · rw [removed] at member
    simpa [or_comm] using (List.mem_filter.mp member).1

theorem KeepsTimer.subset {environment : Environment} {before after : WorkItem}
    {pendingAfter : List Cookie → List Cookie} (keeps : KeepsTimer before after pendingAfter)
    {pending : List Cookie} :
    ∀ cookie ∈ pendingAfter pending, cookie ∈ environment.cookie :: pending := by
  intro cookie member
  apply List.mem_cons_of_mem
  rcases keeps.2 pending with same | removed
  · rwa [same] at member
  · rw [removed] at member
    exact (List.mem_filter.mp member).1

theorem ReplacesTimer.subset {environment : Environment} {before after : WorkItem}
    {pendingAfter : List Cookie → List Cookie}
    (replaces : ReplacesTimer environment before after pendingAfter) {pending : List Cookie} :
    ∀ cookie ∈ pendingAfter pending, cookie ∈ environment.cookie :: pending := by
  intro cookie member
  rw [replaces.2 pending] at member
  rcases List.mem_append.mp member with kept | new
  · exact List.mem_cons_of_mem _ (List.mem_filter.mp kept).1
  · rw [List.mem_singleton.mp new]
    exact List.mem_cons_self

/-- A second timer under a new cookie leaves the first one without an owner. -/
theorem AddsTimer.free {environment : Environment} {after : WorkItem}
    {pendingAfter : List Cookie → List Cookie} (adds : AddsTimer environment after pendingAfter)
    {pending : List Cookie} (fresh : environment.cookie ∉ pending)
    (owned : pendingAfter pending = [] ∨ pendingAfter pending = [after.cookie]) : pending = [] := by
  rw [adds.1] at owned
  have others : pending.filter (· ≠ environment.cookie) = pending := by
    apply List.filter_eq_self.mpr
    intro cookie member
    simpa using fun same : cookie = environment.cookie => fresh (same ▸ member)
  rcases adds.2 pending with added | removed
  · rw [added] at owned
    simpa using owned
  · rw [removed, List.filter_append, others] at owned
    rcases owned with none | one
    · simpa using none
    · have member : environment.cookie ∈ pending := by
        have inside : environment.cookie ∈ [environment.cookie] := by simp
        rw [← one] at inside
        simpa using inside
      exact absurd member fresh

namespace Kind
variable {kind : Kind} {before after : Life kind.State} {event : LifeEvent}
  {effects : List (Effect kind.Report)}

/-- The invariant of the ten list transfers. A selected timer has left the table, and before
`start()` there is none. -/
structure Single (kind : Kind) (life : Life kind.State) : Prop where
  owned : life.pending = [] ∨ life.pending = [(kind.workItemClass.base life.item).cookie]
  taken : life.selected = true → life.pending = []
  queued : (kind.workItemClass.base life.item).started = false →
    life.pending = [] ∧ life.selected = false

theorem Single.free {life : Life kind.State} (single : kind.Single life) {call : Call}
    (callable : kind.workItemClass.callable call life = true)
    (rearming : call.Rearming (kind.workItemClass.base life.item)) : life.pending = [] := by
  cases call with
  | start => exact (single.queued (by simpa [WorkItemClass.callable] using callable)).1
  | processTimeout => exact single.taken callable
  | cancel | processMessage => cases rearming

private theorem removed_of_select {cookie own : Cookie} {pending : List Cookie}
    (owned : pending = [] ∨ pending = [own]) (expired : cookie ∈ pending) :
    pending.filter (· ≠ cookie) = [] := by
  rcases owned with rfl | rfl
  · cases expired
  · simp [List.mem_singleton.mp expired]

private theorem removed_of_destroy {own : Cookie} {pending : List Cookie}
    (owned : pending = [] ∨ pending = [own]) : pending.filter (· ≠ own) = [] := by
  rcases owned with rfl | rfl <;> simp

theorem single_step (transfer : kind ≠ .commandSend)
    (lived : kind.workItemClass.Lived before event after effects) (single : kind.Single before) :
    kind.Single after := by
  cases lived with
  | @call call environment callable fresh =>
    have timers := kind.timers_handle transfer call environment before.item
    refine ⟨?_, ?_, ?_⟩
    · rcases timers with ⟨rearming, adds⟩ | keeps
      · have none : before.pending = [] := single.free callable rearming
        simp only [WorkItemClass.afterCall, none]
        exact adds.owned
      · exact keeps.owned single.owned
    · intro selected
      simp only [WorkItemClass.afterCall] at selected ⊢
      split at selected
      · cases selected
      next other =>
        have none : before.pending = [] := single.taken selected
        rw [none]
        rcases timers with ⟨rearming, _⟩ | keeps
        · cases call with
          | start =>
            have idle := (single.queued (by simpa [WorkItemClass.callable] using callable)).2
            rw [idle] at selected
            cases selected
          | processTimeout => exact absurd rfl other
          | cancel | processMessage => cases rearming
        · exact keeps.none
    · intro queued
      obtain ⟨unstarted, earlier⟩ := kind.started_of_handle call environment queued
      obtain ⟨none, idle⟩ := single.queued earlier
      simp only [WorkItemClass.afterCall, none, idle, ite_self, and_true]
      rcases timers with ⟨rearming, _⟩ | keeps
      · cases call with
        | start => exact absurd rfl unstarted
        | processTimeout =>
          rw [WorkItemClass.callable, idle] at callable
          cases callable
        | cancel | processMessage => cases rearming
      · exact keeps.none
  | select expired idle =>
    have removed := removed_of_select single.owned expired
    refine ⟨.inl removed, fun _ => removed, ?_⟩
    intro queued
    rw [(single.queued queued).1] at expired
    cases expired
  | destroy =>
    have removed := removed_of_destroy single.owned
    exact ⟨.inl removed, fun _ => removed, fun queued => ⟨removed, (single.queued queued).2⟩⟩

/-- A fresh cookie differs from the pending ones. -/
structure OwnedFresh (kind : Kind) (life : Life kind.State) : Prop where
  owned : kind.Owned life
  single : kind ≠ .commandSend → kind.Single life
  used : ∀ cookie ∈ life.pending, cookie ∈ life.used

private theorem subset_pendingAfter (kind : Kind) (call : Call) (environment : Environment)
    (item : kind.State) (pending : List Cookie) :
    ∀ cookie ∈ (kind.workItemClass.handle call environment item).pendingAfter pending,
      cookie ∈ environment.cookie :: pending := by
  by_cases transfer : kind = .commandSend
  · subst transfer
    by_cases rearming : call.Rearming item.toWorkItem
    · exact (SendWorkItem.addsTimer_handle environment rearming).subset
    · rcases SendWorkItem.keepsTimer_handle environment rearming with keeps | replaces
      · exact keeps.subset
      · exact replaces.subset
  · rcases kind.timers_handle transfer call environment item with ⟨_, adds⟩ | keeps
    · exact adds.subset
    · exact keeps.subset

/-- A callback that runs after the destructor. -/
private theorem pendingAfter_processTimeout (kind : Kind) (environment : Environment)
    (item : kind.State) :
    (kind.workItemClass.handle .processTimeout environment item).pendingAfter [] = [] ↔
      (kind.Resends item → environment.sent = false) := by
  cases kind with
  | inspectionUpload =>
    simp only [workItemClass, GroundStation.UploadWorkItem.workItemClass,
      GroundStation.UploadWorkItem.processTimeout, Resends]
    split
    next exhausted => simp [Nat.not_lt.mpr exhausted]
    next remaining =>
      cases step : item.step <;> cases sent : environment.sent <;>
        simp [UploadWorkItem.sendCount, Effect.pendingAfter, sent, Nat.lt_of_not_le remaining]
  | inspectionDownload | checklistDownload | alarmDownload | hlActionDownload =>
    simp only [workItemClass, GroundStation.DownloadWorkItem.workItemClass,
      GroundStation.DownloadWorkItem.processTimeout, Resends]
    split
    next exhausted => simp [Nat.not_lt.mpr exhausted]
    next remaining =>
      cases item.step <;> cases sent : environment.sent <;>
        simp [GroundStation.DownloadWorkItem.requestList,
          GroundStation.DownloadWorkItem.requestItem, Effect.pendingAfter, sent,
          Nat.lt_of_not_le remaining]
  | vehicleInspectionUpload | vehicleChecklistUpload | vehicleAlarmUpload
  | vehicleHLActionUpload =>
    simp [workItemClass, RoboticVehicle.UploadWorkItem.workItemClass,
      RoboticVehicle.UploadWorkItem.processTimeout, Resends]
  | vehicleInspectionDownload =>
    simp only [workItemClass, RoboticVehicle.DownloadWorkItem.workItemClass,
      RoboticVehicle.DownloadWorkItem.processTimeout, Resends]
    split
    next exhausted => simp [Nat.not_lt.mpr exhausted]
    next remaining =>
      cases sent : environment.sent <;>
        simp [RoboticVehicle.DownloadWorkItem.requestItem, Effect.pendingAfter, sent,
          Nat.lt_of_not_le remaining]
  | commandSend =>
    simp only [workItemClass, SendWorkItem.workItemClass, SendWorkItem.processTimeout, Resends]
    split
    next exhausted => simp [Nat.not_lt.mpr exhausted]
    next remaining =>
      cases sent : environment.sent <;>
        simp [SendWorkItem.sendCommand, Effect.pendingAfter, sent, Nat.lt_of_not_le remaining]

/-- Before the destructor a list transfer is always in order, and a command where it adds a timer
to none. -/
private theorem owned_iff_free (sound : kind.OwnedFresh before) {call : Call}
    {environment : Environment} (callable : kind.workItemClass.callable call before = true)
    (fresh : environment.cookie ∉ before.used) (alive : before.destroyed = false) :
    kind.Owned (kind.workItemClass.afterCall call environment before) ↔
      (call.Rearming (kind.workItemClass.base before.item) → before.pending = []) := by
  have living (destroyed : (kind.workItemClass.afterCall call environment before).destroyed = true) :
      (kind.workItemClass.afterCall call environment before).pending = [] := by
    simp only [WorkItemClass.afterCall, alive] at destroyed
    cases destroyed
  by_cases transfer : kind = .commandSend
  · subst transfer
    by_cases rearming : call.Rearming before.item.toWorkItem
    · have adds := SendWorkItem.addsTimer_handle environment rearming
      have unused : environment.cookie ∉ before.pending := fun member =>
        fresh (sound.used _ member)
      constructor
      · exact fun owned _ => adds.free unused owned.1
      · intro free
        have none : before.pending = [] := free rearming
        refine ⟨?_, living⟩
        simp only [WorkItemClass.afterCall, none]
        exact adds.owned
    · refine iff_of_true ⟨?_, living⟩ (fun add => absurd add rearming)
      rcases SendWorkItem.keepsTimer_handle environment rearming with keeps | replaces
      · exact keeps.owned sound.owned.1
      · exact .inr (replaces.owned sound.owned.1)
  · have single := sound.single transfer
    have next := single_step transfer (.call callable fresh) single
    exact iff_of_true ⟨next.owned, living⟩ (single.free callable)

private theorem owned_iff_rearmsFree {taken : kind.Step}
    (legal : kind.workItemClass.machineWithLateTimeouts.Legal taken)
    (sound : kind.OwnedFresh taken.before) : kind.Owned taken.after ↔ kind.RearmsFree taken := by
  obtain ⟨before, event, after, effects⟩ := taken
  obtain ⟨late, lived⟩ := WorkItemClass.lived_late legal
  cases lived with
  | @call call environment callable fresh =>
    cases destroyed : before.destroyed with
    | false =>
      simp only [RearmsFree, destroyed, Bool.false_eq_true, false_imp_iff, and_true]
      exact owned_iff_free sound callable fresh destroyed
    | true =>
      have none : before.pending = [] := sound.owned.2 destroyed
      cases call with
      | processTimeout =>
        simp only [RearmsFree, Owned, WorkItemClass.afterCall, destroyed, none, implies_true,
          true_and, forall_const, pendingAfter_processTimeout]
        exact ⟨And.right, fun resting => ⟨.inl resting, resting⟩⟩
      | start | cancel | processMessage => cases late destroyed
  | select expired idle =>
    have removed := removed_of_select sound.owned.1 expired
    exact iff_of_true ⟨.inl removed, fun _ => removed⟩ trivial
  | destroy =>
    have removed := removed_of_destroy sound.owned.1
    exact iff_of_true ⟨.inl removed, fun _ => removed⟩ trivial

private theorem used_step (lived : kind.workItemClass.Lived before event after effects)
    (used : ∀ cookie ∈ before.pending, cookie ∈ before.used) :
    ∀ cookie ∈ after.pending, cookie ∈ after.used := by
  cases lived with
  | @call call environment callable fresh =>
    intro cookie member
    rcases List.mem_cons.mp (kind.subset_pendingAfter call environment before.item before.pending
      cookie member) with new | old
    · rw [new]
      exact List.mem_cons_self
    · exact List.mem_cons_of_mem _ (used cookie old)
  | select => exact fun cookie member => used cookie (List.mem_filter.mp member).1
  | destroy => exact fun cookie member => used cookie (List.mem_filter.mp member).1

/-- The ten list transfers never have more than the timer in their cookie. All kinds own their
timers in exactly those lives in which `start()` and `process_timeout` find none of them pending
when they add one, and a `process_timeout` that comes after the destructor leaves none. -/
theorem timers_owned_iff (kind : Kind) {item : kind.State} {log : List kind.Step} {last : Life kind.State}
    (run : kind.workItemClass.machineWithLateTimeouts.Run { item := item } log last) :
    (kind ≠ .commandSend → ∀ taken ∈ log, taken.after.pending = [] ∨
        taken.after.pending = [(kind.workItemClass.base taken.after.item).cookie]) ∧
      ((∀ taken ∈ log, kind.Owned taken.after) ↔ ∀ taken ∈ log, kind.RearmsFree taken) := by
  have first : kind.Single { item := item } := ⟨.inl rfl, fun _ => rfl, fun _ => ⟨rfl, rfl⟩⟩
  constructor
  · intro transfer taken member
    have always := (run.invariant (fun taken legal =>
      single_step transfer (WorkItemClass.lived_late legal).2) first).2
    exact (always taken member).2.owned
  · have start : kind.OwnedFresh { item := item } :=
      ⟨⟨.inl rfl, fun _ => rfl⟩, fun _ => first, by simp⟩
    apply run.all_iff _ _ start
    · exact fun taken legal sound => owned_iff_rearmsFree legal sound
    · intro taken legal sound owned
      have lived := (WorkItemClass.lived_late legal).2
      exact ⟨owned, fun transfer => single_step transfer lived (sound.single transfer),
        used_step lived sound.used⟩

/-- A command is acknowledged as in progress while it waits in the queue, started, acknowledged
for good and destroyed: the first of its two timers survives it. A download is cancelled and
destroyed when its timer has been selected, and repeats its request all the same. -/
theorem timers_not_owned :
    ¬(∀ (item : commandSend.State) (log : List commandSend.Step) (last : Life commandSend.State),
      commandSend.workItemClass.Created item →
      commandSend.workItemClass.machine.Run { item := item } log last →
      ∀ taken ∈ log, commandSend.Owned taken.after) ∧
    ¬∀ (item : inspectionDownload.State) (log : List inspectionDownload.Step)
      (last : Life inspectionDownload.State), inspectionDownload.workItemClass.Created item →
      inspectionDownload.workItemClass.machineWithLateTimeouts.Run { item := item } log last →
      ∀ taken ∈ log, inspectionDownload.Owned taken.after := by
  constructor
  · intro owned
    let item := SendWorkItem.create ⟨⟨245, 190⟩, ⟨1, 1⟩⟩ { command := 400 } true
    let ack (result : UInt8) : Message :=
      ⟨⟨1, 1⟩, ⟨245, 190⟩, .commandAck { command := 400, result := result }⟩
    let events : List LifeEvent := [.call (.processMessage (ack mavResultInProgress)) ⟨true, 1⟩,
      .call .start ⟨true, 2⟩, .call (.processMessage (ack 0)) ⟨true, 3⟩, .destroy]
    obtain ⟨last, run⟩ := commandSend.workItemClass.machine.run_log
      { item := item } events (by decide)
    obtain ⟨taken, member, destroyed, pending⟩ :
        ∃ taken ∈ commandSend.workItemClass.machine.log { item := item } events,
          taken.after.destroyed = true ∧ taken.after.pending = [1] := by decide
    have none := (owned item _ last ⟨_, _, _, rfl⟩ run taken member).2 destroyed
    rw [pending] at none
    cases none
  · intro owned
    let item := GroundStation.DownloadWorkItem.create inspection ⟨⟨245, 190⟩, ⟨1, 1⟩⟩ true
    let events : List LifeEvent := [.call .start ⟨true, 1⟩, .select 1, .call .cancel ⟨true, 2⟩,
      .destroy, .call .processTimeout ⟨true, 3⟩]
    obtain ⟨last, run⟩ := inspectionDownload.workItemClass.machineWithLateTimeouts.run_log
      { item := item } events (by decide)
    obtain ⟨taken, member, destroyed, pending⟩ :
        ∃ taken ∈ inspectionDownload.workItemClass.machineWithLateTimeouts.log { item := item }
          events, taken.after.destroyed = true ∧ taken.after.pending = [3] := by decide
    have none := (owned item _ last ⟨_, _, rfl⟩ run taken member).2 destroyed
    rw [pending] at none
    cases none

/-- A command that times out once and is then acknowledged, and whose timer expires again just
before it is destroyed. -/
theorem timers_owned_iff_repeated :
    let item : commandSend.State :=
      SendWorkItem.create ⟨⟨245, 190⟩, ⟨1, 1⟩⟩ { command := 400 } true
    let ack : Message := ⟨⟨1, 1⟩, ⟨245, 190⟩, .commandAck { command := 400 }⟩
    let events : List LifeEvent := [.call .start ⟨true, 1⟩, .select 1,
      .call .processTimeout ⟨true, 2⟩, .select 2, .call (.processMessage ack) ⟨true, 3⟩, .destroy,
      .call .processTimeout ⟨false, 4⟩]
    let log := commandSend.workItemClass.machineWithLateTimeouts.log { item := item } events
    log.length = 7 ∧ ((∀ taken ∈ log, commandSend.Owned taken.after) ↔
      ∀ taken ∈ log, commandSend.RearmsFree taken) := by
  intro item ack events log
  obtain ⟨last, run⟩ := commandSend.workItemClass.machineWithLateTimeouts.run_log
    { item := item } events (by decide)
  exact ⟨by decide, (timers_owned_iff commandSend run).2⟩

end Kind
end PilotingMavsdk
