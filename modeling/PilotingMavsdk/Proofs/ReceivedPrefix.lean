import PilotingMavsdk.Proofs.Finality

/-! What a list downloader has received. It appends every ITEM and takes its next sequence number
from the last one, so the list is the expected prefix as long as the items come in order. -/

namespace PilotingMavsdk
open Library

section
variable {Header Item Ack : Type} (protocol : ListProtocol Header Item Ack)

/-- A READ that goes out asks for an item below the bound. -/
@[simp] def Effect.ReadsBelow (bound : Nat) : Effect (Result × ItemList Header Item) → Prop
  | .sendMessage message true =>
    ∀ seq, message.payload = protocol.payload (.read seq) → seq.toNat < bound
  | _ => True

/-- A reported success comes with the items from zero up to the count. -/
@[simp] def Effect.SucceedsWith (count : Nat) : Effect (Result × ItemList Header Item) → Prop
  | .callback (.success, list) =>
    list.items.length = count ∧ Indexed protocol.position list.items
  | _ => True

private theorem succeedsWith_of_unreported {effects : List (Effect (Result × ItemList Header Item))}
    (count : Nat) (unreported : ∀ report, .callback report ∉ effects) :
    ∀ effect ∈ effects, effect.SucceedsWith protocol count := by
  intro effect member
  cases effect with
  | callback report => exact absurd member (unreported report)
  | sendMessage | addTimeout | refreshTimeout | removeTimeout => trivial

end

namespace GroundStation.DownloadWorkItem
variable {Header Item Ack : Type} (protocol : ListProtocol Header Item Ack)

structure ReceivedPrefix (item : DownloadWorkItem Header Item) : Prop where
  length : item.list.items.length = item.nextSequence
  indexed : Indexed protocol.position item.list.items
  below : item.step = .requestItem → item.nextSequence < item.expectedCount

/-- The count that the transfer goes by once the call is taken. -/
def announced (item : DownloadWorkItem Header Item) : Call → Nat
  | .processMessage message =>
    match protocol.dispatched item.toWorkItem message with
    | some (.count _ count) => count.toNat
    | _ => item.expectedCount
  | _ => item.expectedCount

/-- What is asked of a call: a received prefix unless the item is done, no READ at or beyond the
announced count, and with `Success` exactly the announced items. -/
@[mk_iff] structure Correct (call : Call) (item : DownloadWorkItem Header Item)
    (outcome : After Header Item) : Prop where
  received : outcome.item.done = true ∨ outcome.item.ReceivedPrefix protocol
  reads : item.done = false → outcome.item.step = .requestItem →
    ∀ effect ∈ outcome.effects, effect.ReadsBelow protocol outcome.item.expectedCount
  success : ∀ effect ∈ outcome.effects, effect.SucceedsWith protocol (item.announced protocol call)

/-- An ITEM is the next one and a COUNT comes before the first ITEM, unless the answer cannot be
sent or the transfer ends here without a callback to tell. -/
def InOrder (call : Call) (environment : Environment) (item : DownloadWorkItem Header Item) :
    Prop :=
  match call with
  | .processMessage message => item.done = false →
    match protocol.dispatched item.toWorkItem message with
    | some (.count _ count) => item.list.items = [] ∨ environment.sent = false ∨
      count = 0 ∧ item.callback = false
    | some (.item received) => protocol.position received = item.list.items.length ∨
      environment.sent = false ∨
      item.nextSequence + 1 = item.expectedCount ∧ item.callback = false
    | _ => True
  | _ => True

variable {protocol}

section
variable {call : Call} {item : DownloadWorkItem Header Item}

private theorem receivedPrefix_retries {requesting : DownloadWorkItem Header Item} {count : Nat} :
    ReceivedPrefix protocol { requesting with retriesDone := count } ↔
      requesting.ReceivedPrefix protocol :=
  ⟨fun received => ⟨received.length, received.indexed, received.below⟩,
    fun received => ⟨received.length, received.indexed, received.below⟩⟩

private theorem correct_timer_iff {timer : Effect (Report Header Item)} (plain : timer.timer = true)
    {outcome : After Header Item} :
    Correct protocol call item (outcome.after [timer]) ↔ Correct protocol call item outcome := by
  cases timer with
  | sendMessage | callback => cases plain
  | addTimeout | refreshTimeout | removeTimeout => simp [correct_iff]

private theorem correct_requestItem_iff (environment : Environment)
    {requesting : DownloadWorkItem Header Item} (alive : requesting.done = false) :
    Correct protocol call item (requesting.requestItem protocol environment) ↔
      environment.sent = false ∨ requesting.ReceivedPrefix protocol := by
  cases sent : environment.sent with
  | false =>
    cases callback : requesting.callback <;>
      simp [correct_iff, requestItem, Outcome.sending, connectionError, callbackAndReset, sent,
        callback]
  | true =>
    simp only [requestItem, Outcome.sending_sent _ _ _ _ sent, Bool.true_eq_false, false_or]
    constructor
    · intro correct
      rcases correct.received with done | received
      · simp [alive] at done
      · exact receivedPrefix_retries.mp received
    · intro received
      refine ⟨.inr (receivedPrefix_retries.mpr received), ?_, by simp⟩
      intro _ step
      have below := received.below step
      have small := Nat.mod_le requesting.nextSequence (2 ^ 16)
      have asked : requesting.nextSequence % 2 ^ 16 < requesting.expectedCount := by omega
      simpa [Sender.pack] using asked

private theorem correct_requestList (environment : Environment)
    {requesting : DownloadWorkItem Header Item} (received : requesting.ReceivedPrefix protocol) :
    Correct protocol call item (requesting.requestList protocol environment) := by
  cases sent : environment.sent with
  | false =>
    cases callback : requesting.callback <;>
      simp [correct_iff, requestList, Outcome.sending, connectionError, callbackAndReset, sent,
        callback]
  | true =>
    simp [correct_iff, requestList, Outcome.sending, sent, Sender.pack,
      receivedPrefix_retries.mpr received]

private theorem correct_processCount_iff {environment : Environment} {message : Message}
    {header : Header}
    {count : UInt16} (alive : item.done = false) (received : item.ReceivedPrefix protocol)
    (counted : protocol.dispatched item.toWorkItem message = some (.count header count)) :
    Correct protocol (.processMessage message) item
        (item.processCount protocol environment header count) ↔
      item.list.items = [] ∨ environment.sent = false ∨ count = 0 ∧ item.callback = false := by
  simp only [processCount]
  split
  next zero =>
    cases sent : environment.sent <;> cases callback : item.callback <;>
      simp [correct_iff, sendAckAndFinish, Outcome.sending, callbackAndReset, sent, callback,
        Sender.pack, announced, counted, zero, received.indexed]
  next some =>
    rw [correct_timer_iff rfl, correct_requestItem_iff environment (by exact alive)]
    have positive : 0 < count.toNat := by
      have apart : count.toNat ≠ 0 := fun zero => some (UInt16.toNat_inj.mp zero)
      omega
    simp only [some, false_and, or_false]
    constructor
    · rintro (failed | restarted)
      · exact .inr failed
      · exact .inl (List.length_eq_zero_iff.mp restarted.length)
    · rintro (empty | failed)
      · exact .inr ⟨by simp [empty], received.indexed, fun _ => positive⟩
      · exact .inl failed

private theorem correct_processItem_iff {environment : Environment} {message : Message}
    {next : Item} (alive : item.done = false) (received : item.ReceivedPrefix protocol)
    (arrived : protocol.dispatched item.toWorkItem message = some (.item next)) :
    Correct protocol (.processMessage message) item
        (item.processItem protocol environment next) ↔
      protocol.position next = item.list.items.length ∨ environment.sent = false ∨
        item.nextSequence + 1 = item.expectedCount ∧ item.callback = false := by
  simp only [processItem]
  split
  next last =>
    cases sent : environment.sent <;> cases callback : item.callback <;>
      simp [correct_iff, sendAckAndFinish, Outcome.sending, callbackAndReset, sent, callback,
        Sender.pack, announced, arrived, received.length, received.indexed, last,
        indexed_append_singleton]
  next more =>
    rw [correct_timer_iff rfl, correct_requestItem_iff environment (by exact alive)]
    simp only [more, false_and, or_false]
    constructor
    · rintro (failed | extended)
      · exact .inr failed
      · exact .inl (indexed_append_singleton.mp extended.indexed).2
    · rintro (place | failed)
      · have number : (protocol.seq next).toNat = item.list.items.length := place
        refine .inr ⟨?_, indexed_append_singleton.mpr ⟨received.indexed, place⟩, ?_⟩
        · simp [number]
        · intro step
          have below := received.below step
          have length := received.length
          simp only [number]
          omega
      · exact .inl failed

private theorem correct_cancel (environment : Environment) :
    Correct protocol call item (item.cancel protocol environment) := by
  cases sent : environment.sent <;> cases callback : item.callback <;>
    simp [correct_iff, cancel, sendCancelAndFinish, Outcome.sending, callbackAndReset, sent,
      callback, Sender.pack]

private theorem correct_processTimeout (environment : Environment) (alive : item.done = false)
    (received : item.ReceivedPrefix protocol) :
    Correct protocol call item (item.processTimeout protocol environment) := by
  simp only [processTimeout]
  split
  · cases callback : item.callback <;> simp [correct_iff, callbackAndReset, callback]
  · cases step : item.step with
    | requestItem =>
      apply (correct_timer_iff rfl).mpr
      refine (correct_requestItem_iff environment (by exact alive)).mpr (.inr ?_)
      exact ⟨received.length, received.indexed, fun _ => received.below step⟩
    | requestList =>
      refine (correct_timer_iff rfl).mpr (correct_requestList environment ?_)
      refine ⟨received.length, received.indexed, ?_⟩
      intro other
      cases other

end

section
variable {item : DownloadWorkItem Header Item}

theorem correct_iff_inOrder {call : Call} (environment : Environment) (running : call ≠ .start)
    (alive : item.done = false) (received : item.ReceivedPrefix protocol) :
    Correct protocol call item ((workItemClass protocol).handle call environment item) ↔
      item.InOrder protocol call environment := by
  cases call with
  | start => exact absurd rfl running
  | cancel => exact iff_of_true (correct_cancel environment) trivial
  | processTimeout => exact iff_of_true (correct_processTimeout environment alive received) trivial
  | processMessage message =>
    have unchanged : Correct protocol (.processMessage message) item ⟨item, []⟩ :=
      ⟨.inr received, by simp, by simp⟩
    simp only [workItemClass, processMessage, InOrder, alive, forall_const]
    cases arrived : protocol.dispatched item.toWorkItem message with
    | none => exact iff_of_true unchanged trivial
    | some content =>
      cases content with
      | count header count => exact correct_processCount_iff alive received arrived
      | item next => exact correct_processItem_iff alive received arrived
      | request | read | ack => exact iff_of_true unchanged trivial

private theorem correct_of_done (call : Call) (environment : Environment) (finished : item.Finished)
    (done : item.done = true) :
    Correct protocol call item ((workItemClass protocol).handle call environment item) := by
  have reporting := reporting_handle protocol call environment item
  refine ⟨.inl (reporting.proceeds.done done), ?_,
    succeedsWith_of_unreported _ _ (reporting.unreported (finished done))⟩
  intro alive
  rw [done] at alive
  cases alive

theorem correct_start (environment : Environment) (sender : Sender) (callback : Bool) :
    Correct protocol .start (create protocol sender callback)
      ((workItemClass protocol).handle .start environment (create protocol sender callback)) := by
  refine (correct_timer_iff rfl).mpr (correct_requestList environment ⟨rfl, Indexed.nil, ?_⟩)
  intro other
  cases other

end
end GroundStation.DownloadWorkItem

namespace RoboticVehicle.DownloadWorkItem

structure ReceivedPrefix (item : DownloadWorkItem) : Prop where
  length : item.list.items.length = item.nextSequence
  indexed : Indexed inspection.position item.list.items
  below : item.nextSequence < item.expectedCount

/-- The same as for the ground station. The count is announced to the constructor. -/
@[mk_iff] structure Correct (item : DownloadWorkItem) (outcome : After) : Prop where
  received : outcome.item.done = true ∨ outcome.item.ReceivedPrefix
  reads : item.done = false →
    ∀ effect ∈ outcome.effects, effect.ReadsBelow inspection outcome.item.expectedCount
  success : ∀ effect ∈ outcome.effects, effect.SucceedsWith inspection item.expectedCount

def InOrder (call : Call) (environment : Environment) (item : DownloadWorkItem) : Prop :=
  match call with
  | .processMessage message => item.done = false →
    match inspection.dispatched item.toWorkItem message with
    | some (.item received) => inspection.position received = item.list.items.length ∨
      if item.nextSequence + 1 = item.expectedCount then item.callback = false
      else environment.sent = false
    | _ => True
  | _ => True

section
variable {item : DownloadWorkItem}

private theorem correct_timer_iff {timer : Effect Report} (plain : timer.timer = true)
    {outcome : After} :
    Correct item (outcome.after [timer]) ↔ Correct item outcome := by
  cases timer with
  | sendMessage | callback => cases plain
  | addTimeout | refreshTimeout | removeTimeout => simp [correct_iff]

private theorem correct_requestItem_iff (environment : Environment) {requesting : DownloadWorkItem}
    (alive : requesting.done = false) :
    Correct item (requesting.requestItem environment) ↔
      environment.sent = false ∨ requesting.ReceivedPrefix := by
  cases sent : environment.sent with
  | false =>
    cases callback : requesting.callback <;>
      simp [correct_iff, requestItem, Outcome.sending, connectionError, callbackAndReset, sent,
        callback]
  | true =>
    simp only [requestItem, Outcome.sending_sent _ _ _ _ sent, Bool.true_eq_false, false_or]
    constructor
    · intro correct
      rcases correct.received with done | received
      · simp [alive] at done
      · exact ⟨received.length, received.indexed, received.below⟩
    · intro received
      refine ⟨.inr ⟨received.length, received.indexed, received.below⟩, ?_, by simp⟩
      intro _
      have below := received.below
      have small := Nat.mod_le requesting.nextSequence (2 ^ 16)
      have asked : requesting.nextSequence % 2 ^ 16 < requesting.expectedCount := by omega
      simpa [Sender.pack] using asked

private theorem correct_processItem_iff {environment : Environment} {next : WaypointItem}
    (alive : item.done = false) (received : item.ReceivedPrefix) :
    Correct item (item.processItem environment next) ↔
      inspection.position next = item.list.items.length ∨
        if item.nextSequence + 1 = item.expectedCount then item.callback = false
        else environment.sent = false := by
  simp only [processItem]
  split
  next last =>
    cases callback : item.callback <;>
      simp [correct_iff, callbackAndReset, callback, received.length, received.indexed, last,
        indexed_append_singleton]
  next more =>
    rw [correct_timer_iff rfl, correct_requestItem_iff environment (by exact alive)]
    constructor
    · rintro (failed | extended)
      · exact .inr failed
      · exact .inl (indexed_append_singleton.mp extended.indexed).2
    · rintro (place | failed)
      · have number : next.seq.toNat = item.list.items.length := place
        refine .inr ⟨?_, indexed_append_singleton.mpr ⟨received.indexed, place⟩, ?_⟩
        · simp [number]
        · have below := received.below
          have length := received.length
          simp only [number]
          omega
      · exact .inl failed

theorem correct_iff_inOrder {call : Call} (environment : Environment) (running : call ≠ .start)
    (alive : item.done = false) (received : item.ReceivedPrefix) :
    Correct item (workItemClass.handle call environment item) ↔ item.InOrder call environment := by
  cases call with
  | start => exact absurd rfl running
  | cancel =>
    refine iff_of_true ?_ trivial
    cases sent : environment.sent <;> cases callback : item.callback <;>
      simp [correct_iff, workItemClass, cancel, sendCancelAndFinish, Outcome.sending,
        callbackAndReset, sent, callback, Sender.pack]
  | processTimeout =>
    refine iff_of_true ?_ trivial
    simp only [workItemClass, processTimeout]
    split
    · cases callback : item.callback <;> simp [correct_iff, callbackAndReset, callback]
    · apply (correct_timer_iff rfl).mpr
      refine (correct_requestItem_iff environment (by exact alive)).mpr (.inr ?_)
      exact ⟨received.length, received.indexed, received.below⟩
  | processMessage message =>
    have unchanged : Correct item ⟨item, []⟩ := ⟨.inr received, by simp, by simp⟩
    simp only [workItemClass, processMessage, InOrder, alive, forall_const]
    cases inspection.dispatched item.toWorkItem message with
    | none => exact iff_of_true unchanged trivial
    | some content =>
      cases content with
      | item next => exact correct_processItem_iff alive received
      | count | request | read | ack => exact iff_of_true unchanged trivial

private theorem correct_of_done (call : Call) (environment : Environment) (finished : item.Finished)
    (done : item.done = true) : Correct item (workItemClass.handle call environment item) := by
  have reporting := reporting_handle call environment item
  refine ⟨.inl (reporting.proceeds.done done), ?_,
    succeedsWith_of_unreported _ _ (reporting.unreported (finished done))⟩
  intro alive
  rw [done] at alive
  cases alive

theorem correct_start (environment : Environment) (sender : Sender) (count : UInt16)
    (callback : Bool) :
    Correct (create sender count callback)
      (workItemClass.handle .start environment (create sender count callback)) := by
  simp only [workItemClass, start]
  split
  next none =>
    cases callback <;>
      simp_all [correct_iff, callbackAndReset, create, Indexed.nil]
  next some =>
    apply (correct_timer_iff rfl).mpr
    refine (correct_requestItem_iff environment rfl).mpr (.inr ⟨rfl, Indexed.nil, ?_⟩)
    exact Nat.pos_of_ne_zero some

end
end RoboticVehicle.DownloadWorkItem

def LifeEvent.starts : LifeEvent → Bool
  | .call .start _ => true
  | _ => false

namespace Kind

/-- The five downloaders; nothing is asked of the other kinds. -/
def Correct : (kind : Kind) → Call → kind.State → Outcome kind.State kind.Report → Prop
  | inspectionDownload => GroundStation.DownloadWorkItem.Correct inspection
  | checklistDownload => GroundStation.DownloadWorkItem.Correct checklist
  | alarmDownload => GroundStation.DownloadWorkItem.Correct alarm
  | hlActionDownload => GroundStation.DownloadWorkItem.Correct hlAction
  | vehicleInspectionDownload => fun _ => RoboticVehicle.DownloadWorkItem.Correct
  | _ => fun _ _ _ => True

def InOrder : (kind : Kind) → Call → Environment → kind.State → Prop
  | inspectionDownload => GroundStation.DownloadWorkItem.InOrder inspection
  | checklistDownload => GroundStation.DownloadWorkItem.InOrder checklist
  | alarmDownload => GroundStation.DownloadWorkItem.InOrder alarm
  | hlActionDownload => GroundStation.DownloadWorkItem.InOrder hlAction
  | vehicleInspectionDownload => RoboticVehicle.DownloadWorkItem.InOrder
  | _ => fun _ _ _ => True

def Received : (kind : Kind) → kind.State → Prop
  | inspectionDownload => fun item => item.done = true ∨ item.ReceivedPrefix inspection
  | checklistDownload => fun item => item.done = true ∨ item.ReceivedPrefix checklist
  | alarmDownload => fun item => item.done = true ∨ item.ReceivedPrefix alarm
  | hlActionDownload => fun item => item.done = true ∨ item.ReceivedPrefix hlAction
  | vehicleInspectionDownload => fun item => item.done = true ∨ item.ReceivedPrefix
  | _ => fun _ => True

variable {kind : Kind}

theorem Correct.received {call : Call} {item : kind.State}
    {outcome : Outcome kind.State kind.Report}
    (correct : kind.Correct call item outcome) : kind.Received outcome.item := by
  cases kind with
  | inspectionDownload | checklistDownload | alarmDownload | hlActionDownload =>
    exact GroundStation.DownloadWorkItem.Correct.received correct
  | vehicleInspectionDownload => exact RoboticVehicle.DownloadWorkItem.Correct.received correct
  | inspectionUpload | vehicleInspectionUpload | vehicleChecklistUpload | vehicleAlarmUpload
  | vehicleHLActionUpload | commandSend => trivial

theorem correct_start (environment : Environment) {item : kind.State}
    (created : kind.workItemClass.Created item) :
    kind.Correct .start item (kind.workItemClass.handle .start environment item) := by
  cases kind with
  | inspectionDownload | checklistDownload | alarmDownload | hlActionDownload =>
    obtain ⟨sender, callback, rfl⟩ := created
    exact GroundStation.DownloadWorkItem.correct_start environment sender callback
  | vehicleInspectionDownload =>
    obtain ⟨sender, count, callback, rfl⟩ := created
    exact RoboticVehicle.DownloadWorkItem.correct_start environment sender count callback
  | inspectionUpload | vehicleInspectionUpload | vehicleChecklistUpload | vehicleAlarmUpload
  | vehicleHLActionUpload | commandSend => trivial

theorem inOrder_start (environment : Environment) (item : kind.State) :
    kind.InOrder .start environment item := by
  cases kind <;> trivial

theorem correct_iff_inOrder {call : Call} (environment : Environment) (running : call ≠ .start)
    {item : kind.State} (finished : (kind.workItemClass.base item).Finished)
    (received : kind.Received item) :
    kind.Correct call item (kind.workItemClass.handle call environment item) ↔
      kind.InOrder call environment item := by
  cases kind with
  | inspectionDownload | checklistDownload | alarmDownload | hlActionDownload =>
    cases done : item.done with
    | true =>
      refine iff_of_true
        (GroundStation.DownloadWorkItem.correct_of_done call environment finished done) ?_
      cases call with
      | processMessage => intro alive; rw [done] at alive; cases alive
      | start | cancel | processTimeout => trivial
    | false =>
      rcases received with ended | received
      · rw [done] at ended
        cases ended
      · exact GroundStation.DownloadWorkItem.correct_iff_inOrder environment running done received
  | vehicleInspectionDownload =>
    cases done : item.done with
    | true =>
      refine iff_of_true
        (RoboticVehicle.DownloadWorkItem.correct_of_done call environment finished done) ?_
      cases call with
      | processMessage => intro alive; rw [done] at alive; cases alive
      | start | cancel | processTimeout => trivial
    | false =>
      rcases received with ended | received
      · rw [done] at ended
        cases ended
      · exact RoboticVehicle.DownloadWorkItem.correct_iff_inOrder environment running done received
  | inspectionUpload | vehicleInspectionUpload | vehicleChecklistUpload | vehicleAlarmUpload
  | vehicleHLActionUpload | commandSend => exact Iff.rfl

variable (kind)

/-- Nothing but `start()` reaches the item before it has started. -/
def BeginsWithStart (taken : kind.Step) : Prop :=
  (kind.workItemClass.base taken.before.item).started = false → taken.action.starts = true

def CorrectStep (taken : kind.Step) : Prop :=
  match taken.action with
  | .call call _ => kind.Correct call taken.before.item ⟨taken.after.item, taken.outputs⟩
  | _ => True

def InOrderStep (taken : kind.Step) : Prop :=
  match taken.action with
  | .call call environment => kind.InOrder call environment taken.before.item
  | _ => True

structure Receiving (life : Life kind.State) : Prop where
  finished : (kind.workItemClass.base life.item).Finished
  queued : (kind.workItemClass.base life.item).started = false →
    kind.workItemClass.Created life.item
  started : (kind.workItemClass.base life.item).started = true → kind.Received life.item

variable {kind}

private theorem correctStep_iff {taken : kind.Step} (legal : kind.workItemClass.machine.Legal taken)
    (begins : kind.BeginsWithStart taken) (receiving : kind.Receiving taken.before) :
    kind.CorrectStep taken ↔ kind.InOrderStep taken := by
  obtain ⟨before, event, after, effects⟩ := taken
  obtain ⟨_, lived⟩ := WorkItemClass.lived legal
  cases lived with
  | @call call environment callable fresh =>
    cases started : (kind.workItemClass.base before.item).started with
    | false =>
      have starts := begins started
      cases call with
      | start =>
        exact iff_of_true (kind.correct_start environment (receiving.queued started))
          (kind.inOrder_start environment before.item)
      | cancel | processMessage | processTimeout => cases starts
    | true =>
      have running := WorkItemClass.running_of_callable callable started
      exact kind.correct_iff_inOrder environment running receiving.finished
        (receiving.started started)
  | select | destroy => rfl

private theorem receiving_step {taken : kind.Step} (legal : kind.workItemClass.machine.Legal taken)
    (begins : kind.BeginsWithStart taken) (receiving : kind.Receiving taken.before)
    (correct : kind.CorrectStep taken) : kind.Receiving taken.after := by
  have finished := finished_step legal receiving.finished
  obtain ⟨before, event, after, effects⟩ := taken
  obtain ⟨_, lived⟩ := WorkItemClass.lived legal
  cases lived with
  | @call call environment callable fresh =>
    refine ⟨finished, ?_, fun _ => Correct.received correct⟩
    intro queued
    obtain ⟨other, earlier⟩ := kind.started_of_handle call environment queued
    have starts := begins earlier
    cases call with
    | start => exact absurd rfl other
    | cancel | processMessage | processTimeout => cases starts
  | select | destroy => exact ⟨finished, receiving.queued, receiving.started⟩

/-- From `start()` on, whatever the peer sends: every call leaves a received prefix, asks only for
announced items and succeeds only with all of them, exactly if every call is in order. -/
theorem received_prefix_iff (kind : Kind) {item : kind.State}
    (created : kind.workItemClass.Created item) {log : List kind.Step} {last : Life kind.State}
    (run : kind.workItemClass.machine.Run { item := item } log last)
    (begins : ∀ taken ∈ log, kind.BeginsWithStart taken) :
    (∀ taken ∈ log, kind.CorrectStep taken) ↔ (∀ taken ∈ log, kind.InOrderStep taken) := by
  obtain ⟨unstarted, undone, _⟩ := kind.created_fields created
  have start : kind.Receiving { item := item } := by
    refine ⟨?_, fun _ => created, ?_⟩
    · intro done
      rw [undone] at done
      cases done
    · intro started
      rw [unstarted] at started
      cases started
  have both : (∀ taken ∈ log, kind.BeginsWithStart taken ∧ kind.CorrectStep taken) ↔
      (∀ taken ∈ log, kind.BeginsWithStart taken ∧ kind.InOrderStep taken) := by
    refine run.all_iff ?_ ?_ start
    · exact fun taken legal receiving =>
        and_congr_right fun begins => correctStep_iff legal begins receiving
    · exact fun taken legal receiving correct =>
        receiving_step legal correct.1 receiving correct.2
  constructor
  · intro correct taken member
    exact (both.mp (fun other inside => ⟨begins other inside, correct other inside⟩) taken member).2
  · intro ordered taken member
    exact (both.mpr (fun other inside => ⟨begins other inside, ordered other inside⟩) taken
      member).2

/-- Two copies of the first item complete a download of two. -/
theorem received_prefix_broken : ¬∀ (kind : Kind) (item : kind.State),
    kind.workItemClass.Created item → ∀ (log : List kind.Step) (last : Life kind.State),
      kind.workItemClass.machine.Run { item := item } log last →
      (∀ taken ∈ log, kind.BeginsWithStart taken) → ∀ taken ∈ log, kind.CorrectStep taken := by
  intro correct
  let item := GroundStation.DownloadWorkItem.create inspection ⟨⟨245, 190⟩, ⟨1, 1⟩⟩ true
  let message (content : ListMessage PlanId WaypointItem) : Message :=
    ⟨⟨1, 1⟩, ⟨245, 190⟩, .waypointList content⟩
  let first : WaypointItem := { seq := 0 }
  let again : LifeEvent := .call (.processMessage (message (.item first))) ⟨true, 4⟩
  let events : List LifeEvent := [.call .start ⟨true, 1⟩,
    .call (.processMessage (message (.count {} 2))) ⟨true, 2⟩,
    .call (.processMessage (message (.item first))) ⟨true, 3⟩, again]
  obtain ⟨last, run⟩ := inspectionDownload.workItemClass.machine.run_log
    { item := item } events (by decide)
  have begins : ∀ taken ∈ inspectionDownload.workItemClass.machine.log { item := item } events,
      inspectionDownload.BeginsWithStart taken := by
    unfold BeginsWithStart
    decide
  obtain ⟨taken, member, same, reported⟩ :
      ∃ taken ∈ inspectionDownload.workItemClass.machine.log { item := item } events,
        taken.action = again ∧
          .callback (.success, ⟨{}, [first, first]⟩) ∈ taken.outputs := by decide
  have sound := correct .inspectionDownload item ⟨_, _, rfl⟩ _ last run begins taken member
  unfold CorrectStep at sound
  rw [same] at sound
  have indexed := (sound.success _ reported).2
  have second := indexed 1 first rfl
  cases second

/-- Downloads of two items, one of which arrives twice: the first, before the second has come, or
the second, when the download is done. -/
theorem received_prefix_iff_repeated :
    let created : inspectionDownload.State :=
      GroundStation.DownloadWorkItem.create inspection ⟨⟨245, 190⟩, ⟨1, 1⟩⟩ true
    let message (content : ListMessage PlanId WaypointItem) : Message :=
      ⟨⟨1, 1⟩, ⟨245, 190⟩, .waypointList content⟩
    let item (seq : UInt16) (taskUuid : String) : ListMessage PlanId WaypointItem :=
      .item { seq, taskUuid }
    let events (first second third : UInt16) : List LifeEvent := [.call .start ⟨true, 1⟩,
      .call (.processMessage (message (.count ⟨"plan", 7⟩ 2))) ⟨true, 2⟩,
      .call (.processMessage (message (item first "a"))) ⟨true, 3⟩,
      .call (.processMessage (message (item second "b"))) ⟨true, 4⟩,
      .call (.processMessage (message (item third "c"))) ⟨true, 5⟩, .destroy]
    let log (first second third : UInt16) :=
      inspectionDownload.workItemClass.machine.log { item := created } (events first second third)
    ((log 0 0 1).length = 6 ∧ ((∀ taken ∈ log 0 0 1, inspectionDownload.CorrectStep taken) ↔
      ∀ taken ∈ log 0 0 1, inspectionDownload.InOrderStep taken)) ∧
    (log 0 1 1).length = 6 ∧ ((∀ taken ∈ log 0 1 1, inspectionDownload.CorrectStep taken) ↔
      ∀ taken ∈ log 0 1 1, inspectionDownload.InOrderStep taken) := by
  intro created message item events log
  obtain ⟨early, ran⟩ := inspectionDownload.workItemClass.machine.run_log
    { item := created } (events 0 0 1) (by decide)
  obtain ⟨late, ran'⟩ := inspectionDownload.workItemClass.machine.run_log
    { item := created } (events 0 1 1) (by decide)
  have begins : ∀ taken ∈ log 0 0 1, inspectionDownload.BeginsWithStart taken := by
    unfold BeginsWithStart
    decide
  have begins' : ∀ taken ∈ log 0 1 1, inspectionDownload.BeginsWithStart taken := by
    unfold BeginsWithStart
    decide
  exact ⟨⟨by decide, received_prefix_iff inspectionDownload ⟨_, _, rfl⟩ ran begins⟩,
    by decide, received_prefix_iff inspectionDownload ⟨_, _, rfl⟩ ran' begins'⟩

end Kind
end PilotingMavsdk
