import PilotingMavsdk.GroundStationPlugins
import PilotingMavsdk.Proofs.Network
import PilotingMavsdk.Proofs.TimerOwnership

/-! What an upload announces before it sends its items. The COUNT has 16 bits, so a list with one
item more than there are sequence numbers is refused, and one that uses all of them is announced
as empty. -/

namespace PilotingMavsdk
open Library

namespace Outcome
variable {Item Report : Type} {allowed : Message → Prop}

/-- All messages that were packed are allowed, whether they could be sent or not. -/
def Packs (allowed : Message → Prop) (outcome : Outcome Item Report) : Prop :=
  ∀ message sent, .sendMessage message sent ∈ outcome.effects → allowed message

@[simp] theorem packs_mk (item : Item) (effects : List (Effect Report)) :
    Packs allowed ⟨item, effects⟩ ↔
      ∀ message sent, .sendMessage message sent ∈ effects → allowed message := Iff.rfl

@[simp] private theorem packs_after (effects : List (Effect Report))
    (outcome : Outcome Item Report) : (outcome.after effects).Packs allowed ↔
      (∀ message sent, .sendMessage message sent ∈ effects → allowed message) ∧
        outcome.Packs allowed := by
  simp [Packs, or_imp, forall_and]

@[simp] private theorem packs_sending (environment : Environment) (message : Message)
    (failed sent : Outcome Item Report) : (sending environment message failed sent).Packs allowed ↔
      allowed message ∧ if environment.sent then sent.Packs allowed else failed.Packs allowed := by
  cases delivered : environment.sent <;> simp [sending, delivered]

theorem Packs.imp {other : Message → Prop} {outcome : Outcome Item Report}
    (packs : outcome.Packs allowed) (weaker : ∀ message, allowed message → other message) :
    outcome.Packs other :=
  fun message sent packed => weaker message (packs message sent packed)

end Outcome

section
variable {Header Item Ack : Type} (protocol : ListProtocol Header Item Ack)

/-- If the message is a COUNT, it announces so many items. -/
def Announces (length : Nat) (message : Message) : Prop :=
  ∀ header count, protocol.decode message.payload = some (.count header count) →
    count.toNat = length

def Uncounted (message : Message) : Prop :=
  ∀ header count, protocol.decode message.payload ≠ some (.count header count)

variable {protocol}

private theorem Uncounted.announces {message : Message} (uncounted : Uncounted protocol message)
    (length : Nat) : Announces protocol length message :=
  fun header count counted => absurd counted (uncounted header count)

end

namespace UploadWorkItem
variable {Header Item Ack : Type} {protocol : ListProtocol Header Item Ack}

@[simp] private theorem packs_callbackAndReset (allowed : Message → Prop) (result : Result)
    (item : UploadWorkItem Header Item Ack) : (item.callbackAndReset result).Packs allowed := by
  cases callback : item.callback <;> simp [callbackAndReset, callback]

@[simp] theorem packs_connectionError (allowed : Message → Prop)
    (item : UploadWorkItem Header Item Ack) : item.connectionError.Packs allowed := by
  simp [connectionError]

private theorem packs_sendCount (environment : Environment)
    (item : UploadWorkItem Header Item Ack) : (item.sendCount protocol environment).Packs
      (Announces protocol (item.list.items.length % 65536)) := by
  simp [sendCount, Announces, Sender.pack, protocol.decode_payload]

private theorem packs_cancel (environment : Environment) (item : UploadWorkItem Header Item Ack) :
    (item.cancel protocol environment).Packs (Uncounted protocol) := by
  simp [cancel, sendCancelAndFinish, Uncounted, Sender.pack, protocol.decode_payload]

private theorem packs_sendItem (environment : Environment) (item : UploadWorkItem Header Item Ack) :
    (item.sendItem protocol environment).Packs (Uncounted protocol) := by
  simp only [sendItem]
  split
  · simp
  · simp [Uncounted, Sender.pack, protocol.decode_payload]

private theorem packs_processMessage (environment : Environment) (message : Message)
    (item : UploadWorkItem Header Item Ack) :
    (item.processMessage protocol environment message).Packs (Uncounted protocol) := by
  simp only [processMessage]
  split
  · simp only [processRead]
    split
    · simp
    · split
      · simp
      · exact (Outcome.packs_after _ _).mpr ⟨by simp, packs_sendItem environment _⟩
  · simp [processAck]
  · simp

/-- The item is done, nothing was packed and the user hears `InvalidSequence` and no more. -/
def Rejects (item : UploadWorkItem Header Item Ack) (outcome : After Header Item Ack) : Prop :=
  outcome.item.done = true ∧ outcome.Packs (fun _ => False) ∧
    outcome.effects.filterMap Effect.reported =
      if item.callback then [(.invalidSequence, item.ack)] else []

private theorem rejects_callbackAndReset (item : UploadWorkItem Header Item Ack) :
    item.Rejects (item.callbackAndReset .invalidSequence) := by
  refine ⟨rfl, packs_callbackAndReset _ _ _, ?_⟩
  cases callback : item.callback <;> simp [callbackAndReset, callback, Effect.reported]

private theorem not_rejects_sendCount (environment : Environment)
    (effects : List (Effect (Report Ack))) (item counting : UploadWorkItem Header Item Ack) :
    ¬item.Rejects ((counting.sendCount protocol environment).after effects) := by
  intro ⟨_, packs, _⟩
  exact ((Outcome.packs_sending _ _ _ _).mp ((Outcome.packs_after _ _).mp packs).2).1

variable (protocol) in
/-- In every run, `start()` refuses the list if and only if an item has another number than its
place, and every COUNT that is packed has the length of the list. -/
structure CountsExactly
    (workItemClass : WorkItemClass (UploadWorkItem Header Item Ack) (Report Ack))
    (item : UploadWorkItem Header Item Ack) : Prop where
  rejected : ∀ log last, workItemClass.machine.Run { item := item } log last →
    ∀ taken ∈ log, ∀ environment, taken.action = .call .start environment →
      (taken.before.item.Rejects ⟨taken.after.item, taken.outputs⟩ ↔
        ¬Indexed protocol.position item.list.items)
  announced : ∀ log last, workItemClass.machine.Run { item := item } log last →
    ∀ taken ∈ log, ∀ message sent, .sendMessage message sent ∈ taken.outputs →
      Announces protocol item.list.items.length message

/-- Both halves follow from what each call does in a state that runs can lead to. -/
private theorem countsExactly_of
    {workItemClass : WorkItemClass (UploadWorkItem Header Item Ack) (Report Ack)}
    {item : UploadWorkItem Header Item Ack}
    (Invariant : Life (UploadWorkItem Header Item Ack) → Prop)
    (preserved : ∀ taken, workItemClass.machine.Legal taken →
      Invariant taken.before → Invariant taken.after) (first : Invariant { item := item })
    (starts : ∀ life environment, Invariant life →
      (life.item.Rejects (workItemClass.handle .start environment life.item) ↔
        ¬Indexed protocol.position item.list.items))
    (counts : ∀ call environment life, Invariant life →
      workItemClass.callable call life = true →
        (workItemClass.handle call environment life.item).Packs
          (Announces protocol item.list.items.length)) :
    CountsExactly protocol workItemClass item := by
  constructor
  · intro log last run taken member environment action
    have invariant := ((run.invariant preserved first).2 taken member).1
    obtain ⟨before, event, after, effects⟩ := taken
    cases action
    cases (WorkItemClass.lived (run.legal _ member)).2
    exact starts before environment invariant
  · intro log last run taken member message sent packed
    have invariant := ((run.invariant preserved first).2 taken member).1
    obtain ⟨before, event, after, effects⟩ := taken
    cases (WorkItemClass.lived (run.legal _ member)).2 with
    | call callable => exact counts _ _ before invariant callable message sent packed
    | select => cases packed
    | destroy => simp at packed

private theorem not_countsExactly
    {workItemClass : WorkItemClass (UploadWorkItem Header Item Ack) (Report Ack)}
    (item counting : UploadWorkItem Header Item Ack) (effects : List (Effect (Report Ack)))
    (unstarted : (workItemClass.base item).started = false)
    (long : item.list.items.length = 65536) (same : counting.list = item.list)
    (starting : workItemClass.handle .start ⟨true, 1⟩ item =
      (counting.sendCount protocol ⟨true, 1⟩).after effects) :
    ¬CountsExactly protocol workItemClass item := by
  intro exactly
  let life : Life (UploadWorkItem Header Item Ack) := { item := item }
  have callable : workItemClass.callable .start life = true := by
    simp [WorkItemClass.callable, unstarted, life]
  have legal : workItemClass.machine.Legal ⟨life, .call .start ⟨true, 1⟩,
      workItemClass.afterCall .start ⟨true, 1⟩ life,
      (workItemClass.handle .start ⟨true, 1⟩ item).effects⟩ :=
    WorkItemClass.legal_call rfl callable (by simp [life])
  have run := Machine.Run.snoc .nil legal
  let empty := counting.sender.pack (protocol.payload (.count item.list.header 0))
  have packed : .sendMessage empty true ∈
      (workItemClass.handle .start ⟨true, 1⟩ item).effects := by
    rw [starting]
    simp [sendCount, Outcome.sending, same, long, empty]
  have zero := exactly.announced _ _ run _ (List.mem_singleton.mpr rfl) empty true packed
    item.list.header 0
    (by simp [empty, Sender.pack, protocol.decode_payload])
  rw [long] at zero
  cases zero

end UploadWorkItem

namespace RoboticVehicle.UploadWorkItem
variable {Header Item Ack : Type} {protocol : ListProtocol Header Item Ack}

private theorem rejects_start (environment : Environment) (item : UploadWorkItem Header Item Ack) :
    item.Rejects (start protocol environment item) ↔
      ¬Indexed protocol.position item.list.items := by
  rw [← protocol.sequenceValid_iff]
  simp only [start]
  split
  next empty =>
    simp [empty, ListProtocol.sequenceValid, UploadWorkItem.not_rejects_sendCount]
  · split
    next valid => simp [valid, UploadWorkItem.not_rejects_sendCount]
    next invalid =>
      refine iff_of_true ?_ invalid
      refine ⟨rfl, by simp, ?_⟩
      cases callback : item.callback <;>
        simp [UploadWorkItem.callbackAndReset, Effect.reported, List.filterMap_cons]

private theorem packs_handle (call : Call) (environment : Environment)
    (item : UploadWorkItem Header Item Ack)
    (fits : Indexed protocol.position item.list.items → item.list.items.length < 65536) :
    ((workItemClass protocol).handle call environment item).Packs
      (Announces protocol item.list.items.length) := by
  have counting (counted : UploadWorkItem Header Item Ack) (same : counted.list = item.list)
      (valid : Indexed protocol.position item.list.items) :
      (counted.sendCount protocol environment).Packs
        (Announces protocol item.list.items.length) := by
    have packs : (counted.sendCount protocol environment).Packs
        (Announces protocol (counted.list.items.length % 65536)) :=
      counted.packs_sendCount environment
    rwa [same, Nat.mod_eq_of_lt (fits valid)] at packs
  cases call with
  | start =>
    refine (Outcome.packs_after _ _).mpr ⟨by simp, ?_⟩
    split
    next empty =>
      have valid : Indexed protocol.position item.list.items := by
        rw [empty]
        exact .nil
      exact counting _ rfl valid
    · split
      next valid => exact counting _ rfl (protocol.sequenceValid_iff _ |>.mp valid)
      · exact UploadWorkItem.packs_callbackAndReset _ _ _
  | cancel =>
    exact (UploadWorkItem.packs_cancel environment item).imp fun _ uncounted =>
      uncounted.announces _
  | processTimeout => exact UploadWorkItem.packs_callbackAndReset _ _ _
  | processMessage message =>
    exact (UploadWorkItem.packs_processMessage environment message item).imp fun _ uncounted =>
      uncounted.announces _

private theorem countsExactly_create_iff (sender : Sender) (list : ItemList Header Item)
    (callback : Bool) :
    UploadWorkItem.CountsExactly protocol (workItemClass protocol)
        (create protocol sender list callback) ↔
      ¬(Indexed protocol.position list.items ∧ list.items.length = 65536) := by
  constructor
  · intro exactly ⟨valid, long⟩
    have sequence := (protocol.sequenceValid_iff list.items).mpr valid
    have items : list.items ≠ [] := by
      intro empty
      rw [empty] at long
      cases long
    let created : UploadWorkItem Header Item Ack := create protocol sender list callback
    let counting : UploadWorkItem Header Item Ack := { created with
      started := true
      handlers := [protocol.id .ack, protocol.id .read]
      cookie := 1 }
    refine UploadWorkItem.not_countsExactly created counting [.addTimeout 1] rfl long rfl ?_ exactly
    simp only [workItemClass, start, created, create, if_neg items, if_pos sequence]
    rfl
  · intro short
    have fits : Indexed protocol.position list.items → list.items.length < 65536 := by
      intro valid
      have bound := protocol.length_le valid
      have different : list.items.length ≠ 65536 := fun long => short ⟨valid, long⟩
      omega
    apply UploadWorkItem.countsExactly_of fun life => life.item.list = list
    · intro taken legal same
      obtain ⟨before, event, after, effects⟩ := taken
      cases (WorkItemClass.lived legal).2 with
      | call => exact (list_handle _ _ _).trans same
      | select | destroy => exact same
    · rfl
    · intro life environment same
      have rejects : life.item.Rejects (start protocol environment life.item) ↔
          ¬Indexed protocol.position life.item.list.items := rejects_start environment life.item
      rwa [same] at rejects
    · intro call environment life same _
      have packs : (Indexed protocol.position life.item.list.items →
          life.item.list.items.length < 65536) → _ := packs_handle call environment life.item
      rw [same] at packs
      exact packs fits

end RoboticVehicle.UploadWorkItem

namespace GroundStation.UploadWorkItem

private theorem rejects_start (environment : Environment)
    (item : UploadWorkItem PlanId WaypointItem InspectionAck) :
    item.Rejects (start environment item) ↔
      ¬Indexed inspection.position item.list.items := by
  rw [← inspection.sequenceValid_iff]
  simp only [start]
  split
  next valid => simp [valid, UploadWorkItem.not_rejects_sendCount]
  next invalid =>
    refine iff_of_true ?_ invalid
    exact UploadWorkItem.rejects_callbackAndReset { item with started := true }

private theorem packs_handle {call : Call} (environment : Environment)
    (item : UploadWorkItem PlanId WaypointItem InspectionAck)
    (timed : call = .processTimeout → Indexed inspection.position item.list.items)
    (fits : Indexed inspection.position item.list.items → item.list.items.length < 65536) :
    (workItemClass.handle call environment item).Packs
      (Announces inspection item.list.items.length) := by
  have counting (counted : UploadWorkItem PlanId WaypointItem InspectionAck)
      (same : counted.list = item.list) (valid : Indexed inspection.position item.list.items) :
      (counted.sendCount inspection environment).Packs
        (Announces inspection item.list.items.length) := by
    have packs : (counted.sendCount inspection environment).Packs
        (Announces inspection (counted.list.items.length % 65536)) :=
      counted.packs_sendCount environment
    rwa [same, Nat.mod_eq_of_lt (fits valid)] at packs
  cases call with
  | start =>
    simp only [workItemClass, start]
    split
    next valid =>
      refine (Outcome.packs_after _ _).mpr ⟨by simp, ?_⟩
      exact counting _ rfl (inspection.sequenceValid_iff _ |>.mp valid)
    · exact UploadWorkItem.packs_callbackAndReset _ _ _
  | cancel =>
    exact (UploadWorkItem.packs_cancel environment item).imp fun _ uncounted =>
      uncounted.announces _
  | processTimeout =>
    simp only [workItemClass, processTimeout]
    split
    · exact UploadWorkItem.packs_callbackAndReset _ _ _
    · split
      · refine (Outcome.packs_after _ _).mpr ⟨by simp, ?_⟩
        exact counting _ rfl (timed rfl)
      · exact UploadWorkItem.packs_callbackAndReset _ _ _
  | processMessage message =>
    exact (UploadWorkItem.packs_processMessage environment message item).imp fun _ uncounted =>
      uncounted.announces _

/-- The item keeps its list, and has no timer if the list is not a valid one. -/
def Unarmed (list : WaypointList)
    (life : Life (UploadWorkItem PlanId WaypointItem InspectionAck)) : Prop :=
  life.item.list = list ∧ (¬Indexed inspection.position list.items →
    life.pending = [] ∧ life.selected = false)

private theorem pending_handle {call : Call} (environment : Environment)
    {item : UploadWorkItem PlanId WaypointItem InspectionAck} (quiet : call ≠ .processTimeout)
    (invalid : ¬Indexed inspection.position item.list.items) :
    (workItemClass.handle call environment item).pendingAfter [] = [] := by
  have keeps : KeepsTimer item.toWorkItem
      (workItemClass.handle call environment item).item.toWorkItem
      (workItemClass.handle call environment item).pendingAfter := by
    cases call with
    | start =>
      have refused : ¬inspection.sequenceValid 0 item.list.items = true :=
        fun valid => invalid ((inspection.sequenceValid_iff _).mp valid)
      simp [workItemClass, start, if_neg refused, KeepsTimer]
    | cancel => exact UploadWorkItem.keepsTimer_cancel inspection environment item
    | processTimeout => exact absurd rfl quiet
    | processMessage message =>
      exact UploadWorkItem.keepsTimer_processMessage inspection environment message item
  exact keeps.none

private theorem unarmed_step {list : WaypointList}
    {taken : Taken (Life (UploadWorkItem PlanId WaypointItem InspectionAck)) LifeEvent
      (Effect (UploadWorkItem.Report InspectionAck))} (legal : workItemClass.machine.Legal taken)
    (unarmed : Unarmed list taken.before) : Unarmed list taken.after := by
  obtain ⟨before, event, after, effects⟩ := taken
  have same : before.item.list = list := unarmed.1
  have idle : ¬Indexed inspection.position list.items →
    before.pending = [] ∧ before.selected = false := unarmed.2
  cases (WorkItemClass.lived legal).2 with
  | @call call environment callable =>
    refine ⟨(list_handle _ _ _).trans same, ?_⟩
    intro invalid
    obtain ⟨pending, selected⟩ := idle invalid
    have quiet : call ≠ .processTimeout := by
      rintro rfl
      rw [WorkItemClass.callable, selected] at callable
      cases callable
    rw [← same] at invalid
    have none := pending_handle environment quiet invalid
    simp only [WorkItemClass.afterCall, pending, none, if_neg quiet]
    exact ⟨trivial, selected⟩
  | select expired =>
    refine ⟨same, ?_⟩
    intro invalid
    rw [(idle invalid).1] at expired
    cases expired
  | destroy =>
    refine ⟨same, ?_⟩
    intro invalid
    simp [(idle invalid).1, (idle invalid).2]

private theorem countsExactly_create_iff (sender : Sender) (list : WaypointList) (callback : Bool) :
    UploadWorkItem.CountsExactly inspection workItemClass (create sender list callback) ↔
      ¬(Indexed inspection.position list.items ∧ list.items.length = 65536) := by
  constructor
  · intro exactly ⟨valid, long⟩
    have sequence := (inspection.sequenceValid_iff list.items).mpr valid
    let created := create sender list callback
    let counting : UploadWorkItem PlanId WaypointItem InspectionAck := { created with
      started := true
      cookie := 1 }
    refine UploadWorkItem.not_countsExactly created counting [.addTimeout 1] rfl long rfl ?_ exactly
    simp only [workItemClass, start, created, create, if_pos sequence]
    rfl
  · intro short
    have fits : Indexed inspection.position list.items → list.items.length < 65536 := by
      intro valid
      have bound := inspection.length_le valid
      have different : list.items.length ≠ 65536 := fun long => short ⟨valid, long⟩
      omega
    apply UploadWorkItem.countsExactly_of (Unarmed list) fun _ => unarmed_step
    · exact ⟨rfl, fun _ => ⟨rfl, rfl⟩⟩
    · intro life environment unarmed
      have rejects : life.item.Rejects (start environment life.item) ↔
          ¬Indexed inspection.position life.item.list.items := rejects_start environment life.item
      rwa [unarmed.1] at rejects
    · intro call environment life unarmed callable
      have timed : call = .processTimeout → Indexed inspection.position list.items := by
        rintro rfl
        by_contra invalid
        rw [WorkItemClass.callable, (unarmed.2 invalid).2] at callable
        cases callable
      rw [← unarmed.1] at timed fits
      have packs := packs_handle environment life.item timed fits
      rwa [unarmed.1] at packs

end GroundStation.UploadWorkItem

private theorem indexed_convertToIntItems (items : List InspectionBase.WaypointItem) :
    Indexed inspection.position (InspectionRoboticVehicleImpl.convertToIntItems items) ↔
      items.length ≤ 65536 := by
  constructor
  · intro valid
    simpa [InspectionRoboticVehicleImpl.convertToIntItems] using inspection.length_le valid
  · intro fits
    exact indexed_toIntList (show (⟨{}, items⟩ : InspectionBase.WaypointList).items.length ≤ _
      from fits)

private theorem wrapped_convertToIntItems (items : List InspectionBase.WaypointItem) :
    (Indexed inspection.position (InspectionRoboticVehicleImpl.convertToIntItems items) ∧
      (InspectionRoboticVehicleImpl.convertToIntItems items).length = 65536) ↔
        items.length = 65536 := by
  rw [indexed_convertToIntItems]
  simp only [InspectionRoboticVehicleImpl.convertToIntItems, List.length_mapIdx]
  omega

/-- For every list that is given to an upload of either side: `start()` refuses exactly the lists
whose numbers differ from the places, and otherwise every COUNT that is ever sent is the length
of the list, exactly if the list has not 65536 items with the numbers from 0 to 65535. -/
theorem counts_exact_iff {Header Item Ack : Type} (protocol : ListProtocol Header Item Ack)
    (list : ItemList Header Item) (inspections : InspectionBase.WaypointList) (sender : Sender)
    (callback : Bool) :
    (UploadWorkItem.CountsExactly inspection GroundStation.UploadWorkItem.workItemClass
        (GroundStation.UploadWorkItem.create sender
          ⟨inspections.header, InspectionImpl.convertToIntItems inspections.items⟩ callback) ↔
        inspections.items.length ≠ 65536) ∧
      (UploadWorkItem.CountsExactly inspection
        (RoboticVehicle.UploadWorkItem.workItemClass inspection)
        (RoboticVehicle.UploadWorkItem.create inspection sender
          ⟨inspections.header,
            InspectionRoboticVehicleImpl.convertToIntItems inspections.items⟩ callback) ↔
        inspections.items.length ≠ 65536) ∧
      (UploadWorkItem.CountsExactly protocol (RoboticVehicle.UploadWorkItem.workItemClass protocol)
        (RoboticVehicle.UploadWorkItem.create protocol sender list callback) ↔
        ¬(Indexed protocol.position list.items ∧ list.items.length = 65536)) := by
  refine ⟨?_, ?_, ?_⟩
  · rw [GroundStation.UploadWorkItem.countsExactly_create_iff]
    exact not_congr (wrapped_convertToIntItems inspections.items)
  · rw [RoboticVehicle.UploadWorkItem.countsExactly_create_iff]
    exact not_congr (wrapped_convertToIntItems inspections.items)
  · exact RoboticVehicle.UploadWorkItem.countsExactly_create_iff sender list callback

/-- An inspection of 65536 items is announced as empty. -/
theorem counts_not_exact : ¬∀ (sender : Sender) (list : InspectionBase.WaypointList)
    (callback : Bool), UploadWorkItem.CountsExactly inspection
      GroundStation.UploadWorkItem.workItemClass (GroundStation.UploadWorkItem.create sender
        ⟨list.header, InspectionImpl.convertToIntItems list.items⟩ callback) := by
  intro exactly
  obtain ⟨items, length⟩ : ∃ items : List InspectionBase.WaypointItem, items.length = 65536 :=
    ⟨List.replicate 65536 {}, List.length_replicate⟩
  have counted := exactly ⟨⟨255, 0⟩, ⟨1, 1⟩⟩ ⟨{}, items⟩ true
  rw [GroundStation.UploadWorkItem.countsExactly_create_iff] at counted
  exact counted ((wrapped_convertToIntItems items).mpr length)

end PilotingMavsdk
