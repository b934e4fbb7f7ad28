import Mathlib.Data.Fintype.EquivFin
import PilotingMavsdk.FaultFree
import PilotingMavsdk.Proofs.FinalReport
import PilotingMavsdk.Proofs.Network

/-! What a work item does when it is its turn and nothing goes wrong: how it stands before and
after the call, which message it sends and what it reports. -/

namespace PilotingMavsdk
open Library

namespace Outcome
variable {Item Report : Type} {outcome : Outcome Item Report} {holds : Item → Prop}
  {sent : List Message} {heard : List Report}

structure Does (holds : Item → Prop) (sent : List Message) (heard : List Report)
    (outcome : Outcome Item Report) : Prop where
  item : holds outcome.item
  sent : outcome.effects.filterMap Effect.sent = sent
  heard : outcome.heard = heard

theorem Does.after (does : outcome.Does holds sent heard) {effects : List (Effect Report)}
    (mute : effects.filterMap Effect.reported = []) (still : effects.filterMap Effect.sent = []) :
    (outcome.after effects).Does holds sent heard := by
  refine ⟨does.item, ?_, ?_⟩
  · rw [after_effects, List.filterMap_append, still, does.sent]
    rfl
  · rw [heard_after, mute, does.heard]
    rfl

theorem Does.sending {environment : Environment} (delivered : environment.sent = true)
    (does : outcome.Does holds sent heard) (message : Message) (failed : Outcome Item Report) :
    (Outcome.sending environment message failed outcome).Does holds (message :: sent) heard := by
  rw [sending_sent environment message failed outcome delivered]
  refine ⟨does.item, ?_, ?_⟩
  · rw [after_effects, List.filterMap_append, does.sent]
    rfl
  · rw [heard_after, does.heard]
    rfl

end Outcome

section
variable {Header Item Ack : Type} {protocol : ListProtocol Header Item Ack}

theorem dispatched_of_registered {item : WorkItem} {message : Message}
    {content : ListMessage Header Item} (payload : message.payload = protocol.payload content)
    (registered : protocol.id content.kind ∈ item.handlers) :
    protocol.dispatched item message = some content := by
  unfold ListProtocol.dispatched
  rw [payload, protocol.id_payload, if_pos registered, protocol.decode_payload]

private theorem take_append_last {items : List Item} {place : Nat} {found : Item}
    (present : items[place]? = some found) (last : place + 1 = items.length) :
    items.take place ++ [found] = items := by
  have joined := List.take_add_one (l := items) (i := place)
  rw [present, last, List.take_length] at joined
  exact joined.symm

theorem numbered_of_indexed {list : ItemList Header Item}
    (indexed : Indexed protocol.position list.items) : Numbered protocol list := by
  intro place found present
  have number : UInt16.ofNat place = protocol.seq found := by
    rw [← indexed place found present]
    exact UInt16.ofNat_toNat
  rw [number]
  exact protocol.numbered_seq found

end

namespace UploadWorkItem
variable {Header Item Ack : Type} {protocol : ListProtocol Header Item Ack} {sender : Sender}
  {list : ItemList Header Item} {place : Nat} {environment : Environment}
  {item : UploadWorkItem Header Item Ack} {message : Message}

structure Serving (protocol : ListProtocol Header Item Ack) (sender : Sender)
    (list : ItemList Header Item) (place : Nat) (item : UploadWorkItem Header Item Ack) :
    Prop where
  sender : item.sender = sender
  read : protocol.id .read ∈ item.handlers
  ack : protocol.id .ack ∈ item.handlers
  started : item.started = true
  running : item.done = false
  callback : item.callback = true
  list : item.list = list
  nextSequence : item.nextSequence = place

private theorem does_sendCount (delivered : environment.sent = true)
    (serving : Serving protocol sender list place item) :
    (item.sendCount protocol environment).Does (Serving protocol sender list place)
      [sender.pack (protocol.payload (.count list.header (UInt16.ofNat list.items.length)))]
      [] := by
  have counting : item.sender.pack (protocol.payload (.count item.list.header
      (UInt16.ofNat item.list.items.length))) = sender.pack (protocol.payload (.count list.header
      (UInt16.ofNat list.items.length))) := by rw [serving.sender, serving.list]
  unfold sendCount
  rw [counting]
  apply Outcome.Does.sending delivered
  refine ⟨?_, rfl, rfl⟩
  exact ⟨serving.sender, serving.read, serving.ack, serving.started, serving.running,
    serving.callback, serving.list, serving.nextSequence⟩

theorem does_read (delivered : environment.sent = true)
    (serving : Serving protocol sender list place item) {found : Item}
    (present : list.items[place]? = some found) (numbered : Numbered protocol list)
    (fits : place < 65536)
    (payload : message.payload = protocol.payload (.read (UInt16.ofNat place))) :
    (item.processMessage protocol environment message).Does
      (Serving protocol sender list (place + 1)) [sender.pack (protocol.payload (.item found))]
      [] := by
  have number : (UInt16.ofNat place).toNat = place := by
    rw [UInt16.toNat_ofNat']
    exact Nat.mod_eq_of_lt fits
  unfold processMessage
  rw [dispatched_of_registered payload serving.read]
  simp only [processRead, number, serving.nextSequence, Nat.lt_irrefl, gt_iff_lt, false_and,
    if_false]
  apply Outcome.Does.after _ rfl rfl
  simp only [sendItem, serving.list, present, serving.sender, numbered place found present]
  apply Outcome.Does.sending delivered
  refine ⟨?_, rfl, rfl⟩
  exact ⟨rfl, serving.read, serving.ack, serving.started, serving.running, serving.callback,
    rfl, rfl⟩

theorem does_ack (serving : Serving protocol sender list list.items.length item) {type : UInt8}
    (payload : message.payload = protocol.payload (.ack type)) :
    (item.processMessage protocol environment message).Does
      (fun item => item.started = true ∧ item.done = true) []
      [(.success, protocol.toAck type)] := by
  unfold processMessage
  rw [dispatched_of_registered payload serving.ack]
  simp only [processAck, serving.nextSequence, serving.list, if_true]
  apply Outcome.Does.after _ rfl rfl
  refine ⟨⟨serving.started, rfl⟩, ?_, ?_⟩
  · simp [callbackAndReset, serving.callback, Effect.sent]
  · simp [callbackAndReset, serving.callback, Effect.reported]

end UploadWorkItem

theorem GroundStation.UploadWorkItem.does_start {environment : Environment} {sender : Sender}
    {list : WaypointList} (delivered : environment.sent = true)
    (valid : inspection.sequenceValid 0 list.items = true) :
    (start environment (create sender list true)).Does
      (UploadWorkItem.Serving inspection sender list 0)
      [sender.pack (inspection.payload (.count list.header (UInt16.ofNat list.items.length)))]
      [] := by
  have listed : (create sender list true).list = list := rfl
  unfold start
  simp only [listed, valid, if_true]
  apply Outcome.Does.after _ rfl rfl
  apply UploadWorkItem.does_sendCount delivered
  exact ⟨rfl, by simp [create], by simp [create], rfl, rfl, rfl, rfl, rfl⟩

theorem RoboticVehicle.UploadWorkItem.does_start {Header Item Ack : Type}
    {protocol : ListProtocol Header Item Ack} {environment : Environment} {sender : Sender}
    {list : ItemList Header Item} (delivered : environment.sent = true)
    (inhabited : list.items ≠ []) (valid : protocol.sequenceValid 0 list.items = true) :
    (start protocol environment (create protocol sender list true)).Does
      (UploadWorkItem.Serving protocol sender list 0)
      [sender.pack (protocol.payload (.count list.header (UInt16.ofNat list.items.length)))]
      [] := by
  have listed : (create protocol sender list true).list = list := rfl
  unfold start
  simp only [listed, inhabited, valid, if_false, if_true]
  apply Outcome.Does.after _ rfl rfl
  apply UploadWorkItem.does_sendCount delivered
  exact ⟨rfl, by simp [create], by simp [create], rfl, rfl, rfl, rfl, rfl⟩

namespace GroundStation.DownloadWorkItem
variable {Header Item Ack : Type} {protocol : ListProtocol Header Item Ack} {sender : Sender}
  {list : ItemList Header Item} {place : Nat} {environment : Environment}
  {item : DownloadWorkItem Header Item} {message : Message}

structure Requesting (protocol : ListProtocol Header Item Ack) (sender : Sender)
    (item : DownloadWorkItem Header Item) : Prop where
  sender : item.sender = sender
  counts : protocol.id .count ∈ item.handlers
  takes : protocol.id .item ∈ item.handlers
  started : item.started = true
  running : item.done = false
  callback : item.callback = true
  items : item.list.items = []

structure Reading (protocol : ListProtocol Header Item Ack) (sender : Sender)
    (list : ItemList Header Item) (place : Nat) (item : DownloadWorkItem Header Item) : Prop where
  sender : item.sender = sender
  takes : protocol.id .item ∈ item.handlers
  started : item.started = true
  running : item.done = false
  callback : item.callback = true
  stored : item.list = ⟨list.header, list.items.take place⟩
  nextSequence : item.nextSequence = place
  expectedCount : item.expectedCount = list.items.length

private theorem does_requestItem (delivered : environment.sent = true)
    (reading : Reading protocol sender list place item) :
    (item.requestItem protocol environment).Does (Reading protocol sender list place)
      [sender.pack (protocol.payload (.read (UInt16.ofNat place)))] [] := by
  have asking : item.sender.pack (protocol.payload (.read (UInt16.ofNat item.nextSequence))) =
      sender.pack (protocol.payload (.read (UInt16.ofNat place))) := by
    rw [reading.sender, reading.nextSequence]
  unfold requestItem
  rw [asking]
  apply Outcome.Does.sending delivered
  refine ⟨?_, rfl, rfl⟩
  exact ⟨reading.sender, reading.takes, reading.started, reading.running, reading.callback,
    reading.stored, reading.nextSequence, reading.expectedCount⟩

theorem does_start (delivered : environment.sent = true) :
    ((create protocol sender true).start protocol environment).Does (Requesting protocol sender)
      [sender.pack (protocol.payload .request)] [] := by
  unfold start
  apply Outcome.Does.after _ rfl rfl
  unfold requestList
  apply Outcome.Does.sending delivered
  refine ⟨?_, rfl, rfl⟩
  exact ⟨rfl, by simp [create], by simp [create], rfl, rfl, rfl, rfl⟩

theorem does_count (delivered : environment.sent = true)
    (requesting : Requesting protocol sender item) (inhabited : list.items ≠ [])
    (fits : list.items.length < 65536)
    (payload : message.payload =
      protocol.payload (.count list.header (UInt16.ofNat list.items.length))) :
    (item.processMessage protocol environment message).Does (Reading protocol sender list 0)
      [sender.pack (protocol.payload (.read 0))] [] := by
  have number : (UInt16.ofNat list.items.length).toNat = list.items.length := by
    rw [UInt16.toNat_ofNat']
    exact Nat.mod_eq_of_lt fits
  have positive : UInt16.ofNat list.items.length ≠ 0 := by
    intro zero
    rw [zero] at number
    exact inhabited (List.length_eq_zero_iff.mp number.symm)
  unfold processMessage
  rw [dispatched_of_registered payload requesting.counts]
  simp only [processCount, positive, if_false]
  apply Outcome.Does.after _ rfl rfl
  apply does_requestItem delivered
  exact ⟨requesting.sender, requesting.takes, requesting.started, requesting.running,
    requesting.callback, by simp [requesting.items], rfl, number⟩

theorem does_item (delivered : environment.sent = true)
    (reading : Reading protocol sender list place item) {found : Item}
    (present : list.items[place]? = some found) (position : protocol.position found = place)
    (more : place + 1 ≠ list.items.length)
    (payload : message.payload = protocol.payload (.item found)) :
    (item.processMessage protocol environment message).Does
      (Reading protocol sender list (place + 1))
      [sender.pack (protocol.payload (.read (UInt16.ofNat (place + 1))))] [] := by
  unfold processMessage
  rw [dispatched_of_registered payload reading.takes]
  simp only [processItem, reading.nextSequence, reading.expectedCount, more, if_false]
  apply Outcome.Does.after _ rfl rfl
  apply does_requestItem delivered
  constructor
  · exact reading.sender
  · exact reading.takes
  · exact reading.started
  · exact reading.running
  · exact reading.callback
  · simp [reading.stored, List.take_add_one, present]
  · simpa [ListProtocol.position] using position
  · rfl

theorem does_last (delivered : environment.sent = true)
    (reading : Reading protocol sender list place item) {found : Item}
    (present : list.items[place]? = some found) (last : place + 1 = list.items.length)
    (payload : message.payload = protocol.payload (.item found)) :
    (item.processMessage protocol environment message).Does
      (fun item => item.started = true ∧ item.done = true)
      [sender.pack (protocol.payload (.ack protocol.accepted))] [(.success, list)] := by
  have whole : list.items.take place ++ [found] = list.items := take_append_last present last
  unfold processMessage
  rw [dispatched_of_registered payload reading.takes]
  simp only [processItem, reading.nextSequence, reading.expectedCount, last, if_true]
  apply Outcome.Does.after _ rfl rfl
  unfold sendAckAndFinish
  simp only [reading.sender]
  apply Outcome.Does.sending delivered
  refine ⟨⟨reading.started, rfl⟩, ?_, ?_⟩
  · simp [callbackAndReset, reading.callback, Effect.sent]
  · simp [callbackAndReset, reading.callback, Effect.reported, reading.stored, whole]

end GroundStation.DownloadWorkItem

namespace RoboticVehicle.DownloadWorkItem
variable {sender : Sender} {list : WaypointList} {place : Nat} {environment : Environment}
  {item : DownloadWorkItem} {message : Message}

/-- As many items as that have arrived. The plan identity is not stored with them. -/
structure Reading (sender : Sender) (list : WaypointList) (place : Nat) (item : DownloadWorkItem) :
    Prop where
  sender : item.sender = sender
  takes : inspection.id .item ∈ item.handlers
  started : item.started = true
  running : item.done = false
  callback : item.callback = true
  stored : item.list = ⟨{}, list.items.take place⟩
  nextSequence : item.nextSequence = place
  expectedCount : item.expectedCount = list.items.length

private theorem does_requestItem (delivered : environment.sent = true)
    (reading : Reading sender list place item) :
    (item.requestItem environment).Does (Reading sender list place)
      [sender.pack (inspection.payload (.read (UInt16.ofNat place)))] [] := by
  have asking : item.sender.pack (inspection.payload (.read (UInt16.ofNat item.nextSequence))) =
      sender.pack (inspection.payload (.read (UInt16.ofNat place))) := by
    rw [reading.sender, reading.nextSequence]
  unfold requestItem
  rw [asking]
  apply Outcome.Does.sending delivered
  refine ⟨?_, rfl, rfl⟩
  exact ⟨reading.sender, reading.takes, reading.started, reading.running, reading.callback,
    reading.stored, reading.nextSequence, reading.expectedCount⟩

theorem does_start (delivered : environment.sent = true) (inhabited : list.items ≠ [])
    (fits : list.items.length < 65536) :
    ((create sender (UInt16.ofNat list.items.length) true).start environment).Does
      (Reading sender list 0) [sender.pack (inspection.payload (.read 0))] [] := by
  have number : (UInt16.ofNat list.items.length).toNat = list.items.length := by
    rw [UInt16.toNat_ofNat']
    exact Nat.mod_eq_of_lt fits
  have positive : list.items.length ≠ 0 := by
    intro zero
    exact inhabited (List.length_eq_zero_iff.mp zero)
  unfold start create
  simp only [number, positive, if_false]
  apply Outcome.Does.after _ rfl rfl
  apply does_requestItem delivered
  exact ⟨rfl, by simp, rfl, rfl, rfl, by simp, rfl, rfl⟩

theorem does_item (delivered : environment.sent = true) (reading : Reading sender list place item)
    {found : WaypointItem} (present : list.items[place]? = some found)
    (position : inspection.position found = place) (more : place + 1 ≠ list.items.length)
    (payload : message.payload = inspection.payload (.item found)) :
    (item.processMessage environment message).Does (Reading sender list (place + 1))
      [sender.pack (inspection.payload (.read (UInt16.ofNat (place + 1))))] [] := by
  unfold processMessage
  rw [dispatched_of_registered payload reading.takes]
  simp only [processItem, reading.nextSequence, reading.expectedCount, more, if_false]
  apply Outcome.Does.after _ rfl rfl
  apply does_requestItem delivered
  constructor
  · exact reading.sender
  · exact reading.takes
  · exact reading.started
  · exact reading.running
  · exact reading.callback
  · simp [reading.stored, List.take_add_one, present]
  · exact congrArg (· + 1) position
  · rfl

theorem does_last (reading : Reading sender list place item) {found : WaypointItem}
    (present : list.items[place]? = some found) (last : place + 1 = list.items.length)
    (payload : message.payload = inspection.payload (.item found)) :
    (item.processMessage environment message).Does
      (fun item => item.started = true ∧ item.done = true) []
      [(.success, ⟨{}, list.items⟩)] := by
  have whole : list.items.take place ++ [found] = list.items := take_append_last present last
  unfold processMessage
  rw [dispatched_of_registered payload reading.takes]
  simp only [processItem, reading.nextSequence, reading.expectedCount, last, if_true]
  apply Outcome.Does.after _ rfl rfl
  refine ⟨⟨reading.started, rfl⟩, ?_, ?_⟩
  · simp [callbackAndReset, reading.callback, Effect.sent]
  · simp [callbackAndReset, reading.callback, Effect.reported, reading.stored, whole]

end RoboticVehicle.DownloadWorkItem

namespace WorkItemClass
variable {State Report Told : Type} {workItemClass : WorkItemClass State Report}
  {holds next : State → Prop} {before after : Option (Life State)}
  {effects : List (Effect Report)} {sent : List Message} {heard : List Report}

def Holds (holds : State → Prop) (life : Option (Life State)) : Prop :=
  ∃ present, life = some present ∧ present.destroyed = false ∧ holds present.item

def Ended (workItemClass : WorkItemClass State Report) (life : Option (Life State)) : Prop :=
  ∀ present ∈ life, present.destroyed = false ∧
    (workItemClass.base present.item).started = true ∧
    (workItemClass.base present.item).done = true

def weight (life : Option (Life State)) : Nat := if life.isSome then 1 else 0

theorem weight_le (life : Option (Life State)) : weight life ≤ 1 := by
  unfold weight
  split <;> omega

theorem Ended.of_holds (held : Holds (fun item => (workItemClass.base item).started = true ∧
    (workItemClass.base item).done = true) after) : workItemClass.Ended after := by
  obtain ⟨present, rfl, existing, ended⟩ := held
  intro other same
  cases same
  exact ⟨existing, ended⟩

theorem Advanced.present {event : LifeEvent}
    (advanced : workItemClass.Advanced event before after effects) : before ≠ none := by
  cases advanced <;> simp

theorem Advanced.does_start {item : State} (held : Holds (· = item) before)
    (running : (workItemClass.base item).done = false)
    (does : ∀ cookie, (workItemClass.handle .start ⟨true, cookie⟩ item).Does next sent heard)
    {act : ItemAct} (advanced : workItemClass.Advanced act.event before after effects) :
    Holds next after ∧ effects.filterMap Effect.sent = sent ∧
      effects.filterMap Effect.reported = heard := by
  obtain ⟨present, rfl, existing, rfl⟩ := held
  cases act with
  | start cookie =>
    cases advanced with
    | call =>
      have called := does cookie
      exact ⟨⟨_, rfl, existing, called.item⟩, called.sent, called.heard⟩
  | destroy =>
    cases advanced with
    | destroy done =>
      rw [running] at done
      cases done

theorem Advanced.not_running (held : Holds holds before)
    (running : ∀ item, holds item → (workItemClass.base item).started = true ∧
      (workItemClass.base item).done = false) {act : ItemAct} :
    ¬workItemClass.Advanced act.event before after effects := by
  intro advanced
  obtain ⟨present, rfl, existing, held⟩ := held
  obtain ⟨started, unfinished⟩ := running _ held
  cases act with
  | start cookie =>
    cases advanced with
    | call allowed => simp [callable, started] at allowed
  | destroy =>
    cases advanced with
    | destroy done =>
      rw [unfinished] at done
      cases done

theorem Advanced.of_ended (ended : workItemClass.Ended before) {act : ItemAct}
    (advanced : workItemClass.Advanced act.event before after effects) :
    after = none ∧ effects.filterMap Effect.sent = [] ∧ effects.filterMap Effect.reported = [] ∧
      weight after < weight before := by
  cases act with
  | start cookie =>
    cases advanced with
    | call allowed =>
      have started := (ended _ rfl).2.1
      simp [callable, started] at allowed
  | destroy =>
    cases advanced with
    | destroy => exact ⟨rfl, rfl, rfl, by simp [weight]⟩

theorem Delivered.isSome {message : Message} {environment : Environment}
    (delivered : workItemClass.Delivered message environment before after effects) :
    after.isSome = before.isSome := by
  cases delivered <;> rfl

@[simp] theorem deliver_none (message : Message) (environment : Environment) :
    workItemClass.deliver message environment none = some (none, []) := rfl

theorem Delivered.nothing {message : Message} {environment : Environment}
    (delivered : workItemClass.Delivered message environment before after effects)
    (none : before = none) : after = Option.none ∧ effects = [] := by
  subst none
  cases delivered
  exact ⟨rfl, rfl⟩

theorem Delivered.does {message : Message} {environment : Environment}
    (held : Holds holds before)
    (does : ∀ item, holds item →
      (workItemClass.handle (.processMessage message) environment item).Does next sent heard)
    (delivered : workItemClass.Delivered message environment before after effects) :
    Holds next after ∧ effects.filterMap Effect.sent = sent ∧
      effects.filterMap Effect.reported = heard := by
  obtain ⟨present, rfl, existing, held⟩ := held
  cases delivered with
  | handled =>
    have called := does _ held
    exact ⟨⟨_, rfl, existing, called.item⟩, called.sent, called.heard⟩

theorem can_start {item : State} {life : Option (Life State)} (held : Holds (· = item) life)
    (waiting : (workItemClass.base item).started = false) :
    ∃ cookie, (workItemClass.advance (ItemAct.start cookie).event life).isSome = true := by
  obtain ⟨present, rfl, existing, rfl⟩ := held
  obtain ⟨cookie, fresh⟩ := Infinite.exists_notMem_finset present.used.toFinset
  rw [List.mem_toFinset] at fresh
  refine ⟨cookie, ?_⟩
  simp [advance, ItemAct.event, LifeEvent.received, machine, WorkItemClass.step, callable, existing, waiting, fresh]

theorem can_deliver (message : Message) {life : Option (Life State)} (held : Holds holds life) :
    ∃ cookie, (workItemClass.deliver message ⟨true, cookie⟩ life).isSome = true := by
  obtain ⟨present, rfl, existing, _⟩ := held
  obtain ⟨cookie, fresh⟩ := Infinite.exists_notMem_finset present.used.toFinset
  rw [List.mem_toFinset] at fresh
  refine ⟨cookie, ?_⟩
  simp [deliver, machine, WorkItemClass.step, callable, existing, fresh]

variable {tell : Report → Told} {told : List Told}

theorem party_act {act : ItemAct}
    (acted : (workItemClass.party tell).act act before = some (after, sent, told)) :
    ∃ effects, workItemClass.Advanced act.event before after effects ∧
      sent = effects.filterMap Effect.sent ∧
      told = (effects.filterMap Effect.reported).map tell := by
  simp only [party] at acted
  split at acted
  next stepped =>
    cases acted
    exact ⟨_, WorkItemClass.advanced stepped, rfl, rfl⟩
  · cases acted

theorem party_hear {message : Message} {cookie : Cookie}
    (heard : (workItemClass.party tell).hear message cookie before = some (after, sent, told)) :
    ∃ effects, workItemClass.Delivered message ⟨true, cookie⟩ before after effects ∧
      sent = effects.filterMap Effect.sent ∧
      told = (effects.filterMap Effect.reported).map tell := by
  simp only [party] at heard
  split at heard
  next stepped =>
    cases heard
    exact ⟨_, WorkItemClass.delivered stepped, rfl, rfl⟩
  · cases heard

theorem party_can_act {act : ItemAct}
    (possible : (workItemClass.advance act.event before).isSome = true) :
    ((workItemClass.party tell).act act before).isSome = true := by
  obtain ⟨result, stepped⟩ := Option.isSome_iff_exists.mp possible
  simp [party, stepped]

theorem party_can_hear {message : Message} {cookie : Cookie}
    (possible : (workItemClass.deliver message ⟨true, cookie⟩ before).isSome = true) :
    ((workItemClass.party tell).hear message cookie before).isSome = true := by
  obtain ⟨result, stepped⟩ := Option.isSome_iff_exists.mp possible
  simp [party, stepped]

end WorkItemClass
end PilotingMavsdk
