import PilotingMavsdk.Proofs.Legibility
import PilotingMavsdk.Proofs.ReceivedPrefix

/-! What a ground station gets from a vehicle that has one list. Whatever the network does, the
items it stores are the list's; whether they are the whole list depends on their order alone. -/

namespace PilotingMavsdk
open Library

namespace GroundStation.DownloadWorkItem
variable {Header Item Ack : Type} (protocol : ListProtocol Header Item Ack)
  (source : ItemList Header Item)

/-- A repeated COUNT sets the next sequence number back and keeps the items. -/
structure Receiving (item : DownloadWorkItem Header Item) : Prop where
  drawn : ∀ received ∈ item.list.items, received ∈ source.items
  indexed : Indexed protocol.position item.list.items
  counted : item.expectedCount = 0 ∨
    item.expectedCount = source.items.length ∧ item.list.header = source.header
  sequence : item.nextSequence = item.list.items.length ∨ item.nextSequence = 0

/-- The item is done or on its way, and a success delivers the source. -/
@[mk_iff] structure Agrees (outcome : After Header Item) : Prop where
  receiving : outcome.item.done = true ∨ outcome.item.Receiving protocol source
  delivers : ∀ list, .callback (.success, list) ∈ outcome.effects → list = source

variable {protocol} {source}

private theorem agrees_after_iff {timers : List (Effect (Report Header Item))}
    (plain : ∀ timer ∈ timers, timer.timer = true) {outcome : After Header Item} :
    Agrees protocol source (outcome.after timers) ↔ Agrees protocol source outcome := by
  have silent (report : Report Header Item) : .callback report ∉ timers := by
    intro member
    cases plain _ member
  simp [agrees_iff, silent]

theorem Receiving.of_same {item other : DownloadWorkItem Header Item}
    (receiving : item.Receiving protocol source) (list : other.list = item.list)
    (count : other.expectedCount = item.expectedCount)
    (sequence : other.nextSequence = item.nextSequence) : other.Receiving protocol source := by
  constructor
  · rw [list]; exact receiving.drawn
  · rw [list]; exact receiving.indexed
  · rw [list, count]; exact receiving.counted
  · rw [list, sequence]; exact receiving.sequence

private theorem agrees_requestList (environment : Environment) {item : DownloadWorkItem Header Item}
    (receiving : item.Receiving protocol source) :
    Agrees protocol source (item.requestList protocol environment) := by
  cases sent : environment.sent with
  | false =>
    cases callback : item.callback <;>
      simp [agrees_iff, requestList, Outcome.sending, connectionError, callbackAndReset, sent,
        callback]
  | true =>
    refine ⟨.inr ?_, by simp [requestList, Outcome.sending, sent]⟩
    simp only [requestList, Outcome.sending_item, sent, if_true]
    exact receiving.of_same rfl rfl rfl

private theorem agrees_requestItem (environment : Environment) {item : DownloadWorkItem Header Item}
    (receiving : item.Receiving protocol source) :
    Agrees protocol source (item.requestItem protocol environment) := by
  cases sent : environment.sent with
  | false =>
    cases callback : item.callback <;>
      simp [agrees_iff, requestItem, Outcome.sending, connectionError, callbackAndReset, sent,
        callback]
  | true =>
    refine ⟨.inr ?_, by simp [requestItem, Outcome.sending, sent]⟩
    simp only [requestItem, Outcome.sending_item, sent, if_true]
    exact receiving.of_same rfl rfl rfl

private theorem agrees_sendAckAndFinish (environment : Environment)
    {item : DownloadWorkItem Header Item} (whole : item.list = source) :
    Agrees protocol source (item.sendAckAndFinish protocol environment) := by
  cases sent : environment.sent <;> cases callback : item.callback <;>
    simp [agrees_iff, sendAckAndFinish, Outcome.sending, callbackAndReset, sent, callback, whole]

private theorem agrees_processCount {environment : Environment} {header : Header} {count : UInt16}
    {item : DownloadWorkItem Header Item} (receiving : item.Receiving protocol source)
    (some : source.items ≠ [])
    (counted : header = source.header ∧ count.toNat = source.items.length) :
    Agrees protocol source (item.processCount protocol environment header count) := by
  have positive : count ≠ 0 := by
    rintro rfl
    exact some (List.length_eq_zero_iff.mp counted.2.symm)
  simp only [processCount, if_neg positive]
  refine (agrees_after_iff (by simp)).mpr (agrees_requestItem environment ?_)
  exact ⟨receiving.drawn, receiving.indexed, .inr ⟨counted.2, counted.1⟩, .inr rfl⟩

private theorem agrees_processItem {environment : Environment} {next : Item}
    {item : DownloadWorkItem Header Item} (receiving : item.Receiving protocol source)
    (numbered : Indexed protocol.position source.items) (drawn : next ∈ source.items)
    (place : protocol.position next = item.list.items.length) :
    Agrees protocol source (item.processItem protocol environment next) := by
  have all : ∀ received ∈ item.list.items ++ [next], received ∈ source.items := by
    intro received member
    rcases List.mem_append.mp member with member | member
    · exact receiving.drawn received member
    · rwa [List.mem_singleton.mp member]
  have indexed : Indexed protocol.position (item.list.items ++ [next]) :=
    indexed_append_singleton.mpr ⟨receiving.indexed, place⟩
  have below : item.list.items.length < source.items.length := by
    obtain ⟨position, found⟩ := List.mem_iff_getElem?.mp drawn
    rw [← place, numbered position next found]
    exact (List.getElem?_eq_some_iff.mp found).1
  simp only [processItem]
  split
  next last =>
    have counted : item.expectedCount = source.items.length ∧ item.list.header = source.header := by
      rcases receiving.counted with none | counted
      · omega
      · exact counted
    have complete : (item.list.items ++ [next]).length = source.items.length := by
      have length := receiving.sequence
      simp only [List.length_append, List.length_singleton]
      omega
    have items := indexed.eq_source numbered all complete
    have whole :
        (⟨item.list.header, item.list.items ++ [next]⟩ : ItemList Header Item) = source := by
      rw [counted.2, items]
    exact (agrees_after_iff (by simp)).mpr (agrees_sendAckAndFinish environment whole)
  next more =>
    refine (agrees_after_iff (by simp)).mpr (agrees_requestItem environment ?_)
    refine ⟨all, indexed, receiving.counted, .inl ?_⟩
    have number : (protocol.seq next).toNat = item.list.items.length := place
    simp [number]

/-- An ITEM that counts is the one after those that were received. -/
def NextInOrder (protocol : ListProtocol Header Item Ack) (item : DownloadWorkItem Header Item)
    (call : Call) : Prop :=
  item.started = true → item.done = false →
    ∀ received ∈ protocol.arriving item.toWorkItem call,
      protocol.position received = item.list.items.length

private theorem agrees_handle {call : Call} (environment : Environment) (running : call ≠ .start)
    {item : DownloadWorkItem Header Item} (started : item.started = true)
    (alive : item.done = false) (receiving : item.Receiving protocol source)
    (numbered : Indexed protocol.position source.items) (some : source.items ≠ [])
    (carried : ∀ message, call = .processMessage message → Carries protocol source message)
    (inOrder : item.NextInOrder protocol call) :
    Agrees protocol source ((workItemClass protocol).handle call environment item) := by
  cases call with
  | start => exact absurd rfl running
  | cancel =>
    cases sent : environment.sent <;> cases callback : item.callback <;>
      simp [agrees_iff, workItemClass, cancel, sendCancelAndFinish, Outcome.sending,
        callbackAndReset, sent, callback]
  | processTimeout =>
    simp only [workItemClass, processTimeout]
    split
    · cases callback : item.callback <;> simp [agrees_iff, callbackAndReset, callback]
    · cases item.step with
      | requestList =>
        refine (agrees_after_iff (by simp)).mpr (agrees_requestList environment ?_)
        exact receiving.of_same rfl rfl rfl
      | requestItem =>
        refine (agrees_after_iff (by simp)).mpr (agrees_requestItem environment ?_)
        exact receiving.of_same rfl rfl rfl
  | processMessage message =>
    have carries := carried message rfl
    simp only [workItemClass, processMessage]
    split
    next dispatched => exact agrees_processCount receiving some (carries.counted dispatched)
    next received dispatched =>
      have place := inOrder started alive received (by simp [ListProtocol.arriving, dispatched])
      exact agrees_processItem receiving numbered (carries.item dispatched) place
    · exact ⟨.inr receiving, by simp⟩

/-- `start()` keeps the count of an earlier COUNT, which is why there must have been none. -/
private theorem agrees_start (environment : Environment) {item : DownloadWorkItem Header Item}
    (uncounted : item.expectedCount = 0) (sequence : item.nextSequence = 0) :
    Agrees protocol source ((workItemClass protocol).handle .start environment item) := by
  refine (agrees_after_iff (by simp)).mpr (agrees_requestList environment ?_)
  exact ⟨by simp, Indexed.nil, .inl uncounted, .inr sequence⟩

end GroundStation.DownloadWorkItem
/-- Neither a REQUEST nor a COUNT nor an ITEM. -/
def Passive (message : Message) : Prop :=
  match inspection.decode message.payload with
  | none | some (.read _) | some (.ack _) => True
  | some .request | some (.count _ _) | some (.item _) => False

private theorem passive_ack (sender : Sender) (type : UInt8) :
    Passive (sender.pack (inspection.payload (.ack type))) := by
  simp [Passive, Sender.pack, inspection.decode_payload]

namespace Vehicle
variable {vehicle after : Vehicle}

private theorem foldl_accept_of_passive {message : Message} {plugin : InspectionRoboticVehicleImpl}
    (passive : Passive message) (requests : List InspectionRoboticVehicleImpl.Effect)
    (justified : ∀ request ∈ requests, plugin.Justified message request) :
    requests.foldl accept vehicle = vehicle := by
  induction requests with
  | nil => rfl
  | cons request requests ih =>
    have first := justified request (by simp)
    have same : vehicle.accept request = vehicle := by
      cases request with
      | uploadItems => simp [Passive, first.1] at passive
      | downloadItems =>
        have counted : inspection.decode message.payload = _ := first
        simp [Passive, counted] at passive
      | uploadCallback | downloadCallback | setCurrentCallback => rfl
    rw [List.foldl_cons, same]
    exact ih fun other member => justified other (by simp [member])

private theorem idle_step {event : Event} {outputs : List Output} (upload : vehicle.upload = none)
    (download : vehicle.download = none) (passive : ∀ message ∈ event.received, Passive message)
    (legal : vehicle.step event = some (after, outputs)) :
    (after.upload = none ∧ after.download = none) ∧
      ∀ message ∈ outputs.filterMap Output.sent, Passive message := by
  have step := stepped legal
  obtain ⟨sender, plugin, _, _, planId⟩ := vehicle
  cases upload
  cases download
  cases step with
  | receive uploading downloading =>
    cases uploading
    cases downloading
    rw [foldl_accept_of_passive (passive _ rfl) _
      InspectionRoboticVehicleImpl.justified_processMessage]
    simp [sent_pluginOutput]
  | upload advanced => cases advanced
  | download advanced => cases advanced
  | @sendDownloadAck type sent =>
    refine ⟨⟨rfl, rfl⟩, ?_⟩
    cases sent <;> simp [Output.sent, passive_ack]

end Vehicle

namespace DownloadSystem

/-- Nothing has happened yet that could lead to a COUNT. -/
structure Queued (system : DownloadSystem) : Prop where
  counted : system.groundStation.item.expectedCount = 0
  sequence : system.groundStation.item.nextSequence = 0
  pending : system.groundStation.pending = []
  selected : system.groundStation.selected = false
  upload : system.vehicle.upload = none
  download : system.vehicle.download = none
  toVehicle : ∀ message ∈ system.toVehicle, Passive message
  toGroundStation : ∀ message ∈ system.toGroundStation, Passive message

/-- What holds as long as the items come in order. -/
structure Agreeing (list : InspectionBase.WaypointList) (system : DownloadSystem) : Prop where
  serves : system.vehicle.Serves list
  carried : ∀ message ∈ system.toGroundStation, Carries inspection (toIntList list) message
  finished : system.groundStation.item.Finished
  queued : system.groundStation.item.started = false → system.Queued
  receiving : system.groundStation.item.started = true → system.groundStation.item.done = false →
    system.groundStation.item.Receiving inspection (toIntList list)

inductive Stepped (system : DownloadSystem) : DownloadAction → DownloadSystem →
    List (Effect (GroundStation.DownloadWorkItem.Report PlanId WaypointItem)) → Prop where
  | groundStation {event : LifeEvent}
      {after : Life (GroundStation.DownloadWorkItem PlanId WaypointItem)}
      {effects : List (Effect (GroundStation.DownloadWorkItem.Report PlanId WaypointItem))}
      (arrived : ∀ message ∈ event.received, message ∈ system.toGroundStation)
      (lived : (GroundStation.DownloadWorkItem.workItemClass inspection).Lived
        system.groundStation event after effects) :
      Stepped system (.groundStation event)
        { system with
          groundStation := after
          toVehicle := system.toVehicle ++ effects.filterMap Effect.sent } effects
  | vehicle {event : Vehicle.Event} {after : Vehicle} {outputs : List Vehicle.Output}
      (arrived : ∀ message ∈ event.received, message ∈ system.toVehicle)
      (legal : system.vehicle.step event = some (after, outputs)) :
      Stepped system (.vehicle event)
        { system with
          vehicle := after
          toGroundStation := system.toGroundStation ++ outputs.filterMap Vehicle.Output.sent } []

theorem stepped {system after : DownloadSystem} {action : DownloadAction}
    {effects : List (Effect (GroundStation.DownloadWorkItem.Report PlanId WaypointItem))}
    (legal : machine.Legal ⟨system, action, after, effects⟩) :
    system.Stepped action after effects := by
  simp only [Machine.Legal, machine] at legal
  cases action with
  | groundStation event =>
    simp only at legal
    split at legal
    next arrived =>
      split at legal
      next stepped => cases legal; exact .groundStation arrived (WorkItemClass.lived stepped).2
      · cases legal
    · cases legal
  | vehicle event =>
    simp only at legal
    split at legal
    next arrived =>
      split at legal
      next stepped => cases legal; exact .vehicle arrived stepped
      · cases legal
    · cases legal

variable {list : InspectionBase.WaypointList}

theorem unsuccessful_cancel (environment : Environment)
    (item : GroundStation.DownloadWorkItem PlanId WaypointItem) (list : WaypointList) :
    .callback (.success, list) ∉ (item.cancel inspection environment).effects := by
  cases sent : environment.sent <;> cases callback : item.callback <;>
    simp [GroundStation.DownloadWorkItem.cancel, GroundStation.DownloadWorkItem.sendCancelAndFinish,
      GroundStation.DownloadWorkItem.callbackAndReset, Outcome.sending, sent, callback]

private theorem passive_cancel (environment : Environment)
    (item : GroundStation.DownloadWorkItem PlanId WaypointItem) :
    (item.cancel inspection environment).Speaks Passive := by
  cases sent : environment.sent <;> cases callback : item.callback <;>
    simp [GroundStation.DownloadWorkItem.cancel, GroundStation.DownloadWorkItem.sendCancelAndFinish,
      GroundStation.DownloadWorkItem.callbackAndReset, passive_ack, Effect.sent, sent, callback]

private theorem processMessage_of_passive {message : Message} (passive : Passive message)
    (environment : Environment) (item : GroundStation.DownloadWorkItem PlanId WaypointItem) :
    item.processMessage inspection environment message = ⟨item, []⟩ := by
  simp only [GroundStation.DownloadWorkItem.processMessage]
  split
  next counted => simp [Passive, decode_of_dispatched counted] at passive
  next arrived => simp [Passive, decode_of_dispatched arrived] at passive
  · rfl

section
variable {system after : DownloadSystem} {action : DownloadAction}
  {effects : List (Effect (GroundStation.DownloadWorkItem.Report PlanId WaypointItem))}

private theorem queued_step (step : system.Stepped action after effects) (queued : system.Queued)
    (waiting : after.groundStation.item.started = false) : after.Queued := by
  cases step with
  | vehicle arrived legal =>
    obtain ⟨idle, passive⟩ := Vehicle.idle_step queued.upload queued.download
      (fun message member => queued.toVehicle message (arrived message member)) legal
    refine ⟨queued.counted, queued.sequence, queued.pending, queued.selected, idle.1, idle.2,
      queued.toVehicle, ?_⟩
    intro message member
    rcases List.mem_append.mp member with member | member
    · exact queued.toGroundStation message member
    · exact passive message member
  | groundStation arrived lived =>
    cases lived with
    | @call call environment callable fresh =>
      cases call with
      | start =>
        have reporting := GroundStation.DownloadWorkItem.reporting_handle inspection .start
          environment system.groundStation.item
        have begun := reporting.proceeds.started.mpr (.inl rfl)
        exact absurd begun (Bool.eq_false_iff.mp waiting)
      | cancel =>
        have cancelled := GroundStation.DownloadWorkItem.cancel_item inspection environment
          system.groundStation.item
        have spoken := (passive_cancel environment system.groundStation.item).filterMap
        refine ⟨?_, ?_, ?_, queued.selected, queued.upload, queued.download, ?_,
          queued.toGroundStation⟩
        · exact (congrArg (·.expectedCount) cancelled).trans queued.counted
        · exact (congrArg (·.nextSequence) cancelled).trans queued.sequence
        · have pending := Kind.inspectionDownload.pendingAfter_cancel environment
            system.groundStation.item system.groundStation.pending
          rw [queued.pending, List.filter_nil, ← queued.pending] at pending
          exact pending.trans queued.pending
        · intro message member
          rcases List.mem_append.mp member with member | member
          · exact queued.toVehicle message member
          · exact spoken message member
      | processTimeout =>
        rw [WorkItemClass.callable, queued.selected] at callable
        cases callable
      | processMessage message =>
        have passive := queued.toGroundStation message (arrived message rfl)
        have same : (GroundStation.DownloadWorkItem.workItemClass inspection).handle
            (.processMessage message) environment system.groundStation.item =
            ⟨system.groundStation.item, []⟩ :=
          processMessage_of_passive passive environment system.groundStation.item
        refine ⟨?_, ?_, ?_, queued.selected, queued.upload, queued.download, ?_,
          queued.toGroundStation⟩
        · simpa [WorkItemClass.afterCall, same] using queued.counted
        · simpa [WorkItemClass.afterCall, same] using queued.sequence
        · simpa [WorkItemClass.afterCall, same] using queued.pending
        · simpa [same] using queued.toVehicle
    | select expired =>
      rw [queued.pending] at expired
      cases expired
    | destroy =>
      refine ⟨queued.counted, queued.sequence, ?_, queued.selected, queued.upload,
        queued.download, ?_, queued.toGroundStation⟩
      · rw [queued.pending, List.filter_nil]
      · simpa [Effect.sent] using queued.toVehicle

private theorem receiving_call {call : Call} (environment : Environment) (some : list.items ≠ [])
    (fits : list.items.length < 65536)
    (callable : (GroundStation.DownloadWorkItem.workItemClass inspection).callable call
      system.groundStation = true)
    (arrived : ∀ message, call = .processMessage message → message ∈ system.toGroundStation)
    (inOrder : system.groundStation.item.NextInOrder inspection call)
    (agreeing : system.Agreeing list) :
    let outcome := (GroundStation.DownloadWorkItem.workItemClass inspection).handle call environment
      system.groundStation.item
    (outcome.item.started = true → outcome.item.done = false →
        outcome.item.Receiving inspection (toIntList list)) ∧
      ∀ delivered, .callback (.success, delivered) ∈ outcome.effects →
        delivered = toIntList list := by
  intro outcome
  have agreed (agrees : GroundStation.DownloadWorkItem.Agrees inspection (toIntList list) outcome) :
      (outcome.item.started = true → outcome.item.done = false →
        outcome.item.Receiving inspection (toIntList list)) ∧
      ∀ delivered, .callback (.success, delivered) ∈ outcome.effects →
        delivered = toIntList list := by
    refine ⟨fun _ alive => ?_, agrees.delivers⟩
    rcases agrees.receiving with done | receiving
    · rw [alive] at done
      cases done
    · exact receiving
  cases started : system.groundStation.item.started with
  | true =>
    have running := WorkItemClass.running_of_callable callable started
    cases done : system.groundStation.item.done with
    | true =>
      have reporting := GroundStation.DownloadWorkItem.reporting_handle inspection call environment
        system.groundStation.item
      have still : outcome.item.done = true := reporting.proceeds.done done
      have unreported := reporting.unreported (agreeing.finished done)
      refine ⟨fun _ alive => ?_, fun delivered reported => absurd reported (unreported _)⟩
      rw [still] at alive
      cases alive
    | false =>
      refine agreed (GroundStation.DownloadWorkItem.agrees_handle environment running started done
        (agreeing.receiving started done) (indexed_toIntList (by omega)) ?_ ?_ inOrder)
      · intro none
        have length := length_toIntList list
        rw [none] at length
        exact some (List.length_eq_zero_iff.mp length.symm)
      · exact fun message same => agreeing.carried message (arrived message same)
  | false =>
    have queued := agreeing.queued started
    cases call with
    | start =>
      exact agreed (GroundStation.DownloadWorkItem.agrees_start environment queued.counted
        queued.sequence)
    | cancel =>
      refine ⟨fun after => ?_, fun delivered reported =>
        absurd reported (unsuccessful_cancel environment _ delivered)⟩
      have cancelled : outcome.item = _ :=
        GroundStation.DownloadWorkItem.cancel_item inspection environment system.groundStation.item
      rw [cancelled] at after
      rw [started] at after
      cases after
    | processTimeout =>
      rw [WorkItemClass.callable, queued.selected] at callable
      cases callable
    | processMessage message =>
      have passive := queued.toGroundStation message (arrived message rfl)
      have same : outcome = ⟨system.groundStation.item, []⟩ :=
        processMessage_of_passive passive environment system.groundStation.item
      rw [same]
      refine ⟨fun after => ?_, by simp⟩
      rw [started] at after
      cases after

/-- If the step hands an ITEM to the download while that is under way, it is the next one. -/
def NextInOrder (system : DownloadSystem) : DownloadAction → Prop
  | .groundStation (.call call _) => system.groundStation.item.NextInOrder inspection call
  | _ => True

private theorem agreeing_step (some : list.items ≠ []) (fits : list.items.length < 65536)
    (step : system.Stepped action after effects) (inOrder : system.NextInOrder action)
    (agreeing : system.Agreeing list) :
    after.Agreeing list ∧
      ∀ delivered, .callback (.success, delivered) ∈ effects → delivered = toIntList list := by
  have later (waiting : after.groundStation.item.started = false)
      (before : system.groundStation.item.started = false) : after.Queued :=
    queued_step step (agreeing.queued before) waiting
  cases step with
  | vehicle arrived legal =>
    obtain ⟨serves, carries⟩ := Vehicle.carries_step fits agreeing.serves legal
    refine ⟨⟨serves, ?_, agreeing.finished, fun waiting => later waiting waiting,
      agreeing.receiving⟩, by simp⟩
    intro message member
    rcases List.mem_append.mp member with member | member
    · exact agreeing.carried message member
    · exact carries message member
  | groundStation arrived lived =>
    cases lived with
    | @call call environment callable fresh =>
      obtain ⟨receiving, delivers⟩ := receiving_call environment some fits callable
        (fun message same => arrived message (by simp [LifeEvent.received, same])) inOrder agreeing
      refine ⟨⟨agreeing.serves, agreeing.carried, ?_, ?_, receiving⟩, delivers⟩
      · exact (GroundStation.DownloadWorkItem.reporting_handle inspection call environment
          _).proceeds.finished agreeing.finished
      · intro waiting
        have before := @Kind.started_of_handle .inspectionDownload call environment
          system.groundStation.item waiting
        exact later waiting before.2
    | select expired =>
      exact ⟨⟨agreeing.serves, agreeing.carried, agreeing.finished,
        fun waiting => later waiting waiting, agreeing.receiving⟩, by simp⟩
    | destroy =>
      exact ⟨⟨agreeing.serves, agreeing.carried, agreeing.finished,
        fun waiting => later waiting waiting, agreeing.receiving⟩, by simp⟩

private theorem agreeing_initial (groundStation vehicle : Sender)
    (plugin : InspectionRoboticVehicleImpl) :
    (initial groundStation vehicle plugin).Agreeing plugin.list := by
  refine ⟨⟨rfl, ?_⟩, ?_, ?_, fun _ => ⟨rfl, rfl, rfl, rfl, rfl, rfl, ?_, ?_⟩, ?_⟩
  · intro life present
    cases present
  · intro message member
    cases member
  · intro done
    cases done
  · intro message member
    cases member
  · intro message member
    cases member
  · intro started
    cases started

/-- The download is past its start and has stored something out of place. -/
structure Spoiled (system : DownloadSystem) : Prop where
  started : system.groundStation.item.started = true
  disorder : ¬Indexed inspection.position system.groundStation.item.list.items

private theorem running_of_disordered (disordered : ¬system.NextInOrder action) :
    system.groundStation.item.started = true ∧ system.groundStation.item.done = false := by
  cases action with
  | vehicle event => exact absurd trivial disordered
  | groundStation event =>
    cases event with
    | select cookie => exact absurd trivial disordered
    | destroy => exact absurd trivial disordered
    | call call environment =>
      simp only [NextInOrder, GroundStation.DownloadWorkItem.NextInOrder, Classical.not_imp]
        at disordered
      exact ⟨disordered.1, disordered.2.1⟩

private theorem spoiled_step (step : system.Stepped action after effects)
    (spoiled : system.Spoiled ∨ ¬system.NextInOrder action) :
    after.Spoiled ∧ ∀ result delivered, .callback (result, delivered) ∈ effects →
      ¬Indexed inspection.position delivered.items := by
  have started : system.groundStation.item.started = true := by
    rcases spoiled with spoiled | disorder
    · exact spoiled.started
    · exact (running_of_disordered disorder).1
  have still (inOrder : system.NextInOrder action) : system.Spoiled :=
    spoiled.resolve_right (not_not_intro inOrder)
  cases step with
  | vehicle arrived legal =>
    obtain ⟨started, disorder⟩ := still trivial
    exact ⟨⟨started, disorder⟩, by simp⟩
  | groundStation arrived lived =>
    cases lived with
    | @call call environment callable fresh =>
      have running := WorkItemClass.running_of_callable callable started
      let outcome :=
        (GroundStation.DownloadWorkItem.workItemClass inspection).handle call environment
        system.groundStation.item
      have items : outcome.item.list.items = _ :=
        GroundStation.DownloadWorkItem.items_handle environment running system.groundStation.item
      have reports : outcome.Reports GroundStation.DownloadWorkItem.Told :=
        GroundStation.DownloadWorkItem.reports_handle call environment system.groundStation.item
      have disorder : ¬Indexed inspection.position (system.groundStation.item.list.items ++
          inspection.arriving system.groundStation.item.toWorkItem call) := by
        rcases spoiled with spoiled | disorder
        · exact fun indexed => spoiled.disorder indexed.of_append
        · simp only [NextInOrder, GroundStation.DownloadWorkItem.NextInOrder, Classical.not_imp,
            not_forall] at disorder
          obtain ⟨_, _, received, arriving, misplaced⟩ := disorder
          rw [ListProtocol.arriving_eq arriving]
          exact fun indexed => misplaced (indexed_append_singleton.mp indexed).2
      rw [← items] at disorder
      refine ⟨⟨?_, disorder⟩, ?_⟩
      · exact (GroundStation.DownloadWorkItem.reporting_handle inspection call environment
          _).proceeds.started.mpr (.inr started)
      · intro result delivered reported
        have stored := (reports _ reported).2
        rw [show delivered = _ from stored]
        exact disorder
    | select | destroy =>
      obtain ⟨started, disorder⟩ := still trivial
      exact ⟨⟨started, disorder⟩, by simp⟩

def Over (system : DownloadSystem) : Prop := system.groundStation.item.done = true

private theorem over_step (step : system.Stepped action after effects) (ended : system.Over) :
    after.Over := by
  cases step with
  | vehicle arrived legal => exact ended
  | groundStation arrived lived =>
    cases lived with
    | call =>
      exact (GroundStation.DownloadWorkItem.reporting_handle inspection _ _ _).proceeds.done ended
    | select | destroy => exact ended

private theorem over_of_reported (step : system.Stepped action after effects)
    {report : GroundStation.DownloadWorkItem.Report PlanId WaypointItem}
    (reported : .callback report ∈ effects) : after.Over := by
  cases step with
  | vehicle arrived legal => cases reported
  | groundStation arrived lived =>
    cases lived with
    | call => exact (GroundStation.DownloadWorkItem.reports_handle _ _ _ report reported).1
    | select => cases reported
    | destroy => simp at reported

end

abbrev Step := Taken DownloadSystem DownloadAction
  (Effect (GroundStation.DownloadWorkItem.Report PlanId WaypointItem))

/-- Both sides send in their own name, and nothing but what belongs to the vehicle's list. -/
structure Spoken (groundStation vehicle : Sender) (list : InspectionBase.WaypointList)
    (system : DownloadSystem) : Prop where
  own : system.groundStation.item.sender = groundStation
  speaks : system.vehicle.SpeaksFor vehicle list
  toVehicle : ∀ message ∈ system.toVehicle,
    SentBy inspection groundStation (toIntList list) message
  toGroundStation : ∀ message ∈ system.toGroundStation,
    SentBy inspection vehicle (toIntList list) message

section
variable {groundStation vehicle : Sender} {list : InspectionBase.WaypointList}

private theorem spoken_step {system after : DownloadSystem} {action : DownloadAction}
    {effects : List (Effect (GroundStation.DownloadWorkItem.Report PlanId WaypointItem))}
    (step : system.Stepped action after effects)
    (spoken : system.Spoken groundStation vehicle list) :
    after.Spoken groundStation vehicle list := by
  cases step with
  | groundStation arrived lived =>
    have keeps := @GroundStation.DownloadWorkItem.keeps_sender _ _ _ inspection groundStation
      (toIntList list)
    obtain ⟨own, sent⟩ := lived.keeps keeps spoken.own
    exact ⟨own, spoken.speaks, List.forall_mem_append.mpr ⟨spoken.toVehicle, sent⟩,
      spoken.toGroundStation⟩
  | vehicle arrived legal =>
    obtain ⟨speaksFor, sent⟩ := Vehicle.speaksFor_step spoken.speaks legal
    exact ⟨spoken.own, speaksFor, spoken.toVehicle,
      List.forall_mem_append.mpr ⟨spoken.toGroundStation, sent⟩⟩

theorem Spoken.legible {system : DownloadSystem} (spoken : system.Spoken groundStation vehicle list)
    (room : list.HasRoom) :
    ∀ message ∈ system.toVehicle ++ system.toGroundStation, message.Legible := by
  intro message member
  rcases List.mem_append.mp member with member | member
  · exact (spoken.toVehicle message member).legible bare_inspection room.fits
  · exact (spoken.toGroundStation message member).legible bare_inspection room.fits

end

/-- For any list whose texts have room, any network and any timing: every message may be carried as
it is, and what the ground station reports with `Success` is the vehicle's list exactly if each
ITEM that its download took was the next one in order. -/
theorem delivered_iff {groundStation vehicle : Sender} {plugin : InspectionRoboticVehicleImpl}
    (some : plugin.list.items ≠ []) (fits : plugin.list.items.length < 65536)
    (room : plugin.list.HasRoom) {log : List Step} {last : DownloadSystem}
    (run : machine.Run (initial groundStation vehicle plugin) log last) :
    (∀ message ∈ last.toVehicle ++ last.toGroundStation, message.Legible) ∧
      ∀ taken ∈ log, ∀ delivered, .callback (.success, delivered) ∈ taken.outputs →
        (delivered = toIntList plugin.list ↔
          ∀ taken ∈ log, taken.before.NextInOrder taken.action) := by
  have start : (initial groundStation vehicle plugin).Spoken groundStation vehicle plugin.list :=
    ⟨rfl, ⟨rfl, rfl, by simp [initial], by simp [initial]⟩, by simp [initial], by simp [initial]⟩
  have spoken := (run.invariant (fun _ legal => spoken_step (stepped legal)) start).1
  refine ⟨spoken.legible room, ?_⟩
  intro taken member delivered reported
  have indexed := indexed_toIntList (show plugin.list.items.length ≤ 65536 by omega)
  constructor
  · rintro rfl other inside
    by_contra disordered
    obtain ⟨before, after, split⟩ := List.append_of_mem inside
    obtain ⟨earlier, legal, later⟩ := run.at split
    have spoiled := spoiled_step (stepped legal) (.inr disordered)
    rw [split] at member
    rcases List.mem_append.mp member with member | member
    · obtain ⟨_, _, between⟩ := List.append_of_mem member
      obtain ⟨_, report, rest⟩ := earlier.at between
      have ended := rest.invariant (fun _ legal => over_step (stepped legal))
        (over_of_reported (stepped report) reported)
      exact Bool.eq_false_iff.mp (running_of_disordered disordered).2 ended.1
    · rcases List.mem_cons.mp member with rfl | member
      · exact spoiled.2 _ _ reported indexed
      · have kept := later.invariant (fun _ legal disorder =>
          (spoiled_step (stepped legal) (.inl disorder)).1) spoiled.1
        have report := spoiled_step (stepped (later.legal taken member))
          (.inl (kept.2 taken member).1)
        exact report.2 _ _ reported indexed
  · intro inOrder
    have agreeing := run.guarded
      (fun _ legal allowed before => (agreeing_step some fits (stepped legal) allowed before).1)
      inOrder (agreeing_initial groundStation vehicle plugin)
    have last := agreeing_step some fits (stepped (run.legal taken member)) (inOrder taken member)
      (agreeing.2 taken member).1
    exact last.2 delivered reported

/-- Two copies of the first item make a list of two. -/
theorem delivered_duplicate : ¬∀ (groundStation vehicle : Sender)
    (plugin : InspectionRoboticVehicleImpl), plugin.list.items ≠ [] →
    plugin.list.items.length < 65536 → ∀ (log : List Step) (last : DownloadSystem),
      machine.Run (initial groundStation vehicle plugin) log last →
      ∀ taken ∈ log, ∀ delivered, .callback (.success, delivered) ∈ taken.outputs →
        delivered = toIntList plugin.list := by
  intro agree
  let groundStation : Sender := ⟨⟨245, 190⟩, ⟨1, 1⟩⟩
  let vehicle : Sender := ⟨⟨1, 1⟩, ⟨245, 190⟩⟩
  let first : InspectionBase.WaypointItem := { command := 1 }
  let second : InspectionBase.WaypointItem := { command := 2 }
  let plugin := InspectionRoboticVehicleImpl.init
    { list := ⟨{}, [first, second]⟩, uploadCallback := true, transfer := true }
  let toVehicle (content : ListMessage PlanId WaypointItem) (cookie : Cookie) : DownloadAction :=
    .vehicle (.receive (groundStation.pack (inspection.payload content)) ⟨true, cookie⟩)
  let toGroundStation (content : ListMessage PlanId WaypointItem) (cookie : Cookie) :
      DownloadAction :=
    .groundStation (.call (.processMessage (vehicle.pack (inspection.payload content)))
      ⟨true, cookie⟩)
  let item : WaypointItem := ⟨first, 0⟩
  let actions : List DownloadAction := [.groundStation (.call .start ⟨true, 1⟩),
    toVehicle .request 1, .vehicle (.upload (.call .start ⟨true, 1⟩)),
    toGroundStation (.count {} 2) 2, toVehicle (.read 0) 2,
    toGroundStation (.item item) 3, toGroundStation (.item item) 4]
  obtain ⟨last, run⟩ := machine.run_log (initial groundStation vehicle plugin) actions (by decide)
  obtain ⟨taken, member, reported⟩ : ∃ taken ∈ machine.log (initial groundStation vehicle plugin)
      actions, .callback (.success, ⟨{}, [item, item]⟩) ∈ taken.outputs := by decide
  have same := agree groundStation vehicle plugin (by decide) (by decide) _ last run taken member
    _ reported
  exact absurd same (by decide)

/-- A vehicle with two items and a ground station that gets them, the first READ twice. -/
theorem delivered_iff_two :
    let groundStation : Sender := ⟨⟨245, 190⟩, ⟨1, 1⟩⟩
    let vehicle : Sender := ⟨⟨1, 1⟩, ⟨245, 190⟩⟩
    let first : InspectionBase.WaypointItem := { taskUuid := "hover", command := 1 }
    let second : InspectionBase.WaypointItem := { taskUuid := "touch", command := 2 }
    let plan : PlanId := { planUuid := "tank 4", syncId := 7 }
    let plugin := InspectionRoboticVehicleImpl.init
      { list := ⟨plan, [first, second]⟩, uploadCallback := true, transfer := true }
    let toVehicle (content : ListMessage PlanId WaypointItem) (cookie : Cookie) : DownloadAction :=
      .vehicle (.receive (groundStation.pack (inspection.payload content)) ⟨true, cookie⟩)
    let toGroundStation (content : ListMessage PlanId WaypointItem) (cookie : Cookie) :
        DownloadAction :=
      .groundStation (.call (.processMessage (vehicle.pack (inspection.payload content)))
        ⟨true, cookie⟩)
    let actions : List DownloadAction := [.groundStation (.call .start ⟨true, 1⟩),
      toVehicle .request 1, .vehicle (.upload (.call .start ⟨true, 1⟩)),
      toGroundStation (.count plan 2) 2, toVehicle (.read 0) 2, toVehicle (.read 0) 3,
      toGroundStation (.item ⟨first, 0⟩) 3, toVehicle (.read 1) 4,
      toGroundStation (.item ⟨second, 1⟩) 4]
    let log := machine.log (initial groundStation vehicle plugin) actions
    (∃ taken ∈ log, .callback (.success, toIntList plugin.list) ∈ taken.outputs) ∧
      ∀ taken ∈ log, taken.before.NextInOrder taken.action := by
  intro groundStation vehicle first second plan plugin toVehicle toGroundStation actions log
  obtain ⟨last, run⟩ := machine.run_log (initial groundStation vehicle plugin) actions (by decide)
  obtain ⟨taken, member, reported⟩ : ∃ taken ∈ log,
      .callback (.success, toIntList plugin.list) ∈ taken.outputs := by decide
  have room : plugin.list.HasRoom := by decide +kernel
  have exact := (delivered_iff (by decide) (by decide) room run).2 taken member _ reported
  exact ⟨⟨taken, member, reported⟩, exact.mp rfl⟩

end DownloadSystem
end PilotingMavsdk
