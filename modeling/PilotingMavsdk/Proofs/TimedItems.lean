import PilotingMavsdk.Proofs.HoldingVehicle
import PilotingMavsdk.TimedDownload

/-! What time does to a work item: nothing before its timer expires. A message that concerns it
postpones the expiry, and what happens then is up to the item. -/

namespace PilotingMavsdk
open Library

theorem steadyTime_lt {first second : Nat} :
    steadyTime first < steadyTime second ↔ first < second := by
  unfold steadyTime
  omega

private theorem steadyTimeInFuture_steadyTime (now : Nat) :
    steadyTimeInFuture (steadyTime now) timeoutMilliseconds = steadyTime (now + 500) := by
  unfold steadyTimeInFuture steadyTime timeoutMilliseconds
  omega

namespace TimedItem
variable {State Report : Type} {workItemClass : WorkItemClass State Report}
  {holds next : State → Prop} {deadline now : Nat} {arriving : List Message} {task : Task}
  {message : Message} {sent : List Message} {heard : List Report}

private theorem foldl_onTimers (effects : List (Effect Report)) (handler : TimeoutHandler Unit) :
    effects.foldl (onTimers now) handler =
      (effects.filter Effect.timer).foldl (onTimers now) handler := by
  induction effects generalizing handler with
  | nil => rfl
  | cons effect effects ih =>
    cases effect with
    | sendMessage | callback => exact ih handler
    | addTimeout | refreshTimeout | removeTimeout => exact ih _

/-- A call on an item: how the item stands then, what it sends and reports, and what it does with
its timer. -/
structure Handles (workItemClass : WorkItemClass State Report) (next : State → Prop)
    (sent : List Message) (heard : List Report) (timers : List (Effect Report)) (cookie : Cookie)
    (outcome : Outcome State Report) : Prop where
  does : outcome.Does next sent heard
  timers : outcome.effects.filter Effect.timer = timers
  cookie : (workItemClass.base outcome.item).cookie = cookie

/-- The item has started and is not done, and its timer is the only one. -/
structure Armed (workItemClass : WorkItemClass State Report) (holds : State → Prop)
    (deadline : Nat) (timed : TimedItem State) : Prop where
  item : holds timed.item
  started : (workItemClass.base timed.item).started = true
  running : (workItemClass.base timed.item).done = false
  known : (workItemClass.base timed.item).cookie < timed.nextCookie
  timers : timed.timeoutHandler.timeouts =
    [⟨(workItemClass.base timed.item).cookie, (), steadyTime deadline, timeoutMilliseconds⟩]

def Waits (workItemClass : WorkItemClass State Report) (holds : State → Prop) (deadline : Nat)
    (state : Option (TimedItem State)) : Prop :=
  ∃ timed, state = some timed ∧ Armed workItemClass holds deadline timed

def Fresh (workItemClass : WorkItemClass State Report) (item : State)
    (state : Option (TimedItem State)) : Prop :=
  state = some { item := item } ∧ (workItemClass.base item).started = false ∧
    (workItemClass.base item).done = false

def Settled (workItemClass : WorkItemClass State Report) (state : Option (TimedItem State)) :
    Prop :=
  ∀ timed ∈ state, (workItemClass.base timed.item).started = true ∧
    (workItemClass.base timed.item).done = true ∧ timed.timeoutHandler.timeouts = []

theorem Waits.quiet (early : task = .timers → now ≤ deadline)
    (nothing : task = .messages → arriving = []) :
    Reaction.Quiet (Waits workItemClass holds deadline)
      (perform workItemClass now arriving task) := by
  rintro _ ⟨timed, rfl, armed⟩
  cases task with
  | messages =>
    rw [nothing rfl]
    exact ⟨⟨timed, rfl, armed⟩, rfl, rfl⟩
  | timers =>
    have unexpired : ¬steadyTime deadline < steadyTime now := by
      rw [steadyTime_lt]
      exact Nat.not_lt.mpr (early rfl)
    simp only [perform, runOnce, armed.timers, List.filter_cons, unexpired, decide_false]
    exact ⟨⟨timed, rfl, armed⟩, rfl, rfl⟩
  | work =>
    simp only [perform, doWork, armed.started, if_true, Reaction.map, armed.running]
    exact ⟨⟨timed, rfl, armed⟩, rfl, rfl⟩

theorem Fresh.quiet {item : State} (other : task ≠ .work)
    (nothing : task = .messages → arriving = []) :
    Reaction.Quiet (Fresh workItemClass item) (perform workItemClass now arriving task) := by
  rintro _ ⟨rfl, fresh⟩
  cases task with
  | messages =>
    rw [nothing rfl]
    exact ⟨⟨rfl, fresh⟩, rfl, rfl⟩
  | timers => exact ⟨⟨rfl, fresh⟩, rfl, rfl⟩
  | work => exact absurd rfl other

theorem Settled.quiet (nothing : task = .messages → arriving = []) :
    Reaction.Quiet (Settled workItemClass) (perform workItemClass now arriving task) := by
  intro state settled
  cases state with
  | none => exact ⟨settled, rfl, rfl⟩
  | some timed =>
    obtain ⟨started, done, timers⟩ := settled timed rfl
    cases task with
    | messages =>
      rw [nothing rfl]
      exact ⟨settled, rfl, rfl⟩
    | timers =>
      simp only [perform, runOnce, timers]
      exact ⟨settled, rfl, rfl⟩
    | work =>
      simp only [perform, doWork, started, if_true, Reaction.map, done]
      exact ⟨by simp [Settled], rfl, rfl⟩

theorem quiet_none : Reaction.Quiet (· = none) (perform workItemClass now arriving task) := by
  rintro _ rfl
  exact ⟨rfl, rfl, rfl⟩

theorem Waits.imp {after : State → Prop} {state : Option (TimedItem State)}
    (waits : Waits workItemClass holds deadline state) (implies : ∀ item, holds item → after item) :
    Waits workItemClass after deadline state := by
  obtain ⟨timed, rfl, armed⟩ := waits
  exact ⟨timed, rfl, implies _ armed.item, armed.started, armed.running, armed.known, armed.timers⟩

theorem Fresh.starts {item : State} {state : Option (TimedItem State)}
    (handles : ∀ cookie, Handles workItemClass next sent heard [.addTimeout cookie] cookie
      (workItemClass.handle .start ⟨true, cookie⟩ item))
    (alive : ∀ item, next item → (workItemClass.base item).started = true ∧
      (workItemClass.base item).done = false) (fresh : Fresh workItemClass item state) :
    (perform workItemClass now arriving .work state).Yields
      (Waits workItemClass next (now + 500)) sent heard := by
  obtain ⟨rfl, waiting, _⟩ := fresh
  have called := handles 1
  have living := alive _ called.does.item
  simp only [perform, doWork, waiting, Bool.false_eq_true, if_false, call, Reaction.map]
  refine ⟨?_, called.does.sent, called.does.heard⟩
  rw [living.2]
  refine ⟨_, rfl, called.does.item, living.1, living.2, ?_, ?_⟩
  · simp [called.cookie]
  · simp [foldl_onTimers, called.timers, onTimers, TimeoutHandler.add, called.cookie,
      steadyTimeInFuture_steadyTime]

theorem Waits.hears {state : Option (TimedItem State)}
    (handles : ∀ cookie item, holds item → Handles workItemClass next sent heard
      [.refreshTimeout (workItemClass.base item).cookie] (workItemClass.base item).cookie
      (workItemClass.handle (.processMessage message) ⟨true, cookie⟩ item))
    (alive : ∀ item, next item → (workItemClass.base item).started = true ∧
      (workItemClass.base item).done = false) (waits : Waits workItemClass holds deadline state) :
    (perform workItemClass now [message] .messages state).Yields
      (Waits workItemClass next (now + 500)) sent heard := by
  obtain ⟨timed, rfl, armed⟩ := waits
  have called := handles timed.nextCookie timed.item armed.item
  have living := alive _ called.does.item
  simp only [perform, Reaction.inOrder_singleton, call, Reaction.map]
  refine ⟨⟨_, rfl, called.does.item, living.1, living.2, ?_, ?_⟩, called.does.sent,
    called.does.heard⟩
  · rw [called.cookie]
    exact Nat.lt_succ_of_lt armed.known
  · simp [foldl_onTimers, called.timers, onTimers, TimeoutHandler.refresh, called.cookie,
      armed.timers, steadyTimeInFuture_steadyTime]

theorem Waits.ends {state : Option (TimedItem State)}
    (does : ∀ cookie item, holds item →
      (workItemClass.handle (.processMessage message) ⟨true, cookie⟩ item).Does
        (fun item => (workItemClass.base item).started = true ∧
          (workItemClass.base item).done = true) sent heard)
    (removes : ∀ cookie item, holds item →
      (workItemClass.handle (.processMessage message) ⟨true, cookie⟩ item).effects.filter
          Effect.timer = [.removeTimeout (workItemClass.base item).cookie] ∨
      (workItemClass.handle (.processMessage message) ⟨true, cookie⟩ item).effects.filter
          Effect.timer = [.refreshTimeout (workItemClass.base item).cookie,
            .removeTimeout (workItemClass.base item).cookie])
    (waits : Waits workItemClass holds deadline state) :
    (perform workItemClass now [message] .messages state).Yields (Settled workItemClass) sent
      heard := by
  obtain ⟨timed, rfl, armed⟩ := waits
  have called := does timed.nextCookie timed.item armed.item
  simp only [perform, Reaction.inOrder_singleton, call, Reaction.map]
  refine ⟨?_, called.sent, called.heard⟩
  intro other same
  cases same
  refine ⟨called.item.1, called.item.2, ?_⟩
  change (List.foldl (onTimers now) timed.timeoutHandler _).timeouts = []
  rw [foldl_onTimers]
  rcases removes timed.nextCookie timed.item armed.item with timers | timers
  · simp [timers, onTimers, TimeoutHandler.remove, armed.timers]
  · simp [timers, onTimers, TimeoutHandler.remove, TimeoutHandler.refresh, armed.timers]

theorem Waits.expires {state : Option (TimedItem State)} (late : deadline < now)
    (waits : Waits workItemClass holds deadline state) :
    ∃ timed, holds timed.item ∧ timed.timeoutHandler.timeouts = [] ∧
      perform workItemClass now arriving .timers state =
        (call workItemClass .processTimeout now timed).map some := by
  obtain ⟨timed, rfl, armed⟩ := waits
  have expired := steadyTime_lt.mpr late
  refine ⟨{ timed with timeoutHandler :=
    timed.timeoutHandler.remove (workItemClass.base timed.item).cookie }, armed.item, ?_, ?_⟩
  · simp [TimeoutHandler.remove, armed.timers]
  · simp [perform, runOnce, armed.timers, expired, Reaction.inOrder_singleton, expire,
      TimeoutHandler.cookies]

theorem Waits.rearms {state : Option (TimedItem State)} (late : deadline < now)
    (handles : ∀ cookie item, holds item → Handles workItemClass next sent heard
      [.addTimeout cookie] cookie (workItemClass.handle .processTimeout ⟨true, cookie⟩ item))
    (alive : ∀ item, next item → (workItemClass.base item).started = true ∧
      (workItemClass.base item).done = false) (waits : Waits workItemClass holds deadline state) :
    (perform workItemClass now arriving .timers state).Yields
      (Waits workItemClass next (now + 500)) sent heard := by
  obtain ⟨timed, held, timers, expired⟩ := waits.expires late
  have called := handles timed.nextCookie timed.item held
  have living := alive _ called.does.item
  rw [expired]
  simp only [call, Reaction.map]
  refine ⟨⟨_, rfl, called.does.item, living.1, living.2, ?_, ?_⟩, called.does.sent,
    called.does.heard⟩
  · rw [called.cookie]
    exact Nat.lt_succ_self _
  · simp [foldl_onTimers, called.timers, onTimers, TimeoutHandler.add, called.cookie, timers,
      steadyTimeInFuture_steadyTime]

theorem Waits.tells {state : Option (TimedItem State)} {bad : Report → Prop}
    (late : deadline < now)
    (tells : ∀ cookie item, holds item → ∃ report ∈
      (workItemClass.handle .processTimeout ⟨true, cookie⟩ item).effects.filterMap
        Effect.reported, bad report)
    (waits : Waits workItemClass holds deadline state) :
    ∃ report ∈ (perform workItemClass now arriving .timers state).told, bad report := by
  obtain ⟨timed, held, _, expired⟩ := waits.expires late
  rw [expired]
  exact tells timed.nextCookie timed.item held

end TimedItem

namespace GroundStation.DownloadWorkItem
variable {sender : Sender} {list : WaypointList} {place tries : Nat} {cookie : Cookie}
  {item : DownloadWorkItem PlanId WaypointItem} {message : Message} {found : WaypointItem}

/-- As many items as that have arrived, and the next one has been asked for so often. -/
structure Polling (sender : Sender) (list : WaypointList) (place tries : Nat)
    (item : DownloadWorkItem PlanId WaypointItem) : Prop where
  reading : Reading inspection sender list place item
  step : item.step = .requestItem
  tries : item.retriesDone ≤ tries

theorem Polling.weaken {more : Nat} (polling : Polling sender list place tries item)
    (fewer : tries ≤ more) : Polling sender list place more item :=
  ⟨polling.reading, polling.step, Nat.le_trans polling.tries fewer⟩

theorem handles_start :
    TimedItem.Handles (workItemClass inspection) (Requesting inspection sender)
      [sender.pack (inspection.payload .request)] [] [.addTimeout cookie] cookie
      ((create inspection sender true).start inspection ⟨true, cookie⟩) :=
  ⟨does_start rfl, rfl, rfl⟩

theorem processMessage_count (cookie : Cookie) (requesting : Requesting inspection sender item)
    (inhabited : list.items ≠ []) (fits : list.items.length < 65536)
    (payload : message.payload =
      inspection.payload (.count list.header (UInt16.ofNat list.items.length))) :
    item.processMessage inspection ⟨true, cookie⟩ message =
      ⟨{ item with
          nextSequence := 0
          step := .requestItem
          retriesDone := 1
          expectedCount := (UInt16.ofNat list.items.length).toNat
          list := ⟨list.header, item.list.items⟩ },
        [.refreshTimeout item.cookie,
          .sendMessage (item.sender.pack (inspection.payload (.read 0))) true]⟩ := by
  have positive : UInt16.ofNat list.items.length ≠ 0 := by
    intro zero
    have number := congrArg UInt16.toNat zero
    rw [UInt16.toNat_ofNat', Nat.mod_eq_of_lt fits] at number
    exact inhabited (List.length_eq_zero_iff.mp number)
  unfold processMessage
  rw [dispatched_of_registered payload requesting.counts]
  simp only [processCount, positive, if_false]
  rfl

theorem handles_count (requesting : Requesting inspection sender item)
    (inhabited : list.items ≠ []) (fits : list.items.length < 65536)
    (payload : message.payload =
      inspection.payload (.count list.header (UInt16.ofNat list.items.length))) :
    TimedItem.Handles (workItemClass inspection) (Polling sender list 0 1)
      [sender.pack (inspection.payload (.read 0))] [] [.refreshTimeout item.cookie] item.cookie
      (item.processMessage inspection ⟨true, cookie⟩ message) := by
  have delivered : Environment.sent ⟨true, cookie⟩ = true := rfl
  obtain ⟨reading, sent, heard⟩ := does_count delivered requesting inhabited fits payload
  have counted := processMessage_count cookie requesting inhabited fits payload
  refine ⟨⟨⟨reading, ?_, ?_⟩, sent, heard⟩, ?_, ?_⟩
  · rw [counted]
  · rw [counted]
  · rw [counted]
    rfl
  · rw [counted]
    rfl

private theorem processMessage_item (cookie : Cookie)
    (polling : Polling sender list place tries item) (more : place + 1 ≠ list.items.length)
    (payload : message.payload = inspection.payload (.item found)) :
    item.processMessage inspection ⟨true, cookie⟩ message =
      ⟨{ item with
          list := ⟨item.list.header, item.list.items ++ [found]⟩
          nextSequence := found.seq.toNat + 1
          retriesDone := 1 },
        [.refreshTimeout item.cookie, .sendMessage (item.sender.pack (inspection.payload
          (.read (UInt16.ofNat (found.seq.toNat + 1))))) true]⟩ := by
  unfold processMessage
  rw [dispatched_of_registered payload polling.reading.takes]
  simp only [processItem, polling.reading.nextSequence, polling.reading.expectedCount, more,
    if_false]
  rfl

theorem handles_item (polling : Polling sender list place tries item)
    (present : list.items[place]? = some found) (position : inspection.position found = place)
    (more : place + 1 ≠ list.items.length)
    (payload : message.payload = inspection.payload (.item found)) :
    TimedItem.Handles (workItemClass inspection) (Polling sender list (place + 1) 1)
      [sender.pack (inspection.payload (.read (UInt16.ofNat (place + 1))))] []
      [.refreshTimeout item.cookie] item.cookie
      (item.processMessage inspection ⟨true, cookie⟩ message) := by
  have delivered : Environment.sent ⟨true, cookie⟩ = true := rfl
  obtain ⟨reading, sent, heard⟩ :=
    does_item delivered polling.reading present position more payload
  have extended := processMessage_item cookie polling more payload
  refine ⟨⟨⟨reading, ?_, ?_⟩, sent, heard⟩, ?_, ?_⟩
  · rw [extended]
    exact polling.step
  · rw [extended]
  · rw [extended]
    rfl
  · rw [extended]
    rfl

theorem timers_last (polling : Polling sender list place tries item)
    (last : place + 1 = list.items.length)
    (payload : message.payload = inspection.payload (.item found)) :
    (item.processMessage inspection ⟨true, cookie⟩ message).effects.filter Effect.timer =
      [.refreshTimeout item.cookie, .removeTimeout item.cookie] := by
  unfold processMessage
  rw [dispatched_of_registered payload polling.reading.takes]
  simp only [processItem, polling.reading.nextSequence, polling.reading.expectedCount, last,
    if_true, sendAckAndFinish]
  simp only [Outcome.sending, callbackAndReset, polling.reading.callback, if_true]
  rfl

private theorem processTimeout_polling (polling : Polling sender list place tries item)
    (fewer : tries < retries) :
    item.processTimeout inspection ⟨true, cookie⟩ =
      ⟨{ item with cookie := cookie, retriesDone := item.retriesDone + 1 },
        [.addTimeout cookie, .sendMessage (item.sender.pack (inspection.payload
          (.read (UInt16.ofNat item.nextSequence)))) true]⟩ := by
  have remaining : ¬item.retriesDone ≥ retries := by
    have bound := polling.tries
    omega
  simp only [processTimeout, remaining, if_false, polling.step]
  rfl

theorem handles_timeout (polling : Polling sender list place tries item)
    (fewer : tries < retries) :
    TimedItem.Handles (workItemClass inspection) (Polling sender list place (tries + 1))
      [sender.pack (inspection.payload (.read (UInt16.ofNat place)))] [] [.addTimeout cookie]
      cookie (item.processTimeout inspection ⟨true, cookie⟩) := by
  have bound := polling.tries
  obtain ⟨rfl, takes, started, running, callback, stored, rfl, expected⟩ := polling.reading
  rw [processTimeout_polling polling fewer]
  refine ⟨⟨⟨?_, polling.step, ?_⟩, rfl, rfl⟩, rfl, rfl⟩
  · exact ⟨rfl, takes, started, running, callback, stored, rfl, expected⟩
  · simp only
    omega

end GroundStation.DownloadWorkItem

namespace UploadWorkItem
variable {sender : Sender} {list : WaypointList} {place tries : Nat} {cookie : Cookie}
  {item : UploadWorkItem PlanId WaypointItem InspectionAck} {message : Message}
  {found : WaypointItem}

/-- As many items as that have been sent, the last one so often. -/
structure Answering (sender : Sender) (list : WaypointList) (place tries : Nat)
    (item : UploadWorkItem PlanId WaypointItem InspectionAck) : Prop where
  serving : Serving inspection sender list place item
  tries : item.retriesDone ≤ tries

private theorem processMessage_read (serving : Serving inspection sender list item.nextSequence
    item)
    (present : list.items[place]? = some found) (numbered : Numbered inspection list)
    (fits : place < 65536)
    (near : item.nextSequence = place ∨
      item.nextSequence = place + 1 ∧ item.retriesDone < retries)
    (payload : message.payload = inspection.payload (.read (UInt16.ofNat place))) :
    item.processMessage inspection ⟨true, cookie⟩ message =
      ⟨{ item with
          step := .sendItems
          nextSequence := place + 1
          retriesDone := (if item.nextSequence = place then 0 else item.retriesDone) + 1 },
        [.refreshTimeout item.cookie,
          .sendMessage (sender.pack (inspection.payload (.item found))) true]⟩ := by
  have number : (UInt16.ofNat place).toNat = place := by
    rw [UInt16.toNat_ofNat']
    exact Nat.mod_eq_of_lt fits
  have notAhead : ¬item.nextSequence < place := by omega
  have notTired : ¬(item.nextSequence > place ∧ item.retriesDone ≥ retries) := by omega
  unfold processMessage
  rw [dispatched_of_registered payload serving.read]
  simp only [processRead, number, notAhead, notTired, if_false, sendItem, serving.list, present,
    serving.sender, numbered place found present]
  rfl

theorem handles_read (serving : Serving inspection sender list place item)
    (present : list.items[place]? = some found) (numbered : Numbered inspection list)
    (fits : place < 65536)
    (payload : message.payload = inspection.payload (.read (UInt16.ofNat place))) :
    TimedItem.Handles (RoboticVehicle.UploadWorkItem.workItemClass inspection)
      (Answering sender list (place + 1) 1) [sender.pack (inspection.payload (.item found))] []
      [.refreshTimeout item.cookie] item.cookie
      (item.processMessage inspection ⟨true, cookie⟩ message) := by
  obtain ⟨rfl, read, ack, started, running, callback, rfl, rfl⟩ := serving
  rw [processMessage_read ⟨rfl, read, ack, started, running, callback, rfl, rfl⟩ present numbered
    fits (.inl rfl) payload]
  refine ⟨⟨⟨?_, ?_⟩, rfl, rfl⟩, rfl, rfl⟩
  · exact ⟨rfl, read, ack, started, running, callback, rfl, rfl⟩
  · simp

theorem handles_repeated (answering : Answering sender list (place + 1) tries item)
    (fewer : tries < retries) (present : list.items[place]? = some found)
    (numbered : Numbered inspection list) (fits : place < 65536)
    (payload : message.payload = inspection.payload (.read (UInt16.ofNat place))) :
    TimedItem.Handles (RoboticVehicle.UploadWorkItem.workItemClass inspection)
      (Serving inspection sender list (place + 1)) [sender.pack (inspection.payload (.item found))]
      [] [.refreshTimeout item.cookie] item.cookie
      (item.processMessage inspection ⟨true, cookie⟩ message) := by
  have bound := answering.tries
  obtain ⟨rfl, read, ack, started, running, callback, rfl, nextSequence⟩ := answering.serving
  rw [processMessage_read ⟨rfl, read, ack, started, running, callback, rfl, rfl⟩ present numbered
    fits (.inr ⟨nextSequence, by omega⟩) payload]
  refine ⟨⟨?_, rfl, rfl⟩, rfl, rfl⟩
  exact ⟨rfl, read, ack, started, running, callback, rfl, rfl⟩

theorem timers_ack (serving : Serving inspection sender list place item) {type : UInt8}
    (payload : message.payload = inspection.payload (.ack type)) :
    (item.processMessage inspection ⟨true, cookie⟩ message).effects.filter Effect.timer =
      [.removeTimeout item.cookie] := by
  unfold processMessage
  rw [dispatched_of_registered payload serving.ack]
  simp only [processAck, callbackAndReset, serving.callback, if_true]
  rfl

theorem handles_start (inhabited : list.items ≠ [])
    (valid : inspection.sequenceValid 0 list.items = true) :
    TimedItem.Handles (RoboticVehicle.UploadWorkItem.workItemClass inspection)
      (Serving inspection sender list 0)
      [sender.pack (inspection.payload (.count list.header (UInt16.ofNat list.items.length)))] []
      [.addTimeout cookie] cookie
      (RoboticVehicle.UploadWorkItem.start inspection ⟨true, cookie⟩
        (RoboticVehicle.UploadWorkItem.create inspection sender list true)) := by
  refine ⟨RoboticVehicle.UploadWorkItem.does_start rfl inhabited valid, ?_, ?_⟩
  · simp only [RoboticVehicle.UploadWorkItem.start, RoboticVehicle.UploadWorkItem.create, inhabited,
      valid, if_false, if_true]
    rfl
  · simp only [RoboticVehicle.UploadWorkItem.start, RoboticVehicle.UploadWorkItem.create, inhabited,
      valid, if_false, if_true]
    rfl

theorem processTimeout_serving (serving : Serving inspection sender list place item) :
    (.timeout, item.ack) ∈
      (RoboticVehicle.UploadWorkItem.processTimeout item).effects.filterMap Effect.reported := by
  simp [RoboticVehicle.UploadWorkItem.processTimeout, callbackAndReset, serving.callback,
    Effect.reported]

end UploadWorkItem
namespace TimedVehicle
variable
  {before after : Option (TimedItem (UploadWorkItem PlanId WaypointItem InspectionAck)) → Prop}
  {sender : Sender} {list : WaypointList} {now : Nat} {arriving : List Message} {task : Task}
  {message : Message} {sent : List Message} {heard : List (UploadWorkItem.Report InspectionAck)}
  {vehicle : TimedVehicle}

/-- The plugin holds the list and takes REQUEST as long as there is no upload. -/
structure Stands (sender : Sender) (list : WaypointList)
    (upload : Option (TimedItem (UploadWorkItem PlanId WaypointItem InspectionAck)) → Prop)
    (vehicle : TimedVehicle) : Prop where
  sender : vehicle.sender = sender
  registered : inspection.id .request ∈ vehicle.plugin.handlers
  callback : vehicle.plugin.uploadCallback = true
  transfer : vehicle.plugin.transfer = true
  list : toIntList vehicle.plugin.list = list
  last : vehicle.plugin.lastUpload = vehicle.upload.isSome
  upload : upload vehicle.upload

def output (report : UploadWorkItem.Report InspectionAck) : Vehicle.Output :=
  .uploadCallback (InspectionRoboticVehicleImpl.convertResult report.1) report.2

theorem filterMap_report (callback : vehicle.plugin.uploadCallback = true)
    (heard : List (UploadWorkItem.Report InspectionAck)) :
    heard.filterMap vehicle.report = heard.map output := by
  have always : vehicle.report = fun report => some (output report) := by
    funext heard
    simp [TimedVehicle.report, callback, output]
  rw [always]
  exact congrFun List.filterMap_eq_map heard

private theorem Stands.performs
    (performs : ∀ upload, before upload →
      (TimedItem.perform (RoboticVehicle.UploadWorkItem.workItemClass inspection) now arriving task
        upload).Yields after sent heard)
    (stands : Stands sender list before vehicle) :
    (vehicle.perform now arriving task).Yields (Stands sender list after) sent
      (heard.map output) := by
  have performed := performs vehicle.upload stands.upload
  refine ⟨?_, performed.sent, ?_⟩
  · exact ⟨stands.sender, stands.registered, stands.callback, stands.transfer, stands.list, rfl,
      performed.holds⟩
  · simp only [perform, performed.told]
    exact filterMap_report stands.callback heard

theorem Stands.acts
    (performs : ∀ upload, before upload →
      (TimedItem.perform (RoboticVehicle.UploadWorkItem.workItemClass inspection) now arriving task
        upload).Yields after sent [])
    (stands : Stands sender list before vehicle) :
    (vehicle.perform now arriving task).Yields (Stands sender list after) sent [] := by
  have performed := stands.performs performs
  exact ⟨performed.holds, performed.sent, performed.told⟩

theorem Stands.quiet
    (quiet : Reaction.Quiet before
      (TimedItem.perform (RoboticVehicle.UploadWorkItem.workItemClass inspection) now arriving
        task)) (nothing : task = .messages → arriving = []) :
    Reaction.Quiet (Stands sender list before) (react now arriving task) := by
  intro vehicle stands
  cases task with
  | messages =>
    rw [nothing rfl]
    exact ⟨stands, rfl, rfl⟩
  | timers | work => exact stands.acts quiet

theorem Stands.hears {content : ListMessage PlanId WaypointItem}
    (payload : message.payload = inspection.payload content) (request : content ≠ .request)
    (count : content.kind ≠ .count)
    (performs : ∀ upload, before upload →
      (TimedItem.perform (RoboticVehicle.UploadWorkItem.workItemClass inspection) now [message]
        .messages upload).Yields after sent heard)
    (stands : Stands sender list before vehicle) :
    (react now [message] .messages vehicle).Yields (Stands sender list after) sent
      (heard.map output) := by
  have performed := stands.performs performs
  simp only [react, Reaction.inOrder_singleton, receive,
    InspectionRoboticVehicleImpl.processMessage_other payload request count]
  refine ⟨performed.holds, performed.sent, ?_⟩
  simp [performed.told]

theorem Stands.hears' {content : ListMessage PlanId WaypointItem}
    (payload : message.payload = inspection.payload content) (request : content ≠ .request)
    (count : content.kind ≠ .count)
    (performs : ∀ upload, before upload →
      (TimedItem.perform (RoboticVehicle.UploadWorkItem.workItemClass inspection) now [message]
        .messages upload).Yields after sent [])
    (stands : Stands sender list before vehicle) :
    (react now [message] .messages vehicle).Yields (Stands sender list after) sent [] := by
  have performed := stands.hears payload request count performs
  exact ⟨performed.holds, performed.sent, performed.told⟩

theorem Stands.imp (stands : Stands sender list before vehicle)
    (implies : ∀ upload, before upload → after upload) : Stands sender list after vehicle :=
  ⟨stands.sender, stands.registered, stands.callback, stands.transfer, stands.list, stands.last,
    implies _ stands.upload⟩

theorem Stands.accepts (payload : message.payload = inspection.payload .request)
    (stands : Stands sender list (· = none) vehicle) :
    (react now [message] .messages vehicle).Yields
      (Stands sender list (TimedItem.Fresh
        (RoboticVehicle.UploadWorkItem.workItemClass inspection)
        (RoboticVehicle.UploadWorkItem.create inspection sender list true))) [] [] := by
  have performed : (vehicle.perform now [message] .messages).Yields
      (Stands sender list (· = none)) [] [] := by
    apply stands.acts
    rintro _ rfl
    exact ⟨rfl, rfl, rfl⟩
  have there := performed.holds
  have idle : (vehicle.perform now [message] .messages).state.plugin.lastUpload = false := by
    rw [there.last, there.upload]
    rfl
  simp only [react, Reaction.inOrder_singleton, receive,
    InspectionRoboticVehicleImpl.processMessage_request there.registered there.callback idle
      there.transfer payload]
  refine ⟨?_, performed.sent, ?_⟩
  · refine ⟨there.sender, there.registered, there.callback, there.transfer, there.list, rfl, ?_⟩
    refine ⟨?_, rfl, rfl⟩
    simp only [List.foldl_cons, List.foldl_nil, accept, there.sender, there.list]
  · simp [performed.told, Vehicle.pluginOutput]

end TimedVehicle
end PilotingMavsdk
