import PilotingMavsdk.Proofs.TimedItems
import PilotingMavsdk.Proofs.TimedMessages

/-! A list with more items than a COUNT can number. The vehicle rejects it or counts zero, so that
no item is asked for and none is sent: nothing that could be lost. -/

namespace PilotingMavsdk
open Library

/-- The messages of a transfer that comes to nothing: no item is asked for and none is sent. -/
def Dull (message : Message) : Prop :=
  ∃ content, message.payload = inspection.payload content ∧
    (content = .request ∨ (∃ header, content = .count header 0) ∨ ∃ type, content = .ack type)

private theorem dull_request (sender : Sender) : Dull (sender.pack (inspection.payload .request)) :=
  ⟨_, rfl, .inl rfl⟩

private theorem dull_count (sender : Sender) (header : PlanId) :
    Dull (sender.pack (inspection.payload (.count header 0))) :=
  ⟨_, rfl, .inr (.inl ⟨header, rfl⟩)⟩

private theorem dull_ack (sender : Sender) (type : UInt8) :
    Dull (sender.pack (inspection.payload (.ack type))) :=
  ⟨_, rfl, .inr (.inr ⟨type, rfl⟩)⟩

theorem Dull.dispatched {item : WorkItem} {message : Message}
    {content : ListMessage PlanId WaypointItem} (dull : Dull message)
    (dispatched : inspection.dispatched item message = some content) :
    content = .request ∨ (∃ header, content = .count header 0) ∨ ∃ type, content = .ack type := by
  obtain ⟨own, payload, kind⟩ := dull
  have decoded := decode_of_dispatched dispatched
  rw [payload, inspection.decode_payload] at decoded
  cases decoded
  exact kind

theorem GroundStation.DownloadWorkItem.speaks_callbackAndReset (allowed : Message → Prop)
    (result : Result) (item : DownloadWorkItem PlanId WaypointItem) :
    (item.callbackAndReset result).Speaks allowed := by
  cases callback : item.callback <;> simp [callbackAndReset, callback, Effect.sent]

private theorem GroundStation.DownloadWorkItem.dulled :
    (workItemClass inspection).Answers (fun item => item.step = .requestList) Dull Dull := by
  intro call environment item requesting dull
  have requests (other : DownloadWorkItem PlanId WaypointItem) :
      (other.requestList inspection environment).Speaks Dull := by
    simp [requestList, connectionError, speaks_callbackAndReset, dull_request, Effect.sent]
  cases call with
  | start =>
    refine ⟨?_, ?_⟩
    · simp only [workItemClass, start, Outcome.after_item, requestList_item]
      split
      · simp [requesting]
      · simp [requesting]
    · exact (Outcome.speaks_after _ _).mpr ⟨by simp [Effect.sent], requests _⟩
  | cancel =>
    refine ⟨by simpa [workItemClass] using requesting, ?_⟩
    simp [workItemClass, cancel, sendCancelAndFinish, speaks_callbackAndReset, dull_ack,
      Effect.sent]
  | processTimeout =>
    simp only [workItemClass, processTimeout]
    split
    · exact ⟨requesting, speaks_callbackAndReset _ _ _⟩
    · rw [requesting]
      refine ⟨?_, (Outcome.speaks_after _ _).mpr ⟨by simp [Effect.sent], requests _⟩⟩
      simp only [Outcome.after_item, requestList_item]
      split
      · simp
      · simp
  | processMessage message =>
    have received := dull message rfl
    simp only [workItemClass, processMessage]
    split
    next header count dispatched =>
      rcases received.dispatched dispatched with same | ⟨_, same⟩ | ⟨_, same⟩
      · cases same
      · cases same
        refine ⟨by simpa [processCount] using requesting, ?_⟩
        simp [processCount, sendAckAndFinish, speaks_callbackAndReset, dull_ack, Effect.sent]
      · cases same
    next found dispatched =>
      rcases received.dispatched dispatched with same | ⟨_, same⟩ | ⟨_, same⟩ <;> cases same
    · exact ⟨requesting, by simp⟩

private theorem RoboticVehicle.UploadWorkItem.dulled {list : WaypointList}
    (long : 65536 ≤ list.items.length) :
    (workItemClass inspection).Answers (fun item => item.list = list) Dull Dull := by
  intro call environment item same dull
  refine ⟨(list_handle call environment item).trans same, ?_⟩
  cases call with
  | start =>
    simp only [workItemClass, start, same]
    split
    next empty =>
      rw [empty] at long
      simp at long
    · split
      next valid =>
        -- The longest valid list has 65536 items, whose number is zero in the COUNT.
        have length : list.items.length = 65536 := by
          have bound := inspection.length_le ((inspection.sequenceValid_iff _).mp valid)
          omega
        refine (Outcome.speaks_after _ _).mpr ⟨by simp [Effect.sent], ?_⟩
        simp [UploadWorkItem.sendCount, length, dull_count]
      · simp [Effect.sent]
  | cancel =>
    simp [workItemClass, UploadWorkItem.cancel, UploadWorkItem.sendCancelAndFinish, dull_ack,
      Effect.sent]
  | processTimeout => simp [workItemClass, processTimeout]
  | processMessage message =>
    have received := dull message rfl
    simp only [workItemClass, UploadWorkItem.processMessage]
    split
    next seq dispatched =>
      rcases received.dispatched dispatched with same | ⟨_, same⟩ | ⟨_, same⟩ <;> cases same
    · simp [UploadWorkItem.processAck, Effect.sent]
    · simp

namespace TimedDownload

private theorem not_dull (loss : Loss) (groundStation vehicle : Sender) :
    ¬Dull (loss.message groundStation vehicle) := by
  rintro ⟨content, payload, kind⟩
  cases loss with
  | read seq =>
    have same := inspection.payload_inj.mp payload
    subst same
    simp at kind
  | item found =>
    have same := inspection.payload_inj.mp payload
    subst same
    simp at kind

private theorem transmit_dull (arrival : Nat) {messages : List Message} {lost : Message}
    (pending : ¬Dull lost) (dull : ∀ message ∈ messages, Dull message) :
    transmit arrival messages (some lost) =
      (messages.map fun message => (arrival, message), some lost) := by
  induction messages with
  | nil => rfl
  | cons message messages ih =>
    have other : lost ≠ message := by
      rintro rfl
      exact pending (dull _ List.mem_cons_self)
    have rest := ih fun later member => dull later (List.mem_cons_of_mem _ member)
    simp [transmit, other, rest]

/-- The list is too long, and all that is under way comes to nothing. -/
structure Unfit (list : WaypointList) (lost : Message) (system : TimedDownload) : Prop where
  groundStation : ∀ timed ∈ system.groundStation, timed.item.step = .requestList
  vehicle : system.vehicle.Holds fun item => item.list = list
  upward : ∀ entry ∈ system.toVehicle, Dull entry.2
  downward : ∀ entry ∈ system.toGroundStation, Dull entry.2
  loss : system.loss = some lost

variable {list : WaypointList} {lost : Message} {system : TimedDownload} {latency : Nat}

private theorem dull_queue {now arrival : Nat} {queue : List (Nat × Message)} {sent : List Message}
    (queued : ∀ entry ∈ queue, Dull entry.2) (dull : ∀ message ∈ sent, Dull message) :
    ∀ entry ∈ queue.filter (now < ·.1) ++ sent.map fun message => (arrival, message),
      Dull entry.2 := by
  intro entry member
  rcases List.mem_append.mp member with old | new
  · exact queued entry (List.mem_filter.mp old).1
  · obtain ⟨message, present, rfl⟩ := List.mem_map.mp new
    exact dull message present

theorem Unfit.instant (long : 65536 ≤ list.items.length) (pending : ¬Dull lost)
    (here : Unfit list lost system) (latency : Nat) (orders : Orders) :
    Unfit list lost (system.instant latency orders).1 := by
  have ground : (Reaction.inOrder (TimedItem.perform
      (GroundStation.DownloadWorkItem.workItemClass inspection) system.now
      (arriving system.now system.toGroundStation)) orders.groundStation.val
      system.groundStation).Keeps (fun state => ∀ timed ∈ state, timed.item.step = .requestList)
      Dull :=
    Reaction.keeps_inOrder (fun task _ _ there =>
      TimedItem.keeps_perform GroundStation.DownloadWorkItem.dulled system.now task
        (of_arriving here.downward) there) here.groundStation
  have vehicle : (Reaction.inOrder (TimedVehicle.react system.now
      (arriving system.now system.toVehicle)) orders.vehicle.val system.vehicle).Keeps
      (TimedVehicle.Holds fun item => item.list = list) Dull :=
    Reaction.keeps_inOrder (fun task _ _ there =>
      TimedVehicle.keeps_react (RoboticVehicle.UploadWorkItem.dulled long) system.now task
        (of_arriving here.upward) there) here.vehicle
  have upward := transmit_dull (system.now + latency) pending ground.sent
  have downward := transmit_dull (system.now + latency) pending vehicle.sent
  simp only [TimedDownload.instant, here.loss, upward, downward]
  refine ⟨ground.holds, vehicle.holds, ?_, ?_, rfl⟩
  · exact dull_queue here.upward ground.sent
  · exact dull_queue here.downward vehicle.sent

private theorem unfit_initial (groundStation vehicle : Sender)
    (plugin : InspectionRoboticVehicleImpl) (list : InspectionBase.WaypointList) (loss : Loss) :
    Unfit (toIntList list) (loss.message groundStation vehicle)
      (initial groundStation vehicle plugin list loss) := by
  refine ⟨?_, ⟨rfl, ?_⟩, ?_, ?_, rfl⟩
  · intro timed same
    cases same
    rfl
  · rintro timed ⟨⟩
  · simp [initial]
  · simp [initial]

theorem loss_of_run {groundStation vehicle : Sender} {plugin : InspectionRoboticVehicleImpl}
    {list : InspectionBase.WaypointList} {loss : Loss} (long : 65536 ≤ list.items.length)
    {last : TimedDownload} {log : List (Taken TimedDownload Orders TimedDownload.Told)}
    (run : (machine latency).Run (initial groundStation vehicle plugin list loss) log last) :
    last.loss = some (loss.message groundStation vehicle) := by
  have preserved : ∀ taken, (machine latency).Legal taken →
      Unfit (toIntList list) (loss.message groundStation vehicle) taken.before →
      Unfit (toIntList list) (loss.message groundStation vehicle) taken.after := by
    intro taken legal before
    simp only [Machine.Legal, machine, Option.some.injEq] at legal
    have after := before.instant (by rwa [length_toIntList]) (not_dull loss groundStation vehicle)
      latency taken.action
    rwa [legal] at after
  exact (run.invariant preserved (unfit_initial groundStation vehicle plugin list loss)).1.loss

end TimedDownload
end PilotingMavsdk
