import PilotingMavsdk.Proofs.Legibility
import PilotingMavsdk.TimedDownload

/-! What is under way in a download in which time counts, as far as it follows from what each of the
items sends. -/

namespace PilotingMavsdk
open Library

/-- An item that hears nothing else keeps the property and sends nothing else. -/
def WorkItemClass.Answers {State Report : Type} (workItemClass : WorkItemClass State Report)
    (holds : State → Prop) (heard allowed : Message → Prop) : Prop :=
  ∀ call environment item, holds item →
    (∀ message, call = .processMessage message → heard message) →
    holds (workItemClass.handle call environment item).item ∧
      (workItemClass.handle call environment item).Speaks allowed

theorem WorkItemClass.Keeps.answers {State Report : Type}
    {workItemClass : WorkItemClass State Report} {holds : State → Prop}
    {heard allowed : Message → Prop} (keeps : workItemClass.Keeps holds allowed) :
    workItemClass.Answers holds heard allowed :=
  fun call environment item held _ => keeps call environment item held

namespace TimedItem
variable {State Report : Type} {workItemClass : WorkItemClass State Report}
  {holds : State → Prop} {heard allowed : Message → Prop} {now : Nat} {arriving : List Message}
  {task : Task}

private theorem keeps_call (answers : workItemClass.Answers holds heard allowed) {call : Call}
    {timed : TimedItem State} (hears : ∀ message, call = .processMessage message → heard message)
    (there : holds timed.item) :
    (TimedItem.call workItemClass call now timed).Keeps (fun timed => holds timed.item)
      allowed := by
  obtain ⟨after, speaks⟩ := answers call ⟨true, timed.nextCookie⟩ timed.item there hears
  exact ⟨after, speaks.filterMap⟩

private theorem keeps_expire (answers : workItemClass.Answers holds heard allowed)
    {timed : TimedItem State} (cookie : Cookie) (there : holds timed.item) :
    (expire workItemClass now cookie timed).Keeps (fun timed => holds timed.item) allowed := by
  unfold expire
  split
  · exact keeps_call answers (fun _ same => nomatch same) there
  · exact ⟨there, by simp⟩

private theorem keeps_doWork (answers : workItemClass.Answers holds heard allowed)
    {timed : TimedItem State} (there : holds timed.item) :
    (doWork workItemClass now timed).Keeps (fun state => ∀ timed ∈ state, holds timed.item)
      allowed := by
  have worked : (if (workItemClass.base timed.item).started then { state := timed }
      else TimedItem.call workItemClass .start now timed).Keeps
        (fun timed => holds timed.item) allowed := by
    split
    · exact ⟨there, by simp⟩
    · exact keeps_call answers (fun _ same => nomatch same) there
  unfold doWork
  apply worked.map
  intro after there timed same
  split at same
  · cases same
  · cases same
    exact there

theorem keeps_perform (answers : workItemClass.Answers holds heard allowed) (now : Nat)
    (task : Task) {state : Option (TimedItem State)} (hears : ∀ message ∈ arriving, heard message)
    (there : ∀ timed ∈ state, holds timed.item) :
    (perform workItemClass now arriving task state).Keeps
      (fun state => ∀ timed ∈ state, holds timed.item) allowed := by
  cases state with
  | none => exact ⟨there, by simp [perform]⟩
  | some timed =>
    have here : holds timed.item := there timed rfl
    cases task with
    | messages =>
      have received : (Reaction.inOrder (fun message =>
          TimedItem.call workItemClass (.processMessage message) now) arriving timed).Keeps
            (fun timed => holds timed.item) allowed := by
        refine Reaction.keeps_inOrder (fun message member _ there => ?_) here
        exact keeps_call answers (fun _ same => by cases same; exact hears message member) there
      exact received.map fun timed there => by simpa using there
    | timers =>
      have expired : (runOnce workItemClass now timed).Keeps (fun timed => holds timed.item)
          allowed :=
        Reaction.keeps_inOrder (fun cookie _ _ there => keeps_expire answers cookie there) here
      exact expired.map fun timed there => by simpa using there
    | work => exact keeps_doWork answers here

end TimedItem

namespace TimedVehicle
variable {held : UploadWorkItem PlanId WaypointItem InspectionAck → Prop}
  {heard allowed : Message → Prop} {now : Nat} {arriving : List Message} {task : Task}
  {vehicle : TimedVehicle}

/-- The upload has the property, and the next one would. -/
structure Holds (held : UploadWorkItem PlanId WaypointItem InspectionAck → Prop)
    (vehicle : TimedVehicle) : Prop where
  created : held (RoboticVehicle.UploadWorkItem.create inspection vehicle.sender
    (toIntList vehicle.plugin.list) true)
  upload : ∀ timed ∈ vehicle.upload, held timed.item

abbrev Answering (held : UploadWorkItem PlanId WaypointItem InspectionAck → Prop)
    (heard allowed : Message → Prop) : Prop :=
  (RoboticVehicle.UploadWorkItem.workItemClass inspection).Answers held heard allowed

theorem keeps_perform (answers : Answering held heard allowed) (now : Nat) (task : Task)
    (hears : ∀ message ∈ arriving, heard message) (there : vehicle.Holds held) :
    (vehicle.perform now arriving task).Keeps (Holds held) allowed := by
  have performed := TimedItem.keeps_perform answers now task hears there.upload
  exact ⟨⟨there.created, performed.holds⟩, performed.sent⟩

private theorem holds_accept {effects : List InspectionRoboticVehicleImpl.Effect}
    (own : ∀ uploaded, .uploadItems uploaded ∈ effects → uploaded = toIntList vehicle.plugin.list)
    (there : vehicle.Holds held) : (effects.foldl accept vehicle).Holds held := by
  induction effects generalizing vehicle with
  | nil => exact there
  | cons effect effects ih =>
    have rest (uploaded : WaypointList) (member : .uploadItems uploaded ∈ effects) :=
      own uploaded (List.mem_cons_of_mem _ member)
    cases effect with
    | uploadItems uploaded =>
      refine ih rest ⟨there.created, fun timed same => ?_⟩
      cases same
      rw [own uploaded List.mem_cons_self]
      exact there.created
    | downloadItems | uploadCallback | downloadCallback | setCurrentCallback =>
      exact ih rest there

private theorem keeps_receive (answers : Answering held heard allowed) {message : Message}
    (hears : heard message) (there : vehicle.Holds held) :
    (vehicle.receive now message).Keeps (Holds held) allowed := by
  have performed : (vehicle.perform now [message] .messages).Keeps (Holds held) allowed :=
    keeps_perform answers now .messages (by simpa using hears) there
  refine ⟨?_, performed.sent⟩
  obtain ⟨created, upload⟩ := performed.holds
  have list := @InspectionRoboticVehicleImpl.list_processMessage
    (vehicle.perform now [message] .messages).state.plugin message
  apply holds_accept
  · intro uploaded member
    obtain ⟨_, same⟩ := InspectionRoboticVehicleImpl.justified_processMessage _ member
    exact same.trans (congrArg toIntList list.symm)
  · refine ⟨?_, upload⟩
    rw [← list] at created
    exact created

theorem keeps_react (answers : Answering held heard allowed) (now : Nat) (task : Task)
    (hears : ∀ message ∈ arriving, heard message) (there : vehicle.Holds held) :
    (vehicle.react now arriving task).Keeps (Holds held) allowed := by
  cases task with
  | messages =>
    exact Reaction.keeps_inOrder
      (fun message member _ there => keeps_receive answers (hears message member) there) there
  | timers | work => exact keeps_perform answers now _ hears there

end TimedVehicle

namespace TimedDownload

theorem of_arriving {heard : Message → Prop} {now : Nat} {queue : List (Nat × Message)}
    (queued : ∀ entry ∈ queue, heard entry.2) : ∀ message ∈ arriving now queue, heard message := by
  intro message member
  obtain ⟨entry, present, rfl⟩ := List.mem_map.mp member
  exact queued entry (List.mem_filter.mp present).1

private theorem mem_transmit {arrival : Nat} {messages : List Message} {loss : Option Message} :
    ∀ entry ∈ (transmit arrival messages loss).1, entry.2 ∈ messages := by
  induction messages generalizing loss with
  | nil => simp [transmit]
  | cons message messages ih =>
    intro entry member
    rw [transmit] at member
    split at member
    · exact List.mem_cons_of_mem _ (ih entry member)
    · rcases List.mem_cons.mp member with rfl | later
      · exact List.mem_cons_self
      · exact List.mem_cons_of_mem _ (ih entry later)

private theorem of_transmit {allowed : Message → Prop} {now arrival : Nat}
    {queue : List (Nat × Message)}
    {sent : List Message} {loss : Option Message} (queued : ∀ entry ∈ queue, allowed entry.2)
    (spoken : ∀ message ∈ sent, allowed message) :
    ∀ entry ∈ queue.filter (now < ·.1) ++ (transmit arrival sent loss).1, allowed entry.2 := by
  intro entry member
  rcases List.mem_append.mp member with old | new
  · exact queued entry (List.mem_filter.mp old).1
  · exact spoken _ (mem_transmit entry new)

/-- Both sides send in their own name, and nothing but what belongs to the list. -/
structure Spoken (groundStation vehicle : Sender) (list : WaypointList) (system : TimedDownload) :
    Prop where
  own : ∀ timed ∈ system.groundStation, timed.item.sender = groundStation
  speaks : system.vehicle.Holds (UploadWorkItem.For vehicle list)
  toVehicle : ∀ entry ∈ system.toVehicle, SentBy inspection groundStation list entry.2
  toGroundStation : ∀ entry ∈ system.toGroundStation, SentBy inspection vehicle list entry.2

variable {groundStation vehicle : Sender} {list : WaypointList} {system : TimedDownload}

theorem Spoken.instant (spoken : system.Spoken groundStation vehicle list)
    (numbered : Numbered inspection list) (latency : Nat) (orders : Orders) :
    (system.instant latency orders).1.Spoken groundStation vehicle list := by
  have ground : (Reaction.inOrder (TimedItem.perform
      (GroundStation.DownloadWorkItem.workItemClass inspection) system.now
      (arriving system.now system.toGroundStation)) orders.groundStation.val
      system.groundStation).Keeps (fun state => ∀ timed ∈ state, timed.item.sender = groundStation)
      (SentBy inspection groundStation list) :=
    Reaction.keeps_inOrder (fun task _ _ there => TimedItem.keeps_perform
      (GroundStation.DownloadWorkItem.keeps_sender groundStation list).answers system.now task
      (of_arriving spoken.toGroundStation) there) spoken.own
  have vehicle : (Reaction.inOrder (TimedVehicle.react system.now
      (arriving system.now system.toVehicle)) orders.vehicle.val system.vehicle).Keeps
      (TimedVehicle.Holds (UploadWorkItem.For vehicle list)) (SentBy inspection vehicle list) :=
    Reaction.keeps_inOrder (fun task _ _ there => TimedVehicle.keeps_react
      (RoboticVehicle.UploadWorkItem.keeps_sender vehicle numbered).answers system.now task
      (of_arriving spoken.toVehicle) there) spoken.speaks
  exact ⟨ground.holds, vehicle.holds, of_transmit spoken.toVehicle ground.sent,
    of_transmit spoken.toGroundStation vehicle.sent⟩

private theorem spoken_initial (groundStation vehicle : Sender)
    (plugin : InspectionRoboticVehicleImpl) (list : InspectionBase.WaypointList) (loss : Loss) :
    (initial groundStation vehicle plugin list loss).Spoken groundStation vehicle
      (toIntList list) := by
  refine ⟨?_, ⟨⟨rfl, rfl⟩, ?_⟩, ?_, ?_⟩
  · intro timed same
    cases same
    rfl
  · rintro timed ⟨⟩
  · simp [initial]
  · simp [initial]

theorem legible_of_run {groundStation vehicle : Sender} {plugin : InspectionRoboticVehicleImpl}
    {list : InspectionBase.WaypointList} {loss : Loss} {latency : Nat} (room : list.HasRoom)
    {log : List (Taken TimedDownload Orders TimedDownload.Told)} {last : TimedDownload}
    (run : (machine latency).Run (initial groundStation vehicle plugin list loss) log last) :
    ∀ taken ∈ log, ∀ entry ∈ taken.after.toVehicle ++ taken.after.toGroundStation,
      entry.2.Legible := by
  have preserved : ∀ taken, (machine latency).Legal taken →
      taken.before.Spoken groundStation vehicle (toIntList list) →
      taken.after.Spoken groundStation vehicle (toIntList list) := by
    intro taken legal before
    simp only [Machine.Legal, machine, Option.some.injEq] at legal
    have after := before.instant (numbered_toIntList list) latency taken.action
    rwa [legal] at after
  have spoken := (run.invariant preserved
    (spoken_initial groundStation vehicle plugin list loss)).2
  intro taken member entry present
  have after := (spoken taken member).2
  rcases List.mem_append.mp present with present | present
  · exact (after.toVehicle entry present).legible bare_inspection room.fits
  · exact (after.toGroundStation entry present).legible bare_inspection room.fits

end TimedDownload
end PilotingMavsdk
