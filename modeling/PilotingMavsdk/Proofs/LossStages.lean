import PilotingMavsdk.Proofs.TimedItems

/-! The stages of a download that loses one message, and how one millisecond leads from each to the
next. After a lost ITEM the repeated READ arrives in the very millisecond in which the vehicle's
timer expires. -/

namespace PilotingMavsdk
open Library

theorem Order.nodup (order : Order) : order.val.Nodup := by
  rw [order.property.nodup_iff]
  decide

theorem Order.mem (order : Order) (task : Task) : task ∈ order.val := by
  rw [order.property.mem_iff]
  cases task <;> decide

namespace TimedDownload

section
variable {arrival now : Nat} {message : Message} {loss : Option Message}

private theorem transmit_lost : transmit arrival [message] (some message) = ([], none) := by
  simp [transmit]

private theorem transmit_sent (other : loss ≠ some message) :
    transmit arrival [message] loss = ([(arrival, message)], loss) := by
  simp [transmit, other]

private theorem arriving_of_later {queue : List (Nat × Message)}
    (later : ∀ entry ∈ queue, now < entry.1) :
    arriving now queue = [] ∧ queue.filter (now < ·.1) = queue := by
  refine ⟨?_, List.filter_eq_self.mpr (by simpa using later)⟩
  unfold arriving
  rw [List.map_eq_nil_iff, List.filter_eq_nil_iff]
  intro entry member
  have bound := later entry member
  simp only [decide_eq_true_eq]
  omega

@[simp] private theorem arriving_singleton : arriving now [(now, message)] = [message] := by
  simp [arriving]

end

/-- In this millisecond a message reaches the vehicle and its timer has expired. -/
def Tied (system : TimedDownload) : Prop :=
  arriving system.now system.toVehicle ≠ [] ∧
    ∃ timed ∈ system.vehicle.upload, ∃ timeout ∈ timed.timeoutHandler.timeouts,
      timeout.time < steadyTime system.now

/-- The vehicle handles the messages of this millisecond before it looks at its timers. -/
def MessagesFirst (orders : Orders) : Prop :=
  [Task.messages, Task.timers].Sublist orders.vehicle.val

def Loss.IsItem : Loss → Prop
  | .item _ => True
  | .read _ => False

section
variable {loss : Loss} {groundStation vehicle sender : Sender}
  {content : ListMessage PlanId WaypointItem}

private theorem Loss.kind_of_message
    (same : loss.message groundStation vehicle = sender.pack (inspection.payload content)) :
    content.kind = .item ∧ loss.IsItem ∨ content.kind = .read ∧ ¬loss.IsItem := by
  have payload := congrArg Message.payload same
  cases loss with
  | read seq =>
    right
    have equal := inspection.payload_inj.mp payload
    subst equal
    exact ⟨rfl, id⟩
  | item found =>
    left
    have equal := inspection.payload_inj.mp payload
    subst equal
    exact ⟨rfl, trivial⟩

end

/-- Each but the first and the last begins in the millisecond `since`, with a message sent or lost.
`deadline` is when the ground station's timer expires. -/
inductive Stage where
  | created
  | requested (since : Nat)
  | accepted (since : Nat)
  | counted (since deadline : Nat)
  | reading (place since : Nat)
  | sending (place since : Nat)
  | acknowledged (since : Nat)
  | finished
  | readLost (place since : Nat)
  | itemLost (place since : Nat)
  | rereading (place since : Nat)

end TimedDownload

open TimedDownload

structure TimedPlan where
  groundStation : Sender
  vehicle : Sender
  list : WaypointList
  latency : Nat
  loss : Loss
  inhabited : list.items ≠ []
  fits : list.items.length < 65536
  indexed : Indexed inspection.position list.items
  positive : 0 < latency
  short : 2 * latency < 500

namespace TimedPlan
variable (plan : TimedPlan)

abbrev groundClass := GroundStation.DownloadWorkItem.workItemClass inspection

abbrev vehicleClass := RoboticVehicle.UploadWorkItem.workItemClass inspection

def request : Message := plan.groundStation.pack (inspection.payload .request)

def count : Message :=
  plan.vehicle.pack (inspection.payload
    (.count plan.list.header (UInt16.ofNat plan.list.items.length)))

def read (place : Nat) : Message :=
  plan.groundStation.pack (inspection.payload (.read (UInt16.ofNat place)))

def item (found : WaypointItem) : Message := plan.vehicle.pack (inspection.payload (.item found))

def ack : Message := plan.groundStation.pack (inspection.payload (.ack inspection.accepted))

def groundAt : Stage →
    Option (TimedItem (GroundStation.DownloadWorkItem PlanId WaypointItem)) → Prop
  | .created => TimedItem.Fresh groundClass
    (GroundStation.DownloadWorkItem.create inspection plan.groundStation true)
  | .requested since | .accepted since => TimedItem.Waits groundClass
    (GroundStation.DownloadWorkItem.Requesting inspection plan.groundStation) (since + 500)
  | .counted _ deadline => TimedItem.Waits groundClass
    (GroundStation.DownloadWorkItem.Requesting inspection plan.groundStation) deadline
  | .reading place since | .readLost place since => TimedItem.Waits groundClass
    (GroundStation.DownloadWorkItem.Polling plan.groundStation plan.list place 1) (since + 500)
  | .sending place since => TimedItem.Waits groundClass
    (GroundStation.DownloadWorkItem.Polling plan.groundStation plan.list place 2)
    (since + 500 - plan.latency)
  | .itemLost place since => TimedItem.Waits groundClass
    (GroundStation.DownloadWorkItem.Polling plan.groundStation plan.list place 1)
    (since + 500 - plan.latency)
  | .rereading place since => TimedItem.Waits groundClass
    (GroundStation.DownloadWorkItem.Polling plan.groundStation plan.list place 2) (since + 500)
  | .acknowledged _ | .finished => TimedItem.Settled groundClass

def uploadAt : Stage →
    Option (TimedItem (UploadWorkItem PlanId WaypointItem InspectionAck)) → Prop
  | .created | .requested _ => (· = none)
  | .accepted _ => TimedItem.Fresh vehicleClass
    (RoboticVehicle.UploadWorkItem.create inspection plan.vehicle plan.list true)
  | .counted since _ => TimedItem.Waits vehicleClass
    (UploadWorkItem.Serving inspection plan.vehicle plan.list 0) (since + 500)
  | .reading place since | .readLost place since => TimedItem.Waits vehicleClass
    (UploadWorkItem.Serving inspection plan.vehicle plan.list place) (since + 500 - plan.latency)
  | .sending place since => TimedItem.Waits vehicleClass
    (UploadWorkItem.Serving inspection plan.vehicle plan.list (place + 1)) (since + 500)
  | .itemLost place since => TimedItem.Waits vehicleClass
    (UploadWorkItem.Answering plan.vehicle plan.list (place + 1) 1) (since + 500)
  | .rereading place since => TimedItem.Waits vehicleClass
    (UploadWorkItem.Answering plan.vehicle plan.list (place + 1) 1) (since + plan.latency - 1)
  | .acknowledged since => TimedItem.Waits vehicleClass
    (UploadWorkItem.Serving inspection plan.vehicle plan.list plan.list.items.length)
    (since + 500 - plan.latency)
  | .finished => TimedItem.Settled vehicleClass

def upward : Stage → List (Nat × Message)
  | .requested since => [(since + plan.latency, plan.request)]
  | .reading place since | .rereading place since => [(since + plan.latency, plan.read place)]
  | .acknowledged since => [(since + plan.latency, plan.ack)]
  | _ => []

def downward : Stage → List (Nat × Message)
  | .counted since _ => [(since + plan.latency, plan.count)]
  | .sending place since =>
    (plan.list.items[place]?.map fun found => (since + plan.latency, plan.item found)).toList
  | _ => []

/-- The milliseconds at whose beginning a stage lasts. -/
def Lasts (now : Nat) : Stage → Prop
  | .created => now = 0
  | .requested since | .acknowledged since => since < now ∧ now ≤ since + plan.latency
  | .accepted since => now = since + plan.latency + 1
  | .counted since deadline =>
    since < now ∧ now ≤ since + plan.latency ∧ since + plan.latency ≤ deadline
  | .reading place since | .sending place since | .rereading place since =>
    place < plan.list.items.length ∧ since < now ∧ now ≤ since + plan.latency
  | .readLost place since | .itemLost place since =>
    place < plan.list.items.length ∧ since < now ∧ now + plan.latency ≤ since + 501
  | .finished => True

/-- A READ that has been lost leaves the stages in which the download can still succeed. -/
def lossAt (loss : Option Message) : Stage → Prop
  | .readLost _ _ => loss = none ∧ ¬plan.loss.IsItem
  | .itemLost _ _ | .rereading _ _ => loss = none ∧ plan.loss.IsItem
  | _ => loss = some (plan.loss.message plan.groundStation plan.vehicle) ∨
    loss = none ∧ plan.loss.IsItem

def groundTold : TimedDownload.Told :=
  .inl (.success, ⟨plan.list.header, plan.list.items.map WaypointItem.toWaypointItem⟩)

def vehicleTold : TimedDownload.Told := .inr (.uploadCallback .success .accepted)

def told : Stage → List TimedDownload.Told
  | .acknowledged _ => [plan.groundTold]
  | .finished => [plan.groundTold, vehicleTold]
  | _ => []

structure At (stage : Stage) (system : TimedDownload) : Prop where
  groundStation : plan.groundAt stage system.groundStation
  vehicle : system.vehicle.Stands plan.vehicle plan.list (plan.uploadAt stage)
  upward : system.toVehicle = plan.upward stage
  downward : system.toGroundStation = plan.downward stage
  lasts : plan.Lasts system.now stage
  loss : plan.lossAt system.loss stage

variable {plan} {system : TimedDownload} {orders : Orders} {stage : Stage}

/-- What the ground station leaves, sends and reports in this millisecond. -/
abbrev GroundYields (system : TimedDownload) (orders : Orders)
    (after : Option (TimedItem (GroundStation.DownloadWorkItem PlanId WaypointItem)) → Prop)
    (sent : List Message)
    (heard : List (GroundStation.DownloadWorkItem.Report PlanId WaypointItem)) : Prop :=
  (Reaction.inOrder (TimedItem.perform groundClass system.now
    (arriving system.now system.toGroundStation)) orders.groundStation.val
    system.groundStation).Yields after sent heard

abbrev VehicleYields (plan : TimedPlan) (system : TimedDownload) (orders : Orders)
    (after : Option (TimedItem (UploadWorkItem PlanId WaypointItem InspectionAck)) → Prop)
    (sent : List Message) (outputs : List Vehicle.Output) : Prop :=
  (Reaction.inOrder (TimedVehicle.react system.now (arriving system.now system.toVehicle))
    orders.vehicle.val system.vehicle).Yields
    (TimedVehicle.Stands plan.vehicle plan.list after) sent outputs

section
variable {message : Message} {sent : List Message}

private theorem ground_quiet
    {before : Option (TimedItem (GroundStation.DownloadWorkItem PlanId WaypointItem)) → Prop}
    (quiet : ∀ task, Reaction.Quiet before (TimedItem.perform groundClass system.now [] task))
    (nothing : arriving system.now system.toGroundStation = [])
    (there : before system.groundStation) : GroundYields system orders before [] [] := by
  unfold GroundYields
  rw [nothing]
  exact Reaction.quiet_inOrder (fun task _ => quiet task) _ there

private theorem vehicle_quiet
    {before : Option (TimedItem (UploadWorkItem PlanId WaypointItem InspectionAck)) → Prop}
    (quiet : ∀ task, Reaction.Quiet before (TimedItem.perform vehicleClass system.now [] task))
    (nothing : arriving system.now system.toVehicle = [])
    (there : system.vehicle.Stands plan.vehicle plan.list before) :
    plan.VehicleYields system orders before [] [] := by
  unfold VehicleYields
  rw [nothing]
  exact Reaction.quiet_inOrder
    (fun task _ => TimedVehicle.Stands.quiet (quiet task) fun _ => rfl) _ there

private theorem ground_hears {deadline : Nat}
    {holds : GroundStation.DownloadWorkItem PlanId WaypointItem → Prop}
    {after : Option (TimedItem (GroundStation.DownloadWorkItem PlanId WaypointItem)) → Prop}
    {heard : List (GroundStation.DownloadWorkItem.Report PlanId WaypointItem)}
    (queue : system.toGroundStation = [(system.now, message)]) (early : system.now ≤ deadline)
    (late : ∀ task, task ≠ .messages →
      Reaction.Quiet after (TimedItem.perform groundClass system.now [message] task))
    (hears : ∀ state, TimedItem.Waits groundClass holds deadline state →
      (TimedItem.perform groundClass system.now [message] .messages state).Yields after sent heard)
    (there : TimedItem.Waits groundClass holds deadline system.groundStation) :
    GroundYields system orders after sent heard := by
  unfold GroundYields
  rw [queue, arriving_singleton]
  apply Reaction.inOrder_once orders.groundStation.nodup (orders.groundStation.mem .messages)
    _ _ hears there
  · exact fun task _ other => TimedItem.Waits.quiet (fun _ => early) fun same => absurd same other
  · exact fun task _ other => late task other

private theorem vehicle_hears {deadline : Nat}
    {holds : UploadWorkItem PlanId WaypointItem InspectionAck → Prop}
    {after : Option (TimedItem (UploadWorkItem PlanId WaypointItem InspectionAck)) → Prop}
    {outputs : List Vehicle.Output} (queue : system.toVehicle = [(system.now, message)])
    (early : system.now ≤ deadline)
    (late : ∀ task, task ≠ .messages →
      Reaction.Quiet after (TimedItem.perform vehicleClass system.now [message] task))
    (hears : ∀ vehicle, TimedVehicle.Stands plan.vehicle plan.list
      (TimedItem.Waits vehicleClass holds deadline) vehicle →
      (TimedVehicle.react system.now [message] .messages vehicle).Yields
        (TimedVehicle.Stands plan.vehicle plan.list after) sent outputs)
    (there : system.vehicle.Stands plan.vehicle plan.list
      (TimedItem.Waits vehicleClass holds deadline)) :
    plan.VehicleYields system orders after sent outputs := by
  unfold VehicleYields
  rw [queue, arriving_singleton]
  apply Reaction.inOrder_once orders.vehicle.nodup (orders.vehicle.mem .messages) _ _ hears there
  · exact fun task _ other => TimedVehicle.Stands.quiet
      (TimedItem.Waits.quiet (fun _ => early) fun same => absurd same other)
      fun same => absurd same other
  · exact fun task _ other => TimedVehicle.Stands.quiet (late task other)
      fun same => absurd same other

end

private theorem At.untied {holds : UploadWorkItem PlanId WaypointItem InspectionAck → Prop}
    {deadline : Nat} (waits : TimedItem.Waits vehicleClass holds deadline system.vehicle.upload)
    (early : system.now ≤ deadline) : ¬system.Tied := by
  obtain ⟨timed, present, armed⟩ := waits
  rintro ⟨_, other, same, timeout, member, expired⟩
  rw [present] at same
  cases same
  rw [armed.timers, List.mem_singleton] at member
  subst member
  rw [steadyTime_lt] at expired
  omega

private theorem untied_of_nothing (nothing : arriving system.now system.toVehicle = []) :
    ¬system.Tied :=
  fun tied => tied.1 nothing

variable (plan)

def since : Stage → Nat
  | .created | .finished => 0
  | .requested since | .accepted since | .counted since _ | .reading _ since | .sending _ since
  | .acknowledged since | .readLost _ since | .itemLost _ since | .rereading _ since => since

def rank : Stage → Nat
  | .created => 4 * plan.list.items.length + 9
  | .requested _ => 4 * plan.list.items.length + 8
  | .accepted _ => 4 * plan.list.items.length + 7
  | .counted _ _ => 4 * plan.list.items.length + 6
  | .reading place _ | .readLost place _ => 4 * (plan.list.items.length - place) + 4
  | .itemLost place _ => 4 * (plan.list.items.length - place) + 3
  | .rereading place _ => 4 * (plan.list.items.length - place) + 2
  | .sending place _ => 4 * (plan.list.items.length - place) + 1
  | .acknowledged _ => 1
  | .finished => 0

def limit (stage : Stage) : Nat := since stage + 600 * plan.rank stage

/-- The next millisecond is on the way, or the vehicle has given up for one of the two reasons
for which it does. -/
def Proceeds (stage : Stage) (system : TimedDownload) (orders : Orders) : Prop :=
  let instant := system.instant plan.latency orders
  (∃ next, plan.At next instant.1 ∧ plan.told next = plan.told stage ++ instant.2 ∧
      plan.limit next ≤ plan.limit stage ∧ (system.Tied → MessagesFirst orders)) ∨
    ((∃ ack, .inr (.uploadCallback .timeout ack) ∈ instant.2) ∧
      (¬plan.loss.IsItem ∨ system.Tied ∧ ¬MessagesFirst orders))

variable {plan}

private theorem proceeds_of_yields (next : Stage) {sent : List Message}
    {heard : List (GroundStation.DownloadWorkItem.Report PlanId WaypointItem)}
    {answers : List Message} {outputs : List Vehicle.Output}
    (ground : GroundYields system orders (plan.groundAt next) sent heard)
    (vehicle : plan.VehicleYields system orders (plan.uploadAt next) answers outputs)
    {up down : List (Nat × Message)} {between after : Option Message}
    (transmitted : transmit (system.now + plan.latency) sent system.loss = (up, between))
    (answered : transmit (system.now + plan.latency) answers between = (down, after))
    (upward : system.toVehicle.filter (system.now < ·.1) ++ up = plan.upward next)
    (downward : system.toGroundStation.filter (system.now < ·.1) ++ down = plan.downward next)
    (lasts : plan.Lasts (system.now + 1) next) (loss : plan.lossAt after next)
    (told : plan.told next = plan.told stage ++
      (heard.map (.inl ∘ InspectionImpl.downloadInspectionAsync.convert) ++ outputs.map .inr))
    (limit : plan.limit next ≤ plan.limit stage) (tied : system.Tied → MessagesFirst orders) :
    plan.Proceeds stage system orders := by
  refine .inl ⟨next, ?_, ?_, limit, tied⟩
  · simp only [instant, ground.sent, vehicle.sent, transmitted, answered]
    exact ⟨ground.holds, vehicle.holds, upward, downward, lasts, loss⟩
  · simp only [instant, ground.told, vehicle.told]
    exact told

theorem At.stays (here : plan.At stage system) (orders : Orders)
    (ground : ∀ task, Reaction.Quiet (plan.groundAt stage)
      (TimedItem.perform groundClass system.now [] task))
    (vehicle : ∀ task, Reaction.Quiet (plan.uploadAt stage)
      (TimedItem.perform vehicleClass system.now [] task))
    (later : ∀ entry ∈ plan.upward stage ++ plan.downward stage, system.now < entry.1)
    (lasts : plan.Lasts (system.now + 1) stage) : plan.Proceeds stage system orders := by
  obtain ⟨nothingUp, keptUp⟩ : arriving system.now system.toVehicle = [] ∧
      system.toVehicle.filter (system.now < ·.1) = system.toVehicle := by
    apply arriving_of_later
    rw [here.upward]
    exact fun entry member => later entry (by simp [member])
  obtain ⟨nothingDown, keptDown⟩ : arriving system.now system.toGroundStation = [] ∧
      system.toGroundStation.filter (system.now < ·.1) = system.toGroundStation := by
    apply arriving_of_later
    rw [here.downward]
    exact fun entry member => later entry (by simp [member])
  apply proceeds_of_yields stage (ground_quiet ground nothingDown here.groundStation)
    (vehicle_quiet vehicle nothingUp here.vehicle) rfl rfl _ _ lasts here.loss
    (List.append_nil _).symm (Nat.le_refl _) fun tied => absurd tied (untied_of_nothing nothingUp)
  · rw [keptUp, ← here.upward]
    exact List.append_nil _
  · rw [keptDown, ← here.downward]
    exact List.append_nil _

private theorem transmit_other {lost : Option Message}
    (loss : lost = some (plan.loss.message plan.groundStation plan.vehicle) ∨
      lost = none ∧ plan.loss.IsItem) (arrival : Nat) (sender : Sender)
    {content : ListMessage PlanId WaypointItem} (item : content.kind ≠ .item)
    (read : content.kind ≠ .read) :
    transmit arrival [sender.pack (inspection.payload content)] lost =
      ([(arrival, sender.pack (inspection.payload content))], lost) := by
  apply transmit_sent
  rintro rfl
  rcases loss with same | ⟨absent, _⟩
  · rcases Loss.kind_of_message (Option.some.inj same).symm with ⟨kind, _⟩ | ⟨kind, _⟩
    · exact item kind
    · exact read kind
  · cases absent

section
variable {lost : Option Message}
  (loss : lost = some (plan.loss.message plan.groundStation plan.vehicle) ∨
    lost = none ∧ plan.loss.IsItem) (arrival : Nat)
include loss

private theorem transmit_request :
    transmit arrival [plan.request] lost = ([(arrival, plan.request)], lost) :=
  transmit_other loss arrival _ (by simp [ListMessage.kind]) (by simp [ListMessage.kind])

private theorem transmit_count : transmit arrival [plan.count] lost =
    ([(arrival, plan.count)], lost) :=
  transmit_other loss arrival _ (by simp [ListMessage.kind]) (by simp [ListMessage.kind])

private theorem transmit_ack : transmit arrival [plan.ack] lost = ([(arrival, plan.ack)], lost) :=
  transmit_other loss arrival _ (by simp [ListMessage.kind]) (by simp [ListMessage.kind])

private theorem transmit_read (place : Nat) :
    transmit arrival [plan.read place] lost = ([(arrival, plan.read place)], lost) ∨
      transmit arrival [plan.read place] lost = ([], none) ∧ ¬plan.loss.IsItem := by
  by_cases same : lost = some (plan.read place)
  · right
    subst same
    refine ⟨transmit_lost, ?_⟩
    rcases loss with same | ⟨absent, _⟩
    · rcases Loss.kind_of_message (Option.some.inj same).symm with ⟨kind, _⟩ | ⟨_, isRead⟩
      · cases kind
      · exact isRead
    · cases absent
  · exact .inl (transmit_sent same)

private theorem transmit_item (found : WaypointItem) :
    transmit arrival [plan.item found] lost = ([(arrival, plan.item found)], lost) ∨
      transmit arrival [plan.item found] lost = ([], none) ∧ plan.loss.IsItem := by
  by_cases same : lost = some (plan.item found)
  · right
    subst same
    refine ⟨transmit_lost, ?_⟩
    rcases loss with same | ⟨absent, _⟩
    · rcases Loss.kind_of_message (Option.some.inj same).symm with ⟨_, isItem⟩ | ⟨kind, _⟩
      · exact isItem
      · cases kind
    · cases absent
  · exact .inl (transmit_sent same)

end

theorem At.created (here : plan.At .created system) : plan.Proceeds .created system orders := by
  have zero : system.now = 0 := here.lasts
  have positive := plan.positive
  have nothing : arriving system.now system.toVehicle = [] := by
    rw [here.upward]
    rfl
  have ground : GroundYields system orders (plan.groundAt (.requested system.now))
      [plan.request] [] := by
    unfold GroundYields
    rw [here.downward]
    apply Reaction.inOrder_once orders.groundStation.nodup (orders.groundStation.mem .work) _ _ _
      here.groundStation
    · exact fun task _ other => TimedItem.Fresh.quiet other fun _ => rfl
    · exact fun task _ _ => TimedItem.Waits.quiet (fun _ => by omega) fun _ => rfl
    · exact fun state fresh => fresh.starts
        (fun cookie => GroundStation.DownloadWorkItem.handles_start)
        fun item requesting => ⟨requesting.started, requesting.running⟩
  have vehicle : plan.VehicleYields system orders (plan.uploadAt (.requested system.now)) [] [] :=
    vehicle_quiet (fun _ => TimedItem.quiet_none) nothing here.vehicle
  apply proceeds_of_yields (.requested system.now) ground vehicle (transmit_request here.loss _)
    rfl (by rw [here.upward]; rfl) (by rw [here.downward]; rfl) ⟨by omega, by omega⟩ here.loss rfl
  · simp only [limit, since, rank]
    omega
  · exact fun tied => absurd tied (untied_of_nothing nothing)

private theorem starts_upload (vehicle : TimedVehicle) (now : Nat) (arriving : List Message)
    (stands : TimedVehicle.Stands plan.vehicle plan.list (TimedItem.Fresh vehicleClass
      (RoboticVehicle.UploadWorkItem.create inspection plan.vehicle plan.list true)) vehicle) :
    (TimedVehicle.react now arriving .work vehicle).Yields
      (TimedVehicle.Stands plan.vehicle plan.list (TimedItem.Waits vehicleClass
        (UploadWorkItem.Serving inspection plan.vehicle plan.list 0) (now + 500)))
      [plan.count] [] := by
  apply stands.acts
  intro upload fresh
  exact fresh.starts (fun cookie => UploadWorkItem.handles_start plan.inhabited
      ((inspection.sequenceValid_iff _).mpr plan.indexed))
    fun item serving => ⟨serving.started, serving.running⟩

theorem At.requested {since : Nat} (here : plan.At (.requested since) system) :
    plan.Proceeds (.requested since) system orders := by
  obtain ⟨begun, unfinished⟩ : since < system.now ∧ system.now ≤ since + plan.latency := here.lasts
  have positive := plan.positive
  have short := plan.short
  by_cases early : system.now < since + plan.latency
  · apply here.stays orders
    · exact fun task => TimedItem.Waits.quiet (fun _ => by omega) fun _ => rfl
    · exact fun task => TimedItem.quiet_none
    · simpa [TimedPlan.upward, TimedPlan.downward] using early
    · exact ⟨by omega, by omega⟩
  have now : system.now = since + plan.latency := by omega
  have queue : system.toVehicle = [(system.now, plan.request)] := by
    rw [here.upward, now]
    rfl
  have ground : GroundYields system orders (plan.groundAt (.accepted since)) [] [] :=
    ground_quiet (fun _ => TimedItem.Waits.quiet (fun _ => by omega) fun _ => rfl)
      (by rw [here.downward]; rfl) here.groundStation
  have accepts : ∀ vehicle, TimedVehicle.Stands plan.vehicle plan.list (· = none) vehicle →
      (TimedVehicle.react system.now [plan.request] .messages vehicle).Yields
        (TimedVehicle.Stands plan.vehicle plan.list (plan.uploadAt (.accepted since))) [] [] :=
    fun vehicle stands => stands.accepts rfl
  have idle : ∀ task, task ≠ .messages →
      Reaction.Quiet (TimedVehicle.Stands plan.vehicle plan.list (· = none))
        (TimedVehicle.react system.now [plan.request] task) :=
    fun task other => TimedVehicle.Stands.quiet TimedItem.quiet_none fun same => absurd same other
  have fresh : ∀ task, task ≠ .messages → task ≠ .work →
      Reaction.Quiet (TimedVehicle.Stands plan.vehicle plan.list (plan.uploadAt (.accepted since)))
        (TimedVehicle.react system.now [plan.request] task) :=
    fun task other rests => TimedVehicle.Stands.quiet
      (TimedItem.Fresh.quiet rests fun same => absurd same other) fun same => absurd same other
  have untied : ¬system.Tied := by
    rintro ⟨_, timed, present, _⟩
    rw [here.vehicle.upload] at present
    cases present
  -- The upload may be made before or after `do_work` has looked for it.
  rcases Reaction.sublist_or_sublist (orders.vehicle.mem .messages) (orders.vehicle.mem .work)
    (by simp) with ordered | ordered
  · have vehicle : plan.VehicleYields system orders
        (plan.uploadAt (.counted system.now (since + 500))) [plan.count] [] := by
      unfold VehicleYields
      rw [queue, arriving_singleton]
      apply Reaction.inOrder_twice orders.vehicle.nodup ordered _ _ _ accepts _ here.vehicle
      · exact fun task _ other _ => idle task other
      · exact fun task _ other rests => fresh task other rests
      · exact fun task _ other _ => TimedVehicle.Stands.quiet
          (TimedItem.Waits.quiet (fun _ => by omega) fun same => absurd same other)
          fun same => absurd same other
      · exact fun vehicle stands => starts_upload vehicle _ _ stands
    apply proceeds_of_yields (.counted system.now (since + 500)) ground vehicle rfl
      (transmit_count here.loss _) (by simp [queue]; rfl) (by rw [here.downward]; rfl)
      ⟨by omega, by omega, by omega⟩ here.loss rfl
    · simp only [limit, TimedPlan.since, rank]
      omega
    · exact fun tied => absurd tied untied
  · have vehicle : plan.VehicleYields system orders (plan.uploadAt (.accepted since)) [] [] := by
      unfold VehicleYields
      rw [queue, arriving_singleton]
      apply Reaction.inOrder_twice orders.vehicle.nodup ordered _ _ _ (idle .work (by simp))
        accepts here.vehicle
      · exact fun task _ _ other => idle task other
      · exact fun task _ _ other => idle task other
      · exact fun task _ rests other => fresh task other rests
    apply proceeds_of_yields (.accepted since) ground vehicle rfl rfl (by simp [queue]; rfl)
      (by rw [here.downward]; rfl) (by simp only [Lasts]; omega) here.loss rfl
    · simp only [limit, TimedPlan.since, rank]
      omega
    · exact fun tied => absurd tied untied

theorem At.accepted {since : Nat} (here : plan.At (.accepted since) system) :
    plan.Proceeds (.accepted since) system orders := by
  have now : system.now = since + plan.latency + 1 := here.lasts
  have positive := plan.positive
  have short := plan.short
  have nothing : arriving system.now system.toVehicle = [] := by
    rw [here.upward]
    rfl
  have ground : GroundYields system orders (plan.groundAt (.counted system.now (since + 500)))
      [] [] :=
    ground_quiet (fun _ => TimedItem.Waits.quiet (fun _ => by omega) fun _ => rfl)
      (by rw [here.downward]; rfl) here.groundStation
  have vehicle : plan.VehicleYields system orders
      (plan.uploadAt (.counted system.now (since + 500))) [plan.count] [] := by
    unfold VehicleYields
    rw [nothing]
    apply Reaction.inOrder_once orders.vehicle.nodup (orders.vehicle.mem .work) _ _ _ here.vehicle
    · exact fun task _ idle => TimedVehicle.Stands.quiet (TimedItem.Fresh.quiet idle fun _ => rfl)
        fun _ => rfl
    · exact fun task _ _ => TimedVehicle.Stands.quiet
        (TimedItem.Waits.quiet (fun _ => by omega) fun _ => rfl) fun _ => rfl
    · exact fun vehicle stands => starts_upload vehicle _ _ stands
  apply proceeds_of_yields (.counted system.now (since + 500)) ground vehicle rfl
    (transmit_count here.loss _) (by rw [here.upward]; rfl) (by rw [here.downward]; rfl)
    ⟨by omega, by omega, by omega⟩ here.loss rfl
  · simp only [limit, TimedPlan.since, rank]
    omega
  · exact fun tied => absurd tied (untied_of_nothing nothing)

theorem asked {place : Nat} (inside : place < plan.list.items.length)
    (loss : system.loss = some (plan.loss.message plan.groundStation plan.vehicle) ∨
      system.loss = none ∧ plan.loss.IsItem)
    (ground : GroundYields system orders (plan.groundAt (.reading place system.now))
      [plan.read place] [])
    (vehicle : plan.VehicleYields system orders (plan.uploadAt (.reading place system.now)) [] [])
    (emptyUp : system.toVehicle.filter (system.now < ·.1) = [])
    (emptyDown : system.toGroundStation.filter (system.now < ·.1) = [])
    (silent : plan.told stage = [])
    (limit : plan.limit (.reading place system.now) ≤ plan.limit stage) (untied : ¬system.Tied) :
    plan.Proceeds stage system orders := by
  have positive := plan.positive
  have short := plan.short
  have tied : system.Tied → MessagesFirst orders := fun tied => absurd tied untied
  rcases transmit_read loss (system.now + plan.latency) place with sent | ⟨lost, isRead⟩
  · exact proceeds_of_yields (.reading place system.now) ground vehicle sent rfl
      (by rw [emptyUp]; rfl) (by rw [emptyDown]; rfl) ⟨inside, by omega, by omega⟩ loss
      (by rw [silent]; rfl) limit tied
  · exact proceeds_of_yields (.readLost place system.now) ground vehicle lost rfl
      (by rw [emptyUp]; rfl) (by rw [emptyDown]; rfl) ⟨inside, by omega, by omega⟩ ⟨rfl, isRead⟩
      (by rw [silent]; rfl) limit tied

theorem At.counted {since deadline : Nat} (here : plan.At (.counted since deadline) system) :
    plan.Proceeds (.counted since deadline) system orders := by
  obtain ⟨begun, unfinished, bound⟩ : since < system.now ∧ system.now ≤ since + plan.latency ∧
    since + plan.latency ≤ deadline := here.lasts
  have positive := plan.positive
  have short := plan.short
  by_cases early : system.now < since + plan.latency
  · apply here.stays orders
    · exact fun task => TimedItem.Waits.quiet (fun _ => by omega) fun _ => rfl
    · exact fun task => TimedItem.Waits.quiet (fun _ => by omega) fun _ => rfl
    · simpa [TimedPlan.upward, TimedPlan.downward] using early
    · exact ⟨by omega, by omega, by omega⟩
  have now : system.now = since + plan.latency := by omega
  have queue : system.toGroundStation = [(system.now, plan.count)] := by
    rw [here.downward, now]
    rfl
  have nothing : arriving system.now system.toVehicle = [] := by
    rw [here.upward]
    rfl
  have ground : GroundYields system orders (plan.groundAt (.reading 0 system.now))
      [plan.read 0] [] := by
    apply ground_hears queue (by omega) _ _ here.groundStation
    · exact fun task other => TimedItem.Waits.quiet (fun _ => by omega)
        fun same => absurd same other
    · exact fun state waits => waits.hears
        (fun cookie item requesting => GroundStation.DownloadWorkItem.handles_count requesting
          plan.inhabited plan.fits rfl)
        fun item polling => ⟨polling.reading.started, polling.reading.running⟩
  have vehicle : plan.VehicleYields system orders (plan.uploadAt (.reading 0 system.now)) []
      [] := by
    have same : system.now + 500 - plan.latency = since + 500 := by omega
    simp only [uploadAt, same]
    exact vehicle_quiet (fun _ => TimedItem.Waits.quiet (fun _ => by omega) fun _ => rfl) nothing
      here.vehicle
  apply asked (List.length_pos_iff.mpr plan.inhabited) here.loss ground vehicle
    (by rw [here.upward]; rfl) (by simp [queue]) rfl _ (untied_of_nothing nothing)
  simp only [limit, TimedPlan.since, rank]
  omega

theorem numbered : Numbered inspection plan.list := numbered_of_indexed plan.indexed

private theorem hears_read {place now deadline : Nat} {found : WaypointItem}
    {vehicle : TimedVehicle} (present : plan.list.items[place]? = some found)
    (stands : TimedVehicle.Stands plan.vehicle plan.list (TimedItem.Waits vehicleClass
      (UploadWorkItem.Serving inspection plan.vehicle plan.list place) deadline) vehicle) :
    (TimedVehicle.react now [plan.read place] .messages vehicle).Yields
      (TimedVehicle.Stands plan.vehicle plan.list (TimedItem.Waits vehicleClass
        (UploadWorkItem.Answering plan.vehicle plan.list (place + 1) 1) (now + 500)))
      [plan.item found] [] := by
  have inside := (List.getElem?_eq_some_iff.mp present).1
  have fits := plan.fits
  apply stands.hears' rfl (by simp) (by simp [ListMessage.kind])
  intro upload waits
  exact waits.hears
    (fun cookie item serving => UploadWorkItem.handles_read serving present numbered (by omega) rfl)
    fun item answering => ⟨answering.serving.started, answering.serving.running⟩

private theorem hears_repeated {place now deadline : Nat} {found : WaypointItem}
    {vehicle : TimedVehicle} (present : plan.list.items[place]? = some found)
    (stands : TimedVehicle.Stands plan.vehicle plan.list (TimedItem.Waits vehicleClass
      (UploadWorkItem.Answering plan.vehicle plan.list (place + 1) 1) deadline) vehicle) :
    (TimedVehicle.react now [plan.read place] .messages vehicle).Yields
      (TimedVehicle.Stands plan.vehicle plan.list (TimedItem.Waits vehicleClass
        (UploadWorkItem.Serving inspection plan.vehicle plan.list (place + 1)) (now + 500)))
      [plan.item found] [] := by
  have inside := (List.getElem?_eq_some_iff.mp present).1
  have fits := plan.fits
  apply stands.hears' rfl (by simp) (by simp [ListMessage.kind])
  intro upload waits
  exact waits.hears
    (fun cookie item answering => UploadWorkItem.handles_repeated answering (by decide) present
      numbered (by omega) rfl)
    fun item serving => ⟨serving.started, serving.running⟩

private theorem hears_ack {now deadline : Nat} {vehicle : TimedVehicle}
    (stands : TimedVehicle.Stands plan.vehicle plan.list (TimedItem.Waits vehicleClass
      (UploadWorkItem.Serving inspection plan.vehicle plan.list plan.list.items.length) deadline)
      vehicle) :
    (TimedVehicle.react now [plan.ack] .messages vehicle).Yields
      (TimedVehicle.Stands plan.vehicle plan.list (TimedItem.Settled vehicleClass)) []
      [.uploadCallback .success .accepted] := by
  have payload : plan.ack.payload = inspection.payload (.ack inspection.accepted) := rfl
  have ends : ∀ upload, TimedItem.Waits vehicleClass
      (UploadWorkItem.Serving inspection plan.vehicle plan.list plan.list.items.length) deadline
      upload → (TimedItem.perform vehicleClass now [plan.ack] .messages upload).Yields
        (TimedItem.Settled vehicleClass) [] [(.success, .accepted)] := by
    intro upload waits
    apply waits.ends
    · exact fun cookie item serving => UploadWorkItem.does_ack serving payload
    · exact fun cookie item serving => .inl (UploadWorkItem.timers_ack serving payload)
  exact stands.hears payload (by simp) (by simp [ListMessage.kind]) ends

theorem At.reading {place since : Nat} (here : plan.At (.reading place since) system) :
    plan.Proceeds (.reading place since) system orders := by
  obtain ⟨inside, begun, unfinished⟩ : place < plan.list.items.length ∧ since < system.now ∧
    system.now ≤ since + plan.latency := here.lasts
  have positive := plan.positive
  have short := plan.short
  by_cases early : system.now < since + plan.latency
  · apply here.stays orders
    · exact fun task => TimedItem.Waits.quiet (fun _ => by omega) fun _ => rfl
    · exact fun task => TimedItem.Waits.quiet (fun _ => by omega) fun _ => rfl
    · simpa [TimedPlan.upward, TimedPlan.downward] using early
    · exact ⟨inside, by omega, by omega⟩
  have now : system.now = since + plan.latency := by omega
  have present := List.getElem?_eq_getElem inside
  generalize plan.list.items[place] = found at present
  have queue : system.toVehicle = [(system.now, plan.read place)] := by
    rw [here.upward, now]
    rfl
  have ground : GroundYields system orders (plan.groundAt (.itemLost place system.now)) [] [] := by
    have same : system.now + 500 - plan.latency = since + 500 := by omega
    simp only [groundAt, same]
    exact ground_quiet (fun _ => TimedItem.Waits.quiet (fun _ => by omega) fun _ => rfl)
      (by rw [here.downward]; rfl) here.groundStation
  have vehicle : plan.VehicleYields system orders (plan.uploadAt (.itemLost place system.now))
      [plan.item found] [] := by
    apply vehicle_hears queue (by omega) _ _ here.vehicle
    · exact fun task other => TimedItem.Waits.quiet (fun _ => by omega)
        fun same => absurd same other
    · exact fun vehicle stands => hears_read present stands
  have untied : ¬system.Tied := At.untied here.vehicle.upload (by omega)
  rcases transmit_item here.loss (system.now + plan.latency) found with sent | ⟨lost, isItem⟩
  · apply proceeds_of_yields (.sending place system.now)
      (ground.imp fun _ waits => waits.imp fun _ polling => polling.weaken (by omega))
      (vehicle.imp fun _ stands => stands.imp fun _ waits =>
        waits.imp fun _ answering => answering.serving) rfl sent (by simp [queue]; rfl)
      (by rw [here.downward]; simp [TimedPlan.downward, present]) ⟨inside, by omega, by omega⟩
      here.loss rfl
    · simp only [limit, TimedPlan.since, rank]
      omega
    · exact fun tied => absurd tied untied
  · apply proceeds_of_yields (.itemLost place system.now) ground vehicle rfl lost
      (by simp [queue]; rfl) (by rw [here.downward]; rfl) ⟨inside, by omega, by omega⟩
      ⟨rfl, isItem⟩ rfl
    · simp only [limit, TimedPlan.since, rank]
      omega
    · exact fun tied => absurd tied untied

theorem At.sending {place since : Nat} (here : plan.At (.sending place since) system) :
    plan.Proceeds (.sending place since) system orders := by
  obtain ⟨inside, begun, unfinished⟩ : place < plan.list.items.length ∧ since < system.now ∧
    system.now ≤ since + plan.latency := here.lasts
  have positive := plan.positive
  have short := plan.short
  have present := List.getElem?_eq_getElem inside
  generalize plan.list.items[place] = found at present
  by_cases early : system.now < since + plan.latency
  · apply here.stays orders
    · exact fun task => TimedItem.Waits.quiet (fun _ => by omega) fun _ => rfl
    · exact fun task => TimedItem.Waits.quiet (fun _ => by omega) fun _ => rfl
    · simpa [TimedPlan.upward, TimedPlan.downward, present] using early
    · exact ⟨inside, by omega, by omega⟩
  have now : system.now = since + plan.latency := by omega
  have queue : system.toGroundStation = [(system.now, plan.item found)] := by
    rw [here.downward, now]
    simp [TimedPlan.downward, present]
  have nothing : arriving system.now system.toVehicle = [] := by
    rw [here.upward]
    rfl
  have vehicle : plan.VehicleYields system orders
      (plan.uploadAt (.reading (place + 1) system.now)) [] [] := by
    have same : system.now + 500 - plan.latency = since + 500 := by omega
    simp only [uploadAt, same]
    exact vehicle_quiet (fun _ => TimedItem.Waits.quiet (fun _ => by omega) fun _ => rfl) nothing
      here.vehicle
  by_cases last : place + 1 = plan.list.items.length
  · have ground : GroundYields system orders (plan.groundAt (.acknowledged system.now))
        [plan.ack] [(.success, plan.list)] := by
      apply ground_hears queue (by omega) _ _ here.groundStation
      · exact fun task other => TimedItem.Settled.quiet fun same => absurd same other
      · exact fun state waits => waits.ends
          (fun cookie item polling => GroundStation.DownloadWorkItem.does_last rfl polling.reading
            present last rfl)
          fun cookie item polling => .inr (GroundStation.DownloadWorkItem.timers_last polling last
            rfl)
    rw [last] at vehicle
    apply proceeds_of_yields (.acknowledged system.now) ground vehicle (transmit_ack here.loss _)
      rfl (by rw [here.upward]; rfl) (by simp [queue]; rfl) ⟨by omega, by omega⟩ here.loss rfl
    · simp only [limit, TimedPlan.since, rank]
      omega
    · exact fun tied => absurd tied (untied_of_nothing nothing)
  · have ground : GroundYields system orders (plan.groundAt (.reading (place + 1) system.now))
        [plan.read (place + 1)] [] := by
      apply ground_hears queue (by omega) _ _ here.groundStation
      · exact fun task other => TimedItem.Waits.quiet (fun _ => by omega)
          fun same => absurd same other
      · exact fun state waits => waits.hears
          (fun cookie item polling => GroundStation.DownloadWorkItem.handles_item polling present
            (plan.indexed _ _ present) last rfl)
          fun item polling => ⟨polling.reading.started, polling.reading.running⟩
    apply asked (by omega) here.loss ground vehicle (by rw [here.upward]; rfl) (by simp [queue])
      rfl _ (untied_of_nothing nothing)
    simp only [limit, TimedPlan.since, rank]
    omega

theorem At.acknowledged {since : Nat} (here : plan.At (.acknowledged since) system) :
    plan.Proceeds (.acknowledged since) system orders := by
  obtain ⟨begun, unfinished⟩ : since < system.now ∧ system.now ≤ since + plan.latency := here.lasts
  have short := plan.short
  by_cases early : system.now < since + plan.latency
  · apply here.stays orders
    · exact fun task => TimedItem.Settled.quiet fun _ => rfl
    · exact fun task => TimedItem.Waits.quiet (fun _ => by omega) fun _ => rfl
    · simpa [TimedPlan.upward, TimedPlan.downward] using early
    · exact ⟨by omega, by omega⟩
  have now : system.now = since + plan.latency := by omega
  have queue : system.toVehicle = [(system.now, plan.ack)] := by
    rw [here.upward, now]
    rfl
  have ground : GroundYields system orders (plan.groundAt .finished) [] [] :=
    ground_quiet (fun _ => TimedItem.Settled.quiet fun _ => rfl) (by rw [here.downward]; rfl)
      here.groundStation
  have vehicle : plan.VehicleYields system orders (plan.uploadAt .finished) []
      [.uploadCallback .success .accepted] := by
    apply vehicle_hears queue (by omega) _ _ here.vehicle
    · exact fun task other => TimedItem.Settled.quiet fun same => absurd same other
    · exact fun vehicle stands => hears_ack stands
  have untied : ¬system.Tied := At.untied here.vehicle.upload (by omega)
  apply proceeds_of_yields .finished ground vehicle rfl rfl (by simp [queue]; rfl)
    (by rw [here.downward]; rfl) trivial here.loss rfl
  · simp only [limit, TimedPlan.since, rank]
    omega
  · exact fun tied => absurd tied untied

theorem At.finished (here : plan.At .finished system) :
    plan.Proceeds .finished system orders := by
  apply here.stays orders
  · exact fun task => TimedItem.Settled.quiet fun _ => rfl
  · exact fun task => TimedItem.Settled.quiet fun _ => rfl
  · simp [TimedPlan.upward, TimedPlan.downward]
  · trivial

private theorem tells_timeout {holds : UploadWorkItem PlanId WaypointItem InspectionAck → Prop}
    {place deadline now : Nat} {arriving : List Message} {vehicle : TimedVehicle}
    (late : deadline < now)
    (serving : ∀ item, holds item → UploadWorkItem.Serving inspection plan.vehicle plan.list place
      item)
    (stands : TimedVehicle.Stands plan.vehicle plan.list
      (TimedItem.Waits vehicleClass holds deadline) vehicle) :
    ∃ output ∈ (TimedVehicle.react now arriving .timers vehicle).told,
      ∃ ack, output = .uploadCallback .timeout ack := by
  have gives : ∃ report ∈ (TimedItem.perform vehicleClass now arriving .timers
      vehicle.upload).told, report.1 = .timeout :=
    stands.upload.tells late fun cookie item held =>
      ⟨_, UploadWorkItem.processTimeout_serving (serving item held), rfl⟩
  obtain ⟨report, member, timeout⟩ := gives
  refine ⟨TimedVehicle.output report, ?_, report.2, ?_⟩
  · simp only [TimedVehicle.react, TimedVehicle.perform]
    rw [TimedVehicle.filterMap_report stands.callback]
    exact List.mem_map_of_mem member
  · simp [TimedVehicle.output, timeout, InspectionRoboticVehicleImpl.convertResult]

private theorem told_of_vehicle {output : Vehicle.Output}
    (member : output ∈ (Reaction.inOrder (TimedVehicle.react system.now
      (arriving system.now system.toVehicle)) orders.vehicle.val system.vehicle).told) :
    .inr output ∈ (system.instant plan.latency orders).2 := by
  simp only [instant, List.mem_append]
  exact .inr (List.mem_map_of_mem member)

theorem At.readLost {place since : Nat} (here : plan.At (.readLost place since) system) :
    plan.Proceeds (.readLost place since) system orders := by
  obtain ⟨inside, begun, unfinished⟩ : place < plan.list.items.length ∧ since < system.now ∧
    system.now + plan.latency ≤ since + 501 := here.lasts
  have positive := plan.positive
  by_cases early : system.now + plan.latency ≤ since + 500
  · apply here.stays orders
    · exact fun task => TimedItem.Waits.quiet (fun _ => by omega) fun _ => rfl
    · exact fun task => TimedItem.Waits.quiet (fun _ => by omega) fun _ => rfl
    · simp [TimedPlan.upward, TimedPlan.downward]
    · exact ⟨inside, by omega, by omega⟩
  right
  refine ⟨?_, .inl here.loss.2⟩
  have nothing : arriving system.now system.toVehicle = [] := by
    rw [here.upward]
    rfl
  have expired : since + 500 - plan.latency < system.now := by omega
  have gives := Reaction.told_inOrder (orders.vehicle.mem .timers)
    (fun task other _ => TimedVehicle.Stands.quiet
      (TimedItem.Waits.quiet (fun same => absurd same other) fun _ => nothing) fun _ => nothing)
    (fun vehicle stands => tells_timeout expired (fun _ serving => serving) stands)
    here.vehicle
  obtain ⟨_, member, ack, rfl⟩ := gives
  exact ⟨ack, told_of_vehicle member⟩

theorem At.itemLost {place since : Nat} (here : plan.At (.itemLost place since) system) :
    plan.Proceeds (.itemLost place since) system orders := by
  obtain ⟨inside, begun, unfinished⟩ : place < plan.list.items.length ∧ since < system.now ∧
    system.now + plan.latency ≤ since + 501 := here.lasts
  have positive := plan.positive
  have short := plan.short
  by_cases early : system.now + plan.latency ≤ since + 500
  · apply here.stays orders
    · exact fun task => TimedItem.Waits.quiet (fun _ => by omega) fun _ => rfl
    · exact fun task => TimedItem.Waits.quiet (fun _ => by omega) fun _ => rfl
    · simp [TimedPlan.upward, TimedPlan.downward]
    · exact ⟨inside, by omega, by omega⟩
  have nothing : arriving system.now system.toVehicle = [] := by
    rw [here.upward]
    rfl
  have ground : GroundYields system orders (plan.groundAt (.rereading place system.now))
      [plan.read place] [] := by
    unfold GroundYields
    rw [here.downward]
    apply Reaction.inOrder_once orders.groundStation.nodup (orders.groundStation.mem .timers)
      _ _ _ here.groundStation
    · exact fun task _ other => TimedItem.Waits.quiet (fun same => absurd same other) fun _ => rfl
    · exact fun task _ other => TimedItem.Waits.quiet (fun same => absurd same other) fun _ => rfl
    · exact fun state waits => waits.rearms (by omega)
        (fun cookie item polling => GroundStation.DownloadWorkItem.handles_timeout polling
          (by decide))
        fun item polling => ⟨polling.reading.started, polling.reading.running⟩
  have vehicle : plan.VehicleYields system orders (plan.uploadAt (.rereading place system.now))
      [] [] := by
    have same : system.now + plan.latency - 1 = since + 500 := by omega
    simp only [uploadAt, same]
    exact vehicle_quiet (fun _ => TimedItem.Waits.quiet (fun _ => by omega) fun _ => rfl) nothing
      here.vehicle
  have sent : transmit (system.now + plan.latency) [plan.read place] system.loss =
      ([(system.now + plan.latency, plan.read place)], none) := by
    rw [here.loss.1]
    exact transmit_sent (by simp)
  apply proceeds_of_yields (.rereading place system.now) ground vehicle sent rfl
    (by rw [here.upward]; rfl) (by rw [here.downward]; rfl) ⟨inside, by omega, by omega⟩
    ⟨rfl, here.loss.2⟩ rfl
  · simp only [limit, TimedPlan.since, rank]
    omega
  · exact fun tied => absurd tied (untied_of_nothing nothing)

/-- The repeated READ is heard in time although the timer has expired. -/
private theorem vehicle_repeats {place since : Nat} {found : WaypointItem}
    (present : plan.list.items[place]? = some found)
    (queue : system.toVehicle = [(system.now, plan.read place)]) (ordered : MessagesFirst orders)
    (there : system.vehicle.Stands plan.vehicle plan.list
      (plan.uploadAt (.rereading place since))) :
    plan.VehicleYields system orders (plan.uploadAt (.sending place system.now))
      [plan.item found] [] := by
  have quiet : ∀ task, task ≠ .messages → Reaction.Quiet (TimedVehicle.Stands plan.vehicle
      plan.list (plan.uploadAt (.sending place system.now)))
      (TimedVehicle.react system.now [plan.read place] task) :=
    fun task other => TimedVehicle.Stands.quiet
      (TimedItem.Waits.quiet (fun _ => by omega) fun same => absurd same other)
      fun same => absurd same other
  unfold VehicleYields
  rw [queue, arriving_singleton]
  apply Reaction.inOrder_twice orders.vehicle.nodup ordered _ _ _
    (fun vehicle stands => hears_repeated present stands) (quiet .timers (by simp)) there
  · exact fun task _ other third => TimedVehicle.Stands.quiet
      (TimedItem.Waits.quiet (fun same => absurd same third) fun same => absurd same other)
      fun same => absurd same other
  · exact fun task _ other _ => quiet task other
  · exact fun task _ other _ => quiet task other

/-- The timer comes before the repeated READ. -/
private theorem gives_up {place since : Nat}
    (queue : system.toVehicle = [(system.now, plan.read place)])
    (expired : since + plan.latency - 1 < system.now) (late : ¬MessagesFirst orders)
    (there : system.vehicle.Stands plan.vehicle plan.list
      (plan.uploadAt (.rereading place since))) :
    (∃ ack, .inr (.uploadCallback .timeout ack) ∈ (system.instant plan.latency orders).2) ∧
      system.Tied := by
  have gives : ∃ output ∈ (Reaction.inOrder (TimedVehicle.react system.now
      (arriving system.now system.toVehicle)) orders.vehicle.val system.vehicle).told,
      ∃ ack, output = .uploadCallback .timeout ack := by
    apply Reaction.told_inOrder (orders.vehicle.mem .timers) _ _ there
    · intro task other before
      have differs : task ≠ .messages := by
        rintro rfl
        exact late before
      exact TimedVehicle.Stands.quiet (TimedItem.Waits.quiet (fun same => absurd same other)
        fun same => absurd same differs) fun same => absurd same differs
    · exact fun vehicle stands =>
        tells_timeout expired (fun _ answering => answering.serving) stands
  obtain ⟨_, member, ack, rfl⟩ := gives
  refine ⟨⟨ack, told_of_vehicle member⟩, ?_, ?_⟩
  · rw [queue, arriving_singleton]
    simp
  · obtain ⟨timed, upload, armed⟩ := there.upload
    have timer := List.mem_singleton.mpr (Eq.refl (⟨(vehicleClass.base timed.item).cookie, (),
      steadyTime (since + plan.latency - 1), timeoutMilliseconds⟩ : Timeout Unit))
    rw [← armed.timers] at timer
    exact ⟨timed, upload, _, timer, steadyTime_lt.mpr expired⟩

theorem At.rereading {place since : Nat} (here : plan.At (.rereading place since) system) :
    plan.Proceeds (.rereading place since) system orders := by
  obtain ⟨inside, begun, unfinished⟩ : place < plan.list.items.length ∧ since < system.now ∧
    system.now ≤ since + plan.latency := here.lasts
  have positive := plan.positive
  have short := plan.short
  have present := List.getElem?_eq_getElem inside
  generalize plan.list.items[place] = found at present
  by_cases early : system.now < since + plan.latency
  · apply here.stays orders
    · exact fun task => TimedItem.Waits.quiet (fun _ => by omega) fun _ => rfl
    · exact fun task => TimedItem.Waits.quiet (fun _ => by omega) fun _ => rfl
    · simpa [TimedPlan.upward, TimedPlan.downward] using early
    · exact ⟨inside, by omega, by omega⟩
  have now : system.now = since + plan.latency := by omega
  have queue : system.toVehicle = [(system.now, plan.read place)] := by
    rw [here.upward, now]
    rfl
  by_cases ordered : MessagesFirst orders
  · have ground : GroundYields system orders (plan.groundAt (.sending place system.now))
        [] [] := by
      have same : system.now + 500 - plan.latency = since + 500 := by omega
      simp only [groundAt, same]
      exact ground_quiet (fun _ => TimedItem.Waits.quiet (fun _ => by omega) fun _ => rfl)
        (by rw [here.downward]; rfl) here.groundStation
    have sent : transmit (system.now + plan.latency) [plan.item found] system.loss =
        ([(system.now + plan.latency, plan.item found)], none) := by
      rw [here.loss.1]
      exact transmit_sent (by simp)
    apply proceeds_of_yields (.sending place system.now) ground
      (vehicle_repeats present queue ordered here.vehicle) rfl sent (by simp [queue]; rfl)
      (by rw [here.downward]; simp [TimedPlan.downward, present]) ⟨inside, by omega, by omega⟩
      (.inr ⟨rfl, here.loss.2⟩) rfl
    · simp only [limit, TimedPlan.since, rank]
      omega
    · exact fun _ => ordered
  · obtain ⟨timeout, tied⟩ := gives_up queue (by omega) ordered here.vehicle
    exact .inr ⟨timeout, .inr ⟨tied, ordered⟩⟩

theorem At.proceeds (here : plan.At stage system) : plan.Proceeds stage system orders := by
  cases stage with
  | created => exact here.created
  | requested => exact here.requested
  | accepted => exact here.accepted
  | counted => exact here.counted
  | reading => exact here.reading
  | sending => exact here.sending
  | acknowledged => exact here.acknowledged
  | finished => exact here.finished
  | readLost => exact here.readLost
  | itemLost => exact here.itemLost
  | rereading => exact here.rereading

end TimedPlan
end PilotingMavsdk
