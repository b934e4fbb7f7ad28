import PilotingMavsdk.ListProtocol

/-! `UploadWorkItem` of the ground station and of the vehicle. The member functions are the same
on both sides except for the constructor, `start()` and `process_timeout()`. -/

namespace PilotingMavsdk

inductive UploadWorkItem.Step where
  | sendCount
  | sendItems
deriving DecidableEq, Repr

structure UploadWorkItem (Header Item Ack : Type) extends WorkItem where
  step : UploadWorkItem.Step := .sendCount
  list : ItemList Header Item
  ack : Ack
  nextSequence : Nat := 0
deriving DecidableEq, Repr

namespace UploadWorkItem
variable {Header Item Ack : Type} (protocol : ListProtocol Header Item Ack)

abbrev Report (Ack : Type) := Result × Ack

abbrev After (Header Item Ack : Type) := Outcome (UploadWorkItem Header Item Ack) (Report Ack)

def callbackAndReset (result : Result) (item : UploadWorkItem Header Item Ack) :
    After Header Item Ack :=
  ⟨{ item with callback := false, done := true },
    if item.callback then [.callback (result, item.ack)] else []⟩

@[simp] theorem callbackAndReset_item (result : Result) (item : UploadWorkItem Header Item Ack) :
    (item.callbackAndReset result).item = { item with callback := false, done := true } := rfl

@[simp] theorem silent_callbackAndReset (result : Result) (item : UploadWorkItem Header Item Ack) :
    (item.callbackAndReset result).Silent ↔ item.callback = false := by
  cases callback : item.callback <;> simp [callbackAndReset, callback]

@[simp] theorem pendingAfter_callbackAndReset (result : Result)
    (item : UploadWorkItem Header Item Ack) (pending : List Cookie) :
    (item.callbackAndReset result).pendingAfter pending = pending := by
  cases callback : item.callback <;> simp [callbackAndReset, callback, Effect.pendingAfter]

def connectionError (item : UploadWorkItem Header Item Ack) : After Header Item Ack :=
  (item.callbackAndReset .connectionError).after [.removeTimeout item.cookie]

@[simp] theorem connectionError_item (item : UploadWorkItem Header Item Ack) :
    item.connectionError.item = { item with callback := false, done := true } := rfl

@[simp] theorem pendingAfter_connectionError (item : UploadWorkItem Header Item Ack)
    (pending : List Cookie) :
    item.connectionError.pendingAfter pending = pending.filter (· ≠ item.cookie) := by
  simp [connectionError, Effect.pendingAfter]

def sendCount (environment : Environment) (item : UploadWorkItem Header Item Ack) :
    After Header Item Ack :=
  .sending environment
    (item.sender.pack
      (protocol.payload (.count item.list.header (UInt16.ofNat item.list.items.length))))
    item.connectionError
    ⟨{ item with retriesDone := item.retriesDone + 1 }, []⟩

theorem sendCount_item (environment : Environment) (item : UploadWorkItem Header Item Ack) :
    (item.sendCount protocol environment).item =
      if environment.sent then { item with retriesDone := item.retriesDone + 1 }
      else { item with callback := false, done := true } := by
  simp [sendCount]

def sendCancelAndFinish (environment : Environment) (item : UploadWorkItem Header Item Ack) :
    After Header Item Ack :=
  .sending environment (item.sender.pack (protocol.payload (.ack protocol.cancelled)))
    (item.callbackAndReset .connectionError)
    (item.callbackAndReset .cancelled)

/-- Beyond the end of the list `send_inspection_item` only logs. -/
def sendItem (environment : Environment) (item : UploadWorkItem Header Item Ack) :
    After Header Item Ack :=
  match item.list.items[item.nextSequence]? with
  | none => ⟨item, []⟩
  | some found =>
    let advanced : UploadWorkItem Header Item Ack :=
      { item with nextSequence := item.nextSequence + 1 }
    .sending environment
      (item.sender.pack
        (protocol.payload (.item (protocol.numbered (UInt16.ofNat item.nextSequence) found))))
      advanced.connectionError
      ⟨{ advanced with retriesDone := item.retriesDone + 1 }, []⟩

def cancel (environment : Environment) (item : UploadWorkItem Header Item Ack) :
    After Header Item Ack :=
  (item.sendCancelAndFinish protocol environment).after [.removeTimeout item.cookie]

@[simp] theorem cancel_item (environment : Environment) (item : UploadWorkItem Header Item Ack) :
    (item.cancel protocol environment).item = { item with callback := false, done := true } := by
  simp [cancel, sendCancelAndFinish]

def processRead (environment : Environment) (seq : UInt16)
    (item : UploadWorkItem Header Item Ack) : After Header Item Ack :=
  let sending : UploadWorkItem Header Item Ack := { item with step := .sendItems }
  if item.nextSequence < seq.toNat then
    ⟨sending, []⟩
  else if item.nextSequence > seq.toNat ∧ item.retriesDone ≥ retries then
    (sending.callbackAndReset .timeout).after [.removeTimeout item.cookie]
  else
    let answering : UploadWorkItem Header Item Ack := { sending with
      nextSequence := seq.toNat
      retriesDone := if item.nextSequence = seq.toNat then 0 else item.retriesDone }
    (answering.sendItem protocol environment).after [.refreshTimeout item.cookie]

def processAck (type : UInt8) (item : UploadWorkItem Header Item Ack) : After Header Item Ack :=
  let acknowledged : UploadWorkItem Header Item Ack := { item with ack := protocol.toAck type }
  let result : Result :=
    if item.nextSequence = item.list.items.length then .success else .protocolError
  (acknowledged.callbackAndReset result).after [.removeTimeout item.cookie]

def processMessage (environment : Environment) (message : Message)
    (item : UploadWorkItem Header Item Ack) : After Header Item Ack :=
  match protocol.dispatched item.toWorkItem message with
  | some (.read seq) => item.processRead protocol environment seq
  | some (.ack type) => item.processAck protocol type
  | _ => ⟨item, []⟩

end UploadWorkItem

/-! Only the inspection transfer has an upload from the ground station. -/

namespace GroundStation.UploadWorkItem

def create (sender : Sender) (list : WaypointList) (callback : Bool) :
    UploadWorkItem PlanId WaypointItem InspectionAck where
  sender := sender
  handlers := [inspection.id .read, inspection.id .ack]
  callback := callback
  list := list
  ack := inspection.unknownAck

def start (environment : Environment) (item : UploadWorkItem PlanId WaypointItem InspectionAck) :
    UploadWorkItem.After PlanId WaypointItem InspectionAck :=
  let started := { item with started := true }
  if inspection.sequenceValid 0 item.list.items then
    let counting := { started with
      retriesDone := 0
      step := .sendCount
      cookie := environment.cookie
      nextSequence := 0 }
    (counting.sendCount inspection environment).after [.addTimeout environment.cookie]
  else started.callbackAndReset .invalidSequence

def processTimeout (environment : Environment)
    (item : UploadWorkItem PlanId WaypointItem InspectionAck) :
    UploadWorkItem.After PlanId WaypointItem InspectionAck :=
  if item.retriesDone ≥ retries then
    item.callbackAndReset .timeout
  else
    match item.step with
    | .sendCount =>
      let rearmed := { item with cookie := environment.cookie }
      (rearmed.sendCount inspection environment).after [.addTimeout environment.cookie]
    | .sendItems => item.callbackAndReset .timeout

end GroundStation.UploadWorkItem

/-! All four lists are uploaded from the vehicle. -/

namespace RoboticVehicle.UploadWorkItem
variable {Header Item Ack : Type} (protocol : ListProtocol Header Item Ack)

def create (sender : Sender) (list : ItemList Header Item) (callback : Bool) :
    UploadWorkItem Header Item Ack where
  sender := sender
  callback := callback
  list := list
  ack := protocol.unknownAck

/-- The timer is added before the numbering is checked and stays when the check fails. -/
def start (environment : Environment) (item : UploadWorkItem Header Item Ack) :
    UploadWorkItem.After Header Item Ack :=
  let counting := { item with
    started := true
    handlers := item.handlers ++ [protocol.id .ack]
    retriesDone := 0
    step := .sendCount
    cookie := environment.cookie }
  Outcome.after [.addTimeout environment.cookie]
    (if item.list.items = [] then counting.sendCount protocol environment
    else if protocol.sequenceValid 0 item.list.items then
      let ready := { counting with
        nextSequence := 0
        handlers := counting.handlers ++ [protocol.id .read] }
      ready.sendCount protocol environment
    else counting.callbackAndReset .invalidSequence)

def processTimeout (item : UploadWorkItem Header Item Ack) : UploadWorkItem.After Header Item Ack :=
  item.callbackAndReset .timeout

end RoboticVehicle.UploadWorkItem
end PilotingMavsdk
