import PilotingMavsdk.ListProtocol

/-! `DownloadWorkItem` of the vehicle's inspection transfer. The count is a constructor argument,
no message but ITEM is registered, and the last item is not acknowledged. -/

namespace PilotingMavsdk.RoboticVehicle

structure DownloadWorkItem extends WorkItem where
  list : WaypointList := ⟨{}, []⟩
  nextSequence : Nat := 0
  expectedCount : Nat
deriving DecidableEq, Repr

namespace DownloadWorkItem

abbrev Report := Result × WaypointList

abbrev After := Outcome DownloadWorkItem Report

def create (sender : Sender) (count : UInt16) (callback : Bool) : DownloadWorkItem where
  sender := sender
  callback := callback
  expectedCount := count.toNat

def callbackAndReset (result : Result) (item : DownloadWorkItem) : After :=
  ⟨{ item with callback := false, done := true },
    if item.callback then [.callback (result, item.list)] else []⟩

@[simp] theorem callbackAndReset_item (result : Result) (item : DownloadWorkItem) :
    (item.callbackAndReset result).item = { item with callback := false, done := true } := rfl

@[simp] theorem silent_callbackAndReset (result : Result) (item : DownloadWorkItem) :
    (item.callbackAndReset result).Silent ↔ item.callback = false := by
  cases callback : item.callback <;> simp [callbackAndReset, callback]

@[simp] theorem pendingAfter_callbackAndReset (result : Result) (item : DownloadWorkItem)
    (pending : List Cookie) : (item.callbackAndReset result).pendingAfter pending = pending := by
  cases callback : item.callback <;> simp [callbackAndReset, callback, Effect.pendingAfter]

def connectionError (item : DownloadWorkItem) : After :=
  (item.callbackAndReset .connectionError).after [.removeTimeout item.cookie]

@[simp] theorem connectionError_item (item : DownloadWorkItem) :
    item.connectionError.item = { item with callback := false, done := true } := rfl

@[simp] theorem pendingAfter_connectionError (item : DownloadWorkItem) (pending : List Cookie) :
    item.connectionError.pendingAfter pending = pending.filter (· ≠ item.cookie) := by
  simp [connectionError, Effect.pendingAfter]

def requestItem (environment : Environment) (item : DownloadWorkItem) : After :=
  .sending environment
    (item.sender.pack (inspection.payload (.read (UInt16.ofNat item.nextSequence))))
    item.connectionError
    ⟨{ item with retriesDone := item.retriesDone + 1 }, []⟩

theorem requestItem_item (environment : Environment) (item : DownloadWorkItem) :
    (item.requestItem environment).item =
      if environment.sent then { item with retriesDone := item.retriesDone + 1 }
      else { item with callback := false, done := true } := by
  simp [requestItem]

def sendCancelAndFinish (environment : Environment) (item : DownloadWorkItem) : After :=
  .sending environment (item.sender.pack (inspection.payload (.ack inspection.cancelled)))
    (item.callbackAndReset .connectionError)
    (item.callbackAndReset .cancelled)

def start (environment : Environment) (item : DownloadWorkItem) : After :=
  let registered : DownloadWorkItem := { item with
    started := true
    handlers := item.handlers ++ [inspection.id .item] }
  if item.expectedCount = 0 then
    registered.callbackAndReset .success
  else
    let requesting : DownloadWorkItem := { registered with
      list := ⟨item.list.header, []⟩
      retriesDone := 0
      cookie := environment.cookie
      nextSequence := 0 }
    (requesting.requestItem environment).after [.addTimeout environment.cookie]

def cancel (environment : Environment) (item : DownloadWorkItem) : After :=
  (item.sendCancelAndFinish environment).after [.removeTimeout item.cookie]

@[simp] theorem cancel_item (environment : Environment) (item : DownloadWorkItem) :
    (item.cancel environment).item = { item with callback := false, done := true } := by
  simp [cancel, sendCancelAndFinish]

def processItem (environment : Environment) (received : WaypointItem)
    (item : DownloadWorkItem) : After :=
  let extended : DownloadWorkItem := { item with
    list := ⟨item.list.header, item.list.items ++ [received]⟩ }
  if item.nextSequence + 1 = item.expectedCount then
    (extended.callbackAndReset .success).after
      [.refreshTimeout item.cookie, .removeTimeout item.cookie]
  else
    let next : DownloadWorkItem := { extended with
      nextSequence := received.seq.toNat + 1
      retriesDone := 0 }
    (next.requestItem environment).after [.refreshTimeout item.cookie]

def processTimeout (environment : Environment) (item : DownloadWorkItem) : After :=
  if item.retriesDone ≥ retries then
    item.callbackAndReset .timeout
  else
    let rearmed : DownloadWorkItem := { item with cookie := environment.cookie }
    (rearmed.requestItem environment).after [.addTimeout environment.cookie]

def processMessage (environment : Environment) (message : Message)
    (item : DownloadWorkItem) : After :=
  match inspection.dispatched item.toWorkItem message with
  | some (.item received) => item.processItem environment received
  | _ => ⟨item, []⟩

end DownloadWorkItem
end PilotingMavsdk.RoboticVehicle
