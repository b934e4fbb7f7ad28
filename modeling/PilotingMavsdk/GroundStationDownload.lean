import PilotingMavsdk.ListProtocol

/-! `DownloadWorkItem` of the four ground station transfers. They differ in the protocol only:
the inspection resets and stores the plan identity where the others have none. -/

namespace PilotingMavsdk.GroundStation

inductive DownloadWorkItem.Step where
  | requestList
  | requestItem
deriving DecidableEq, Repr

structure DownloadWorkItem (Header Item : Type) extends WorkItem where
  step : DownloadWorkItem.Step := .requestList
  list : ItemList Header Item
  nextSequence : Nat := 0
  expectedCount : Nat := 0
deriving DecidableEq, Repr

namespace DownloadWorkItem
variable {Header Item Ack : Type} (protocol : ListProtocol Header Item Ack)

abbrev Report (Header Item : Type) := Result × ItemList Header Item

abbrev After (Header Item : Type) := Outcome (DownloadWorkItem Header Item) (Report Header Item)

/-- The constructor registers both handlers. -/
def create (sender : Sender) (callback : Bool) : DownloadWorkItem Header Item where
  sender := sender
  handlers := [protocol.id .count, protocol.id .item]
  callback := callback
  list := ⟨protocol.noHeader, []⟩

def callbackAndReset (result : Result) (item : DownloadWorkItem Header Item) : After Header Item :=
  ⟨{ item with callback := false, done := true },
    if item.callback then [.callback (result, item.list)] else []⟩

@[simp] theorem callbackAndReset_item (result : Result) (item : DownloadWorkItem Header Item) :
    (item.callbackAndReset result).item = { item with callback := false, done := true } := rfl

@[simp] theorem silent_callbackAndReset (result : Result) (item : DownloadWorkItem Header Item) :
    (item.callbackAndReset result).Silent ↔ item.callback = false := by
  cases callback : item.callback <;> simp [callbackAndReset, callback]

@[simp] theorem pendingAfter_callbackAndReset (result : Result)
    (item : DownloadWorkItem Header Item) (pending : List Cookie) :
    (item.callbackAndReset result).pendingAfter pending = pending := by
  cases callback : item.callback <;> simp [callbackAndReset, callback, Effect.pendingAfter]

def connectionError (item : DownloadWorkItem Header Item) : After Header Item :=
  (item.callbackAndReset .connectionError).after [.removeTimeout item.cookie]

@[simp] theorem connectionError_item (item : DownloadWorkItem Header Item) :
    item.connectionError.item = { item with callback := false, done := true } := rfl

@[simp] theorem pendingAfter_connectionError (item : DownloadWorkItem Header Item)
    (pending : List Cookie) :
    item.connectionError.pendingAfter pending = pending.filter (· ≠ item.cookie) := by
  simp [connectionError, Effect.pendingAfter]

def requestList (environment : Environment) (item : DownloadWorkItem Header Item) :
    After Header Item :=
  .sending environment (item.sender.pack (protocol.payload .request))
    item.connectionError
    ⟨{ item with retriesDone := item.retriesDone + 1 }, []⟩

def requestItem (environment : Environment) (item : DownloadWorkItem Header Item) :
    After Header Item :=
  .sending environment
    (item.sender.pack (protocol.payload (.read (UInt16.ofNat item.nextSequence))))
    item.connectionError
    ⟨{ item with retriesDone := item.retriesDone + 1 }, []⟩

def sendAckAndFinish (environment : Environment) (item : DownloadWorkItem Header Item) :
    After Header Item :=
  .sending environment (item.sender.pack (protocol.payload (.ack protocol.accepted)))
    (item.callbackAndReset .connectionError)
    (item.callbackAndReset .success)

def sendCancelAndFinish (environment : Environment) (item : DownloadWorkItem Header Item) :
    After Header Item :=
  .sending environment (item.sender.pack (protocol.payload (.ack protocol.cancelled)))
    (item.callbackAndReset .connectionError)
    (item.callbackAndReset .cancelled)

theorem requestList_item (environment : Environment) (item : DownloadWorkItem Header Item) :
    (item.requestList protocol environment).item =
      if environment.sent then { item with retriesDone := item.retriesDone + 1 }
      else { item with callback := false, done := true } := by
  simp [requestList]

theorem requestItem_item (environment : Environment) (item : DownloadWorkItem Header Item) :
    (item.requestItem protocol environment).item =
      if environment.sent then { item with retriesDone := item.retriesDone + 1 }
      else { item with callback := false, done := true } := by
  simp [requestItem]

@[simp] theorem sendAckAndFinish_item (environment : Environment)
    (item : DownloadWorkItem Header Item) :
    (item.sendAckAndFinish protocol environment).item =
      { item with callback := false, done := true } := by
  simp [sendAckAndFinish]

def start (environment : Environment) (item : DownloadWorkItem Header Item) : After Header Item :=
  let started : DownloadWorkItem Header Item := { item with
    list := ⟨protocol.noHeader, []⟩
    started := true
    retriesDone := 0
    cookie := environment.cookie }
  (started.requestList protocol environment).after [.addTimeout environment.cookie]

def cancel (environment : Environment) (item : DownloadWorkItem Header Item) : After Header Item :=
  (item.sendCancelAndFinish protocol environment).after [.removeTimeout item.cookie]

@[simp] theorem cancel_item (environment : Environment) (item : DownloadWorkItem Header Item) :
    (item.cancel protocol environment).item = { item with callback := false, done := true } := by
  simp [cancel, sendCancelAndFinish]

def processCount (environment : Environment) (header : Header) (count : UInt16)
    (item : DownloadWorkItem Header Item) : After Header Item :=
  if count = 0 then
    (item.sendAckAndFinish protocol environment).followedBy [.removeTimeout item.cookie]
  else
    let accepted : DownloadWorkItem Header Item := { item with
      nextSequence := 0
      step := .requestItem
      retriesDone := 0
      expectedCount := count.toNat
      list := ⟨header, item.list.items⟩ }
    (accepted.requestItem protocol environment).after [.refreshTimeout item.cookie]

def processItem (environment : Environment) (received : Item)
    (item : DownloadWorkItem Header Item) : After Header Item :=
  let extended : DownloadWorkItem Header Item := { item with
    list := ⟨item.list.header, item.list.items ++ [received]⟩ }
  if item.nextSequence + 1 = item.expectedCount then
    (extended.sendAckAndFinish protocol environment).after
      [.refreshTimeout item.cookie, .removeTimeout item.cookie]
  else
    let next : DownloadWorkItem Header Item := { extended with
      nextSequence := (protocol.seq received).toNat + 1
      retriesDone := 0 }
    (next.requestItem protocol environment).after [.refreshTimeout item.cookie]

def processTimeout (environment : Environment) (item : DownloadWorkItem Header Item) :
    After Header Item :=
  if item.retriesDone ≥ retries then
    item.callbackAndReset .timeout
  else
    let rearmed : DownloadWorkItem Header Item := { item with cookie := environment.cookie }
    match item.step with
    | .requestList =>
      (rearmed.requestList protocol environment).after [.addTimeout environment.cookie]
    | .requestItem =>
      (rearmed.requestItem protocol environment).after [.addTimeout environment.cookie]

def processMessage (environment : Environment) (message : Message)
    (item : DownloadWorkItem Header Item) : After Header Item :=
  match protocol.dispatched item.toWorkItem message with
  | some (.count header count) => item.processCount protocol environment header count
  | some (.item received) => item.processItem protocol environment received
  | _ => ⟨item, []⟩

end DownloadWorkItem
end PilotingMavsdk.GroundStation
