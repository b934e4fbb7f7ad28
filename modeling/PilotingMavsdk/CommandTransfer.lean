import PilotingMavsdk.WorkItem

/-! `SendWorkItem` of the command transfer: one `COMMAND_LONG`, repeated until an acknowledgement
of the same command arrives. -/

namespace PilotingMavsdk

namespace CommandBase

inductive Result where
  | success
  | connectionError
  | busy
  | timeout
  | cancelled
  | inProgress
deriving DecidableEq, Repr

/-- The `CommandLong` of the user. The transfer writes a confirmation of its own. -/
structure CommandLong where
  command : UInt16 := 0
  confirmation : UInt8 := 0
  param1 : FloatBits := nan
  param2 : FloatBits := nan
  param3 : FloatBits := nan
  param4 : FloatBits := nan
  param5 : FloatBits := nan
  param6 : FloatBits := nan
  param7 : FloatBits := nan
deriving DecidableEq, Repr

end CommandBase

def mavResultInProgress : UInt8 := 5

structure SendWorkItem extends WorkItem where
  command : CommandBase.CommandLong
  ack : CommandAck := {}
deriving DecidableEq, Repr

namespace SendWorkItem

abbrev Report := CommandBase.Result × CommandAck

abbrev After := Outcome SendWorkItem Report

def Report.terminal (report : Report) : Bool := report.1 != .inProgress

def create (sender : Sender) (command : CommandBase.CommandLong) (callback : Bool) :
    SendWorkItem where
  sender := sender
  handlers := [77]
  callback := callback
  command := command

/-- The member function `callback`, which does not reset. -/
def report (result : CommandBase.Result) (item : SendWorkItem) : List (Effect Report) :=
  if item.callback then [.callback (result, item.ack)] else []

def callbackAndReset (result : CommandBase.Result) (item : SendWorkItem) : After :=
  ⟨{ item with callback := false, done := true }, item.report result⟩

@[simp] theorem callbackAndReset_item (result : CommandBase.Result) (item : SendWorkItem) :
    (item.callbackAndReset result).item = { item with callback := false, done := true } := rfl

@[simp] theorem silent_callbackAndReset (result : CommandBase.Result) (item : SendWorkItem) :
    (item.callbackAndReset result).Silent ↔ item.callback = false := by
  cases callback : item.callback <;> simp [callbackAndReset, report, callback]

@[simp] theorem pendingAfter_callbackAndReset (result : CommandBase.Result) (item : SendWorkItem)
    (pending : List Cookie) : (item.callbackAndReset result).pendingAfter pending = pending := by
  cases callback : item.callback <;> simp [callbackAndReset, report, callback, Effect.pendingAfter]

/-- The failure branch of `send_command`. -/
def connectionError (item : SendWorkItem) : After :=
  (item.callbackAndReset .connectionError).after [.removeTimeout item.cookie]

@[simp] theorem connectionError_item (item : SendWorkItem) :
    item.connectionError.item = { item with callback := false, done := true } := rfl

@[simp] theorem pendingAfter_connectionError (item : SendWorkItem) (pending : List Cookie) :
    item.connectionError.pendingAfter pending = pending.filter (· ≠ item.cookie) := by
  simp [connectionError, Effect.pendingAfter]

/-- The confirmation field carries the number of attempts before this one. -/
def commandLong (item : SendWorkItem) : CommandLong where
  command := item.command.command
  confirmation := UInt8.ofNat item.retriesDone
  param1 := item.command.param1
  param2 := item.command.param2
  param3 := item.command.param3
  param4 := item.command.param4
  param5 := item.command.param5
  param6 := item.command.param6
  param7 := item.command.param7

def sendCommand (environment : Environment) (item : SendWorkItem) : After :=
  .sending environment (item.sender.pack (.commandLong item.commandLong))
    item.connectionError
    ⟨{ item with retriesDone := item.retriesDone + 1 }, []⟩

def start (environment : Environment) (item : SendWorkItem) : After :=
  let started : SendWorkItem := { item with
    started := true
    retriesDone := 0
    cookie := environment.cookie }
  (started.sendCommand environment).after [.addTimeout environment.cookie]

def cancel (item : SendWorkItem) : After :=
  (item.callbackAndReset .cancelled).after [.removeTimeout item.cookie]

def processCommandAck (environment : Environment) (commandAck : CommandAck)
    (item : SendWorkItem) : After :=
  if item.command.command ≠ commandAck.command then
    ⟨item, []⟩
  else
    let acknowledged : SendWorkItem := { item with ack := commandAck }
    Outcome.after [.removeTimeout item.cookie]
      (if commandAck.result = mavResultInProgress then
        let rearmed : SendWorkItem := { acknowledged with cookie := environment.cookie }
        ⟨rearmed, .addTimeout environment.cookie :: rearmed.report .inProgress⟩
      else acknowledged.callbackAndReset .success)

def processTimeout (environment : Environment) (item : SendWorkItem) : After :=
  if item.retriesDone ≥ retries then
    item.callbackAndReset .timeout
  else
    let rearmed : SendWorkItem := { item with cookie := environment.cookie }
    (rearmed.sendCommand environment).after [.addTimeout environment.cookie]

/-- `process_message` hands the item the messages whose id it has registered. -/
def dispatched (item : WorkItem) (message : Message) : Option CommandAck :=
  if message.payload.msgId ∈ item.handlers then
    match message.payload with
    | .commandAck commandAck => some commandAck
    | _ => none
  else none

def processMessage (environment : Environment) (message : Message) (item : SendWorkItem) :
    After :=
  match dispatched item.toWorkItem message with
  | some commandAck => item.processCommandAck environment commandAck
  | none => ⟨item, []⟩

end SendWorkItem
end PilotingMavsdk
