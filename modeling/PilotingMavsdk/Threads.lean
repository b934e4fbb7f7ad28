import PilotingMavsdk.Library.Locks
import PilotingMavsdk.WorkItemClass

/-! The mutexes of the inspection transfer and the threads that take them. What a thread does is
the sequence of locks and unlocks of the code it runs; the data decide which of these sequences
it is, and are left open here. A process is either a ground station or a vehicle, and the threads
here may do what they do in both. -/

namespace PilotingMavsdk
open Library

inductive Mutex where
  | table
  | queue
  | item (item : Nat)
  | plugin
  | timers
deriving DecidableEq, Repr

def Mutex.ofItem : Mutex → Bool
  | .item _ => true
  | _ => false

inductive Thread where
  | receive
  | system
  | timer
  | user (number : Nat)
deriving DecidableEq, Repr

/-- Whose callback an entry of the dispatch table holds, its `cookie`. -/
inductive Handler where
  | item (item : Nat)
  | plugin
deriving DecidableEq, Repr

/-- What is done with the dispatch table under its mutex. -/
inductive TableAct where
  | register (id : Nat) (handler : Handler)
  | unregisterAll (handler : Handler)
  | processMessage (id : Nat)
deriving DecidableEq, Repr

abbrev Program := List (LockOp Mutex TableAct)

def registerOne (handler : Handler) (id : Nat) : Program :=
  lockGuard .table [.act (.register id handler)]

def unregisterAll (handler : Handler) : Program :=
  lockGuard .table [.act (.unregisterAll handler)]

def pushBack : Program := lockGuard .queue []

/-- The callbacks of the vehicle's items lock the plugin; those of the ground station do not. -/
def Effect.program {Report : Type} (kind : Kind) : Effect Report → Program
  | .sendMessage _ _ => []
  | .addTimeout _ | .refreshTimeout _ | .removeTimeout _ => lockGuard .timers []
  | .callback _ =>
    match kind with
    | .vehicleInspectionUpload | .vehicleInspectionDownload => lockGuard .plugin []
    | _ => []

def Kind.ofInspection : Kind → Bool
  | .inspectionUpload | .inspectionDownload | .vehicleInspectionUpload
  | .vehicleInspectionDownload => true
  | _ => false

/-- A member function that runs on some item. The other transfers have queues of their own. -/
structure ItemCall where
  item : Nat
  kind : Kind
  ofInspection : kind.ofInspection = true := by rfl
  state : kind.State
  call : Call
  environment : Environment

/-- `start()` registers the first handler before it does anything else and the second one after
it has added the timer. No other member function registers handlers. -/
def ItemCall.program (called : ItemCall) : Program :=
  let outcome := called.kind.workItemClass.handle called.call called.environment called.state
  let before := (called.kind.workItemClass.base called.state).handlers
  let handlers := (called.kind.workItemClass.base outcome.item).handlers.drop before.length
  lockGuard (.item called.item)
    ((handlers.take 1).flatMap (registerOne (.item called.item)) ++
      (outcome.effects.take 1).flatMap (Effect.program called.kind) ++
      (handlers.drop 1).flatMap (registerOne (.item called.item)) ++
      (outcome.effects.drop 1).flatMap (Effect.program called.kind))

def readFlag (item : Nat) : Program := lockGuard (.item item) []

/-- The constructors of the ground station's items. Those of the vehicle's take no mutex. -/
def construct (item : Nat) (ids : List Nat) : Program :=
  lockGuard (.item item) (ids.flatMap (registerOne (.item item)))

def destruct (item : Nat) : Program :=
  lockGuard (.item item) (unregisterAll (.item item) ++ lockGuard .timers [])

/-- What `do_work` finds in front: an item, to be started or not. The item is destroyed if it is
popped and nobody else refers to it, while the queue is still locked. -/
structure Front where
  item : Nat
  start : Option ItemCall
  destroyed : Bool

def doWork : Option Front → Program
  | none => lockGuard .queue []
  | some front => lockGuard .queue
    (readFlag front.item ++ (front.start.toList.flatMap ItemCall.program) ++
      readFlag front.item ++ (if front.destroyed then destruct front.item else []))

/-- The mutex of the timers is released around each callback. -/
def runOnce (expired : List ItemCall) : Program :=
  .lock .timers :: (expired.flatMap
    (fun called => .unlock .timers :: (called.program ++ [.lock .timers])) ++ [.unlock .timers])

/-- What `process_message` calls for one entry: an item's handler or one of the plugin's. With
`busy` the plugin has locked a weak pointer for the moment of a comparison, and if everybody else
lets go of the item meanwhile, destroys it. -/
inductive Callback where
  | item (called : ItemCall)
  | busy (released : Option Nat)
  | transfer
  | setCurrent

namespace Callback

def handler : Callback → Handler
  | .item called => .item called.item
  | .busy _ | .transfer | .setCurrent => .plugin

def program : Callback → Program
  | .item called => called.program
  | .busy released => lockGuard .plugin (released.toList.flatMap destruct)
  | .transfer => lockGuard .plugin pushBack
  | .setCurrent => lockGuard .plugin []

/-- Whether the callback may be the answer to a message with this id. -/
def answers (id : Nat) : Callback → Bool
  | .item called =>
    match called.call with
    | .processMessage message => message.payload.msgId = id
    | _ => false
  | .busy _ | .transfer => id = inspection.id .count ∨ id = inspection.id .request
  | .setCurrent => id = 185

end Callback

/-- What the threads run from the beginning to the end, one after the other. An item is
`destroyed` by the user's thread if `do_work` has popped it meanwhile; with `busy` that thread has
locked the weak pointer of the ground station's plugin only to see whether there is an item. -/
inductive Routine where
  | processMessage (id : Nat)
  | doWork (front : Option Front)
  | runOnce (expired : List ItemCall)
  | busy (released : Option Nat)
  | uploadItemsAsync (item : Nat) (destroyed : Bool)
  | downloadItemsAsync (item : Nat) (destroyed : Bool)
  | cancel (called : ItemCall) (destroyed : Bool)
  | setPlugin
  | init
  | deinit

namespace Routine

def program : Routine → Program
  | .processMessage id => lockGuard .table [.act (.processMessage id)]
  | .doWork front => PilotingMavsdk.doWork front
  | .runOnce expired => PilotingMavsdk.runOnce expired
  | .busy released => released.toList.flatMap destruct
  | .uploadItemsAsync item destroyed =>
    construct item [inspection.id .read, inspection.id .ack] ++ pushBack ++
      if destroyed then destruct item else []
  | .downloadItemsAsync item destroyed =>
    construct item [inspection.id .count, inspection.id .item] ++ pushBack ++
      if destroyed then destruct item else []
  | .cancel called destroyed => called.program ++ if destroyed then destruct called.item else []
  | .setPlugin => lockGuard .plugin []
  | .init => [inspection.id .count, inspection.id .request, 185].flatMap (registerOne .plugin)
  | .deinit => unregisterAll .plugin

/-- Which thread runs it, and which of the member functions it calls. -/
def runsOn : Routine → Thread → Bool
  | .processMessage _, thread => thread = .receive
  | .doWork front, thread => thread = .system ∧
    ∀ found ∈ front, ∀ called ∈ found.start, called.item = found.item ∧ called.call = .start
  | .runOnce expired, thread => thread = .timer ∧ ∀ called ∈ expired, called.call = .processTimeout
  | .cancel called _, .user _ => called.call = .cancel
  | .busy _, .user _ => true
  | .uploadItemsAsync _ _, .user _ | .downloadItemsAsync _ _, .user _ => true
  | .setPlugin, .user _ | .init, .user _ | .deinit, .user _ => true
  | _, _ => false

end Routine

/-- The mutexes of a thread are listed innermost first. `waiting` says that the thread has come
to its next lock and found the mutex taken. -/
structure Threads where
  owner : Mutex → Option Thread := fun _ => none
  held : Thread → List Mutex := fun _ => []
  program : Thread → Program := fun _ => []
  waiting : Thread → Bool := fun _ => false
  table : List (Nat × Handler) := []

inductive ThreadAction where
  | begin (thread : Thread) (routine : Routine)
  | run (thread : Thread)
  | processMessage (callbacks : List Callback)

namespace Threads

/-- Of the five kinds only the plugin's mutex is recursive. -/
def Available (threads : Threads) (thread : Thread) (mutex : Mutex) : Prop :=
  threads.owner mutex = none ∨ mutex = .plugin ∧ threads.owner mutex = some thread

instance (threads : Threads) (thread : Thread) (mutex : Mutex) :
    Decidable (threads.Available thread mutex) :=
  inferInstanceAs (Decidable (_ ∨ _ ∧ _))

def goOn (thread : Thread) (rest : Program) (threads : Threads) : Threads :=
  { threads with program := Function.update threads.program thread rest }

def acquire (thread : Thread) (mutex : Mutex) (threads : Threads) : Threads :=
  { threads with
    owner := Function.update threads.owner mutex (some thread)
    held := Function.update threads.held thread (mutex :: threads.held thread)
    waiting := Function.update threads.waiting thread false }

def release (thread : Thread) (mutex : Mutex) (threads : Threads) : Threads :=
  let held := (threads.held thread).erase mutex
  { threads with
    owner := Function.update threads.owner mutex (if mutex ∈ held then some thread else none)
    held := Function.update threads.held thread held }

def machine : Machine Threads ThreadAction Unit where
  step threads
    | .begin thread routine =>
      if threads.program thread = [] ∧ routine.runsOn thread then
        some (threads.goOn thread routine.program, [])
      else none
    | .run thread =>
      match threads.program thread with
      | .lock mutex :: rest =>
        if threads.Available thread mutex then
          some ((threads.acquire thread mutex).goOn thread rest, [])
        else if threads.waiting thread then none
        else some ({ threads with waiting := Function.update threads.waiting thread true }, [])
      | .unlock mutex :: rest => some ((threads.release thread mutex).goOn thread rest, [])
      | .act (.register id handler) :: rest =>
        some ({ threads with table := threads.table ++ [(id, handler)] }.goOn thread rest, [])
      | .act (.unregisterAll handler) :: rest =>
        some ({ threads with table := threads.table.filter (·.2 ≠ handler) }.goOn thread rest, [])
      | .act (.processMessage _) :: _ | [] => none
    | .processMessage callbacks =>
      match threads.program .receive with
      | .act (.processMessage id) :: rest =>
        -- the table is locked, so its entries are those of the whole loop
        if callbacks.map Callback.handler = (threads.table.filter (·.1 = id)).map Prod.snd ∧
            callbacks.all (Callback.answers id) then
          some (threads.goOn .receive (callbacks.flatMap Callback.program ++ rest), [])
        else none
      | _ => none

def Holds (threads : Threads) (thread : Thread) (mutex : Mutex) : Prop :=
  threads.owner mutex = some thread

/-- The thread has asked for the mutex and has not got it yet. -/
def Waits (threads : Threads) (thread : Thread) (mutex : Mutex) : Prop :=
  threads.waiting thread = true ∧ nextLock (threads.program thread) = some mutex

instance (threads : Threads) (thread : Thread) (mutex : Mutex) :
    Decidable (threads.Holds thread mutex) :=
  inferInstanceAs (Decidable (_ = _))

instance (threads : Threads) (thread : Thread) (mutex : Mutex) :
    Decidable (threads.Waits thread mutex) :=
  inferInstanceAs (Decidable (_ ∧ _))

end Threads
end PilotingMavsdk
