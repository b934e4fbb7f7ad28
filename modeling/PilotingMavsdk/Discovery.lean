import PilotingMavsdk.Library.Locks
import PilotingMavsdk.Library.Machine

/-! The mutexes under which systems are discovered and lost and the connection is replaced, and
the threads that take them. Each connection has a receive thread of its own, and whoever destroys
a connection waits for that thread to end. -/

namespace PilotingMavsdk
open Library

namespace Discovery

/-- `connection` is the mutex of `MavsdkImpl`, `system` that of the `SystemImpl` with this id. -/
inductive Mutex where
  | systems
  | newSystemCallback
  | connection
  | system (id : Nat)
deriving DecidableEq, Repr

inductive Thread where
  | receive (connection : Nat)
  | timer
  | user (number : Nat)
deriving DecidableEq, Repr

/-- What is done with connections. -/
inductive ConnectionAct where
  | setConnection (connection : Nat)
  | stop (connection : Nat)
  | join (connection : Nat)
  | leaveScope (connection : Nat)
deriving DecidableEq, Repr

abbrev Program := List (LockOp Mutex ConnectionAct)

def systems : Program := lockGuard .systems []

def isConnected : Program := lockGuard .systems []

def doesSystemExist : Program := lockGuard .systems []

/-- `_is_single_system` is never set, so a new system is not connected yet. -/
def makeSystemWithComponent : Program := lockGuard .systems []

def sendMessage : Program := lockGuard .connection []

/-- The user's callback is only queued. -/
def notifyOnDiscover : Program := lockGuard .newSystemCallback []

def notifyOnTimeout : Program := lockGuard .newSystemCallback []

def setConnected (id : Nat) (discovered : Bool) : Program :=
  lockGuard (.system id) (if discovered then notifyOnDiscover else [])

def setDisconnected (id : Nat) : Program := lockGuard (.system id) notifyOnTimeout

inductive Handler where
  | heartbeat (id : Nat) (discovered : Bool)
  | other (sent : Nat)
deriving DecidableEq, Repr

def Handler.program : Handler → Program
  | .heartbeat id discovered => setConnected id discovered
  | .other sent => (List.replicate sent sendMessage).flatten

def receiveMessage (made : Bool) (handlers : List Handler) : Program :=
  lockGuard .systems (doesSystemExist ++ (if made then makeSystemWithComponent else []) ++
    doesSystemExist ++ handlers.flatMap Handler.program)

/-- What the user's callback may ask for. -/
inductive Query where
  | systems
  | isConnected
deriving DecidableEq, Repr

def Query.program : Query → Program
  | .systems => Discovery.systems
  | .isConnected => Discovery.isConnected

/-- The systems are asked for only if there is a callback, and it is called here, with the mutex
locked, if one of them is connected. -/
def subscribeOnNewSystem (callback : Option (List Query)) (connected : Bool) : Program :=
  lockGuard .newSystemCallback (match callback with
    | none => []
    | some queries => systems ++ if connected then queries.flatMap Query.program else [])

/-- The destructor of `UdpConnection` calls `stop`. -/
def destroy (connection : Nat) : Program :=
  [.act (.stop connection), .act (.join connection)]

def setupUdpConnection (connection : Nat) : Program :=
  lockGuard .connection [.act (.setConnection connection)] ++ [.act (.leaveScope connection)]

/-- What the threads run from the beginning to the end, one after the other. -/
inductive Routine where
  | receiveMessage (made : Bool) (handlers : List Handler)
  | heartbeatsTimedOut (id : Nat)
  | sendMessage
  | systems
  | isConnected
  | subscribeOnNewSystem (callback : Option (List Query)) (connected : Bool)
  | setupUdpConnection (connection : Nat)
deriving DecidableEq, Repr

namespace Routine

def program : Routine → Program
  | .receiveMessage made handlers => Discovery.receiveMessage made handlers
  | .heartbeatsTimedOut id => setDisconnected id
  | .sendMessage => Discovery.sendMessage
  | .systems => Discovery.systems
  | .isConnected => Discovery.isConnected
  | .subscribeOnNewSystem callback connected => Discovery.subscribeOnNewSystem callback connected
  | .setupUdpConnection connection => Discovery.setupUdpConnection connection

def runsOn : Routine → Thread → Bool
  | .receiveMessage _ _, .receive _ => true
  | .heartbeatsTimedOut _, .timer => true
  | .sendMessage, .timer | .sendMessage, .user _ => true
  | .systems, .user _ | .isConnected, .user _ => true
  | .subscribeOnNewSystem _ _, .user _ | .setupUdpConnection _, .user _ => true
  | _, _ => false

end Routine

/-- The receive thread of a connection. One that has been stopped may still be busy with a
datagram. -/
inductive Receiver where
  | absent
  | running
  | stopped
  | ended
deriving DecidableEq, Repr

inductive Action where
  | begin (thread : Thread) (routine : Routine)
  | run (thread : Thread)
  | endReceiver (connection : Nat)
deriving DecidableEq, Repr

end Discovery

/-- `connection` is `_connection`, and `inScope` the connections to which `new_conn` still refers
in some call of `setup_udp_connection`. `waiting` says that the thread has come to its next lock or
join and had to wait. -/
structure Discovery where
  holdings : Holdings Discovery.Mutex Discovery.Thread := .none
  program : Discovery.Thread → Discovery.Program := fun _ => []
  waiting : Discovery.Thread → Bool := fun _ => false
  connection : Option Nat := none
  inScope : Nat → Bool := fun _ => false
  receiver : Nat → Discovery.Receiver := fun _ => .absent

namespace Discovery

/-- Only `_systems_mutex` is recursive. -/
def Available (discovery : Discovery) (thread : Thread) (mutex : Mutex) : Prop :=
  ∀ owner ∈ discovery.holdings.owner mutex, owner = thread ∧ mutex = .systems

instance (discovery : Discovery) (thread : Thread) (mutex : Mutex) :
    Decidable (discovery.Available thread mutex) :=
  inferInstanceAs (Decidable (∀ owner ∈ discovery.holdings.owner mutex, _ ∧ _))

def goOn (thread : Thread) (rest : Program) (discovery : Discovery) : Discovery :=
  { discovery with
    program := Function.update discovery.program thread rest
    waiting := Function.update discovery.waiting thread false }

def wait (thread : Thread) (discovery : Discovery) : Discovery :=
  { discovery with waiting := Function.update discovery.waiting thread true }

/-- A receive thread reads messages as long as it has not ended, also when it has been stopped. -/
def MayBegin (discovery : Discovery) : Thread → Routine → Prop
  | .receive connection, _ =>
    discovery.receiver connection = .running ∨ discovery.receiver connection = .stopped
  | _, .setupUdpConnection connection => discovery.receiver connection = .absent
  | _, _ => True

instance (discovery : Discovery) : (thread : Thread) → (routine : Routine) →
    Decidable (discovery.MayBegin thread routine)
  | .receive _, _ => inferInstanceAs (Decidable (_ ∨ _))
  | .timer, .setupUdpConnection _ | .user _, .setupUdpConnection _ =>
    inferInstanceAs (Decidable (_ = _))
  | .timer, .receiveMessage _ _ | .timer, .heartbeatsTimedOut _ | .timer, .sendMessage
  | .timer, .systems | .timer, .isConnected | .timer, .subscribeOnNewSystem _ _
  | .user _, .receiveMessage _ _ | .user _, .heartbeatsTimedOut _ | .user _, .sendMessage
  | .user _, .systems | .user _, .isConnected | .user _, .subscribeOnNewSystem _ _ =>
    .isTrue trivial

def started (discovery : Discovery) : Routine → Discovery
  | .setupUdpConnection connection =>
    { discovery with
      inScope := Function.update discovery.inScope connection true
      receiver := Function.update discovery.receiver connection .running }
  | _ => discovery

/-- The last reference to a connection destroys it, in the middle of the assignment or at the end
of the function. -/
def act (thread : Thread) (rest : Program) (discovery : Discovery) :
    ConnectionAct → Option Discovery
  | .setConnection connection =>
    let destroyed := match discovery.connection with
      | none => []
      | some old => if discovery.inScope old then [] else destroy old
    some ({ discovery with connection := some connection }.goOn thread (destroyed ++ rest))
  | .leaveScope connection =>
    let destroyed := if discovery.connection = some connection then [] else destroy connection
    some ({ discovery with inScope := Function.update discovery.inScope connection false }.goOn
      thread (destroyed ++ rest))
  | .stop connection =>
    let receiver := match discovery.receiver connection with
      | .running => .stopped
      | other => other
    some ({ discovery with receiver := Function.update discovery.receiver connection receiver }.goOn
      thread rest)
  | .join connection =>
    if discovery.receiver connection = .ended then some (discovery.goOn thread rest)
    else if discovery.waiting thread then none
    else some (discovery.wait thread)

def machine : Machine Discovery Action Unit where
  step discovery
    | .begin thread routine =>
      if discovery.program thread = [] ∧ routine.runsOn thread ∧
          discovery.MayBegin thread routine then
        some ((discovery.started routine).goOn thread routine.program, [])
      else none
    | .endReceiver connection =>
      if discovery.program (.receive connection) = [] ∧
          discovery.receiver connection = .stopped then
        some ({ discovery with
          receiver := Function.update discovery.receiver connection .ended }, [])
      else none
    | .run thread =>
      match discovery.program thread with
      | [] => none
      | .lock mutex :: rest =>
        if available : discovery.Available thread mutex then
          some ({ discovery with
            holdings := discovery.holdings.acquire thread mutex
              (fun owner owned => (available owner owned).1) }.goOn thread rest, [])
        else if discovery.waiting thread then none
        else some (discovery.wait thread, [])
      | .unlock mutex :: rest =>
        if holding : mutex ∈ discovery.holdings.held thread then
          some ({ discovery with
            holdings := discovery.holdings.release thread mutex holding }.goOn thread rest, [])
        else none
      | .act act :: rest => (discovery.act thread rest act).map fun after => (after, [])

/-- What a thread can wait for: a mutex, or the end of a receive thread. -/
inductive Resource where
  | mutex (mutex : Mutex)
  | ended (connection : Nat)
deriving DecidableEq, Repr

/-- The end of a thread is held by that thread. -/
def Holds (discovery : Discovery) (thread : Thread) : Resource → Prop
  | .mutex mutex => discovery.holdings.owner mutex = some thread
  | .ended connection =>
    thread = .receive connection ∧ discovery.receiver connection ≠ .ended

/-- The thread has come to the lock or the join and has not got further yet. -/
def Waits (discovery : Discovery) (thread : Thread) : Resource → Prop
  | .mutex mutex =>
    discovery.waiting thread = true ∧ (discovery.program thread).head? = some (.lock mutex)
  | .ended connection =>
    discovery.waiting thread = true ∧
      (discovery.program thread).head? = some (.act (.join connection))

end Discovery
end PilotingMavsdk
