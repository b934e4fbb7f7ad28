import PilotingMavsdk.Library.Machine

/-! The queue of user callbacks and `call_user_callback_located`, which asks for its size and then
puts a callback in. These are two critical sections: other threads may run between them. -/

namespace PilotingMavsdk
open Library

structure SafeQueue (Item : Type) where
  queue : List Item := []
  shouldExit : Bool := false
deriving DecidableEq, Repr

namespace SafeQueue
variable {Item : Type}

def enqueue (item : Item) (safeQueue : SafeQueue Item) : SafeQueue Item :=
  { safeQueue with queue := safeQueue.queue ++ [item] }

/-- `none` while the caller has to wait; otherwise what it gets, which may be `std::nullopt`. -/
def dequeue (safeQueue : SafeQueue Item) : Option (Option Item × SafeQueue Item) :=
  if safeQueue.shouldExit then some (none, safeQueue)
  else
    match safeQueue.queue with
    | [] => none
    | item :: rest => some (some item, { safeQueue with queue := rest })

def stop (safeQueue : SafeQueue Item) : SafeQueue Item :=
  { safeQueue with shouldExit := true }

def size (safeQueue : SafeQueue Item) : Nat := safeQueue.queue.length

@[simp] theorem size_enqueue (item : Item) (safeQueue : SafeQueue Item) :
    (safeQueue.enqueue item).size = safeQueue.size + 1 := by
  simp [size, enqueue]

@[simp] theorem size_stop (safeQueue : SafeQueue Item) : safeQueue.stop.size = safeQueue.size := rfl

theorem size_dequeue {safeQueue after : SafeQueue Item} {item : Option Item}
    (dequeued : safeQueue.dequeue = some (item, after)) : after.size ≤ safeQueue.size := by
  unfold dequeue at dequeued
  split at dequeued
  · cases dequeued
    exact Nat.le_refl _
  · split at dequeued
    · cases dequeued
    next rest whole =>
      cases dequeued
      simp [size, whole]

end SafeQueue

structure UserCallback (Func : Type) where
  func : Func
  filename : String := ""
  linenumber : Int := 0
deriving DecidableEq, Repr

inductive QueueWarning where
  | tooSlow
  | overflown
deriving DecidableEq, Repr

/-- `calls` are the calls of `call_user_callback_located` that have asked for the size and are about
to put their callback in. -/
structure UserCallbacks (Caller Func : Type) where
  userCallbackQueue : SafeQueue (UserCallback Func) := {}
  callbackDebugging : Bool := false
  calls : List (Caller × UserCallback Func) := []
deriving DecidableEq, Repr

inductive UserCallbackStep (Caller Func : Type) where
  | sizeCheck (caller : Caller) (filename : String) (linenumber : Int) (func : Func)
  | enqueue (caller : Caller)
  | dequeue
  | stop
deriving DecidableEq, Repr

namespace UserCallbacks
variable {Caller Func : Type} [DecidableEq Caller]

def warnings (callbackSize : Nat) : List QueueWarning :=
  if callbackSize = 10 then [.tooSlow] else if callbackSize = 99 then [.overflown] else []

def sizeCheck (caller : Caller) (filename : String) (linenumber : Int) (func : Func)
    (callbacks : UserCallbacks Caller Func) : UserCallbacks Caller Func × List QueueWarning :=
  let callbackSize := callbacks.userCallbackQueue.size
  if callbackSize = 100 then (callbacks, [])
  else
    let userCallback : UserCallback Func :=
      if callbacks.callbackDebugging then { func, filename, linenumber } else { func }
    ({ callbacks with calls := callbacks.calls ++ [(caller, userCallback)] },
      warnings callbackSize)

def isCallOf (caller : Caller) (call : Caller × UserCallback Func) : Bool := call.1 = caller

def enqueue (caller : Caller) (callbacks : UserCallbacks Caller Func) :
    Option (UserCallbacks Caller Func) :=
  match callbacks.calls.find? (isCallOf caller) with
  | none => none
  | some call =>
    some { callbacks with
      userCallbackQueue := callbacks.userCallbackQueue.enqueue call.2
      calls := callbacks.calls.eraseP (isCallOf caller) }

/-- A caller is in one call at a time. -/
def machine : Machine (UserCallbacks Caller Func) (UserCallbackStep Caller Func) QueueWarning where
  step callbacks
    | .sizeCheck caller filename linenumber func =>
      if callbacks.calls.any (isCallOf caller) then none
      else some (callbacks.sizeCheck caller filename linenumber func)
    | .enqueue caller => (callbacks.enqueue caller).map fun after => (after, [])
    | .dequeue => callbacks.userCallbackQueue.dequeue.map fun dequeued =>
        ({ callbacks with userCallbackQueue := dequeued.2 }, [])
    | .stop => some ({ callbacks with userCallbackQueue := callbacks.userCallbackQueue.stop }, [])

end UserCallbacks
end PilotingMavsdk
