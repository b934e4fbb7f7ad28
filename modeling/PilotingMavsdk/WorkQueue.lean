import PilotingMavsdk.WorkItemClass

/-! The work queue of a transfer and `do_work`, which is the same in all five. `do_work` locks the
queue from beginning to end, but not the item: other threads go on calling its member functions. -/

namespace PilotingMavsdk
open Library

structure QueuedItem where
  kind : Kind
  state : kind.State

namespace QueuedItem

def base (item : QueuedItem) : WorkItem := item.kind.workItemClass.base item.state

def handle (call : Call) (environment : Environment) (item : QueuedItem) : QueuedItem where
  kind := item.kind
  state := (item.kind.workItemClass.handle call environment item.state).item

end QueuedItem

/-- What `make_shared` in the functions that queue an item returns. -/
structure NewItem extends QueuedItem where
  created : kind.workItemClass.Created state

/-- What `do_work` knows of the item in front: that it is there, and what `has_started` said. -/
inductive DoWork where
  | idle
  | gotFront (work : Nat)
  | unstarted (work : Nat)
  | running (work : Nat)
deriving DecidableEq, Repr

/-- A `shared_ptr` is the number of an item among all that were ever made. `doWork` also says
whether the queue is locked. -/
structure WorkQueue where
  items : List QueuedItem := []
  queue : List Nat := []
  doWork : DoWork := .idle

/-- `change` is what another thread makes of an item, whether it is in the queue or not. -/
inductive WorkQueueAction where
  | pushBack (item : NewItem)
  | getFront
  | hasStarted
  | start (environment : Environment)
  | isDone
  | change (work : Nat) (item : QueuedItem)

inductive WorkQueueOutput where
  | pushed (work : Nat)
  | started (work : Nat)
deriving DecidableEq, Repr

namespace WorkQueue

/-- Other threads may change everything about an item, but only `start` starts it. While the queue
is locked nobody else sees it, so an item that is done leaves it together with the check. -/
def machine : Machine WorkQueue WorkQueueAction WorkQueueOutput where
  step workQueue
    | .pushBack item =>
      match workQueue.doWork with
      | .idle =>
        some ({ workQueue with
          items := workQueue.items ++ [item.toQueuedItem]
          queue := workQueue.queue ++ [workQueue.items.length] },
          [.pushed workQueue.items.length])
      | _ => none
    | .getFront =>
      match workQueue.doWork, workQueue.queue with
      | .idle, [] => some (workQueue, [])
      | .idle, front :: _ => some ({ workQueue with doWork := .gotFront front }, [])
      | _, _ => none
    | .hasStarted =>
      match workQueue.doWork with
      | .gotFront work =>
        match workQueue.items[work]? with
        | some item =>
          let found := if item.base.started then DoWork.running work else .unstarted work
          some ({ workQueue with doWork := found }, [])
        | none => none
      | _ => none
    | .start environment =>
      match workQueue.doWork with
      | .unstarted work =>
        some ({ workQueue with
          items := workQueue.items.modify work (QueuedItem.handle .start environment)
          doWork := .running work }, [.started work])
      | _ => none
    | .isDone =>
      match workQueue.doWork with
      | .running work =>
        match workQueue.items[work]? with
        | some item =>
          let left := if item.base.done then workQueue.queue.tail else workQueue.queue
          some ({ workQueue with queue := left, doWork := .idle }, [])
        | none => none
      | _ => none
    | .change work item =>
      match workQueue.items[work]? with
      | some before =>
        if item.kind = before.kind ∧ item.base.started = before.base.started then
          some ({ workQueue with items := workQueue.items.set work item }, [])
        else none
      | none => none

end WorkQueue
end PilotingMavsdk
