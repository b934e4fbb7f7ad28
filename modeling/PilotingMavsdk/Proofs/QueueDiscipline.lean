import PilotingMavsdk.Library.Tickets
import PilotingMavsdk.Proofs.Life
import PilotingMavsdk.WorkQueue

/-! In which order `do_work` starts the items of a queue and when it lets go of them. The queue
behaves like tickets that are called up one at a time. -/

namespace PilotingMavsdk
open Library

namespace WorkQueueOutput

def itemPushed : WorkQueueOutput → Option Nat
  | .pushed work => some work
  | .started _ => none

def itemStarted : WorkQueueOutput → Option Nat
  | .pushed _ => none
  | .started work => some work

end WorkQueueOutput

namespace WorkQueue

abbrev Step := Taken WorkQueue WorkQueueAction WorkQueueOutput

def pushed (log : List Step) : List Nat :=
  (log.flatMap Taken.outputs).filterMap WorkQueueOutput.itemPushed

def started (log : List Step) : List Nat :=
  (log.flatMap Taken.outputs).filterMap WorkQueueOutput.itemStarted

def Busy (workQueue : WorkQueue) (work : Nat) : Prop :=
  ∃ item, workQueue.items[work]? = some item ∧ item.base.started = true ∧ item.base.done = false

def Done (workQueue : WorkQueue) (work : Nat) : Prop :=
  ∃ item, workQueue.items[work]? = some item ∧ item.base.done = true

inductive Stepped (workQueue : WorkQueue) :
    WorkQueueAction → WorkQueue → List WorkQueueOutput → Prop where
  | pushBack {item : NewItem} (idle : workQueue.doWork = .idle) :
      Stepped workQueue (.pushBack item)
        { workQueue with
          items := workQueue.items ++ [item.toQueuedItem]
          queue := workQueue.queue ++ [workQueue.items.length] }
        [.pushed workQueue.items.length]
  | empty (idle : workQueue.doWork = .idle) (none : workQueue.queue = []) :
      Stepped workQueue .getFront workQueue []
  | getFront {front : Nat} {rest : List Nat} (idle : workQueue.doWork = .idle)
      (waiting : workQueue.queue = front :: rest) :
      Stepped workQueue .getFront { workQueue with doWork := .gotFront front } []
  | hasStarted {work : Nat} {item : QueuedItem} (got : workQueue.doWork = .gotFront work)
      (present : workQueue.items[work]? = some item) :
      Stepped workQueue .hasStarted
        { workQueue with
          doWork := if item.base.started then .running work else .unstarted work } []
  | start {environment : Environment} {work : Nat}
      (unstarted : workQueue.doWork = .unstarted work) :
      Stepped workQueue (.start environment)
        { workQueue with
          items := workQueue.items.modify work (QueuedItem.handle .start environment)
          doWork := .running work } [.started work]
  | isDone {work : Nat} {item : QueuedItem} (running : workQueue.doWork = .running work)
      (present : workQueue.items[work]? = some item) :
      Stepped workQueue .isDone
        { workQueue with
          queue := if item.base.done then workQueue.queue.tail else workQueue.queue
          doWork := .idle } []
  | change {work : Nat} {old item : QueuedItem} (present : workQueue.items[work]? = some old)
      (same : item.base.started = old.base.started) :
      Stepped workQueue (.change work item)
        { workQueue with items := workQueue.items.set work item } []

theorem stepped {before after : WorkQueue} {action : WorkQueueAction}
    {outputs : List WorkQueueOutput} (step : machine.step before action = some (after, outputs)) :
    Stepped before action after outputs := by
  simp only [machine] at step
  cases action with
  | pushBack item =>
    simp only at step
    split at step
    next idle => cases step; exact .pushBack idle
    · cases step
  | getFront =>
    simp only at step
    split at step
    next idle none => cases step; exact .empty idle none
    next front rest idle waiting => cases step; exact .getFront idle waiting
    · cases step
  | hasStarted =>
    simp only at step
    split at step
    next work got =>
      split at step
      next item present => cases step; exact .hasStarted got present
      · cases step
    · cases step
  | start environment =>
    simp only at step
    split at step
    next work unstarted => cases step; exact .start unstarted
    · cases step
  | isDone =>
    simp only at step
    split at step
    next work running =>
      split at step
      next item present => cases step; exact .isDone running present
      · cases step
    · cases step
  | change work item =>
    simp only at step
    split at step
    next old present =>
      split at step
      next allowed => cases step; exact .change present allowed.2
      · cases step
    · cases step

/-- `do_work` looks at the ticket that is to be handed back next. -/
def Looks (tickets : Tickets) : DoWork → Prop
  | .idle => True
  | .gotFront work => work = tickets.back ∧ work < tickets.given
  | .unstarted work => work = tickets.back ∧ work < tickets.given ∧ tickets.called = tickets.back
  | .running work => work = tickets.back ∧ work < tickets.given ∧ tickets.called = tickets.back + 1

/-- Pushed items are tickets given out, started ones have been called up, and those that have left
the queue are handed back. -/
structure Shows (tickets : Tickets) (workQueue : WorkQueue) : Prop where
  items : workQueue.items.length = tickets.given
  queue : workQueue.queue = tickets.out
  started : ∀ work item, workQueue.items[work]? = some item →
    (item.base.started = true ↔ work < tickets.called)
  doWork : Looks tickets workQueue.doWork

structure Moves (before after : Tickets) (outputs : List WorkQueueOutput) : Prop where
  given : List.range after.given =
    List.range before.given ++ outputs.filterMap WorkQueueOutput.itemPushed
  called : List.range after.called =
    List.range before.called ++ outputs.filterMap WorkQueueOutput.itemStarted

theorem Moves.still (tickets : Tickets) : Moves tickets tickets [] :=
  ⟨by simp, by simp⟩

private theorem unstarted_of_new (item : NewItem) : ¬item.base.started = true := by
  rw [Bool.not_eq_true]
  exact (item.kind.created_fields item.created).1

private theorem shows_pushBack {tickets : Tickets} {workQueue : WorkQueue}
    (shows : Shows tickets workQueue) (item : NewItem) : Shows tickets.give { workQueue with
      items := workQueue.items ++ [item.toQueuedItem]
      queue := workQueue.queue ++ [workQueue.items.length]
      doWork := .idle } := by
  obtain ⟨items, queue, started, _⟩ := shows
  refine ⟨?_, ?_, ?_, trivial⟩
  · rw [List.length_append, items]
    rfl
  · rw [Tickets.out_give, ← queue, items]
  · intro work other found
    rcases Nat.lt_trichotomy work workQueue.items.length with old | new | beyond
    · rw [List.getElem?_append_left old] at found
      exact started work other found
    · rw [new, List.getElem?_concat_length] at found
      have known := tickets.known
      refine iff_of_false ?_ ?_
      · rw [← Option.some_inj.mp found]
        exact unstarted_of_new item
      · simp only [Tickets.give]
        omega
    · rw [List.getElem?_eq_none (by simp; omega)] at found
      cases found

private theorem shows_set {tickets : Tickets} {workQueue : WorkQueue}
    (shows : Shows tickets workQueue)
    {work : Nat} {before item : QueuedItem} (present : workQueue.items[work]? = some before)
    (same : item.base.started = before.base.started) :
    Shows tickets { workQueue with items := workQueue.items.set work item } := by
  obtain ⟨items, queue, started, doWork⟩ := shows
  refine ⟨?_, queue, ?_, doWork⟩
  · rw [List.length_set, items]
  · intro index other found
    by_cases equal : work = index
    · subst equal
      rw [List.getElem?_set_self (List.getElem?_eq_some_iff.mp present).1] at found
      rw [← Option.some_inj.mp found, same]
      exact started work before present
    · rw [List.getElem?_set_ne equal] at found
      exact started index other found

private theorem started_start (environment : Environment) (item : QueuedItem) :
    (item.handle .start environment).base.started = true :=
  (item.kind.proceeds_handle .start environment item.state).started.mpr (.inl rfl)

private theorem shows_start {tickets : Tickets} {workQueue : WorkQueue}
    (shows : Shows tickets workQueue)
    (free : tickets.called = tickets.back) (waiting : tickets.back < tickets.given)
    (environment : Environment) : Shows (tickets.call free waiting) { workQueue with
      items := workQueue.items.modify tickets.back (QueuedItem.handle .start environment)
      doWork := .running tickets.back } := by
  obtain ⟨items, queue, started, _⟩ := shows
  refine ⟨?_, queue, ?_, rfl, waiting, congrArg Nat.succ free⟩
  · rw [List.length_modify, items]
    rfl
  · intro work item found
    rw [List.getElem?_modify] at found
    obtain ⟨before, present, same⟩ := Option.map_eq_some_iff.mp found
    simp only [Tickets.call]
    split at same
    next own =>
      refine iff_of_true ?_ (by omega)
      rw [← same]
      exact started_start environment before
    next other =>
      rw [← same]
      refine (started work before present).trans ?_
      have elsewhere : work ≠ tickets.back := fun equal => other equal.symm
      omega

/-- Whatever happens, the queue goes on like tickets. -/
private theorem step_shows {taken : Step} (legal : machine.Legal taken) {tickets : Tickets}
    (shows : Shows tickets taken.before) :
    ∃ next, Shows next taken.after ∧ Moves tickets next taken.outputs := by
  obtain ⟨before, action, after, outputs⟩ := taken
  have looks := shows.doWork
  have step : machine.step before action = some (after, outputs) := legal
  cases stepped step with
  | @pushBack item idle =>
    refine ⟨tickets.give, ?_, ?_, ?_⟩
    · have pushed := shows_pushBack shows item
      rw [← idle] at pushed
      exact pushed
    · rw [shows.items]
      exact List.range_succ
    · exact (List.append_nil _).symm
  | empty => exact ⟨tickets, shows, .still tickets⟩
  | getFront idle waiting =>
    have split := shows.queue.symm.trans waiting
    exact ⟨tickets, ⟨shows.items, shows.queue, shows.started, Tickets.out_cons split⟩,
      .still tickets⟩
  | @hasStarted work item got present =>
    rw [got] at looks
    obtain ⟨next, inside⟩ := looks
    refine ⟨tickets, ⟨shows.items, shows.queue, shows.started, ?_⟩, .still tickets⟩
    have flag := shows.started work item present
    have single := tickets.single
    have behind := tickets.behind
    split
    next yes =>
      have called := flag.mp yes
      exact ⟨next, inside, by omega⟩
    next no =>
      have uncalled := mt flag.mpr no
      exact ⟨next, inside, by omega⟩
  | @start environment work unstarted =>
    rw [unstarted] at looks
    obtain ⟨rfl, inside, free⟩ := looks
    refine ⟨tickets.call free inside, shows_start shows free inside environment, ?_, ?_⟩
    · exact (List.append_nil _).symm
    · have first : [tickets.back] = [tickets.called] := by rw [free]
      exact List.range_succ.trans (congrArg _ first.symm)
  | @isDone work item running present =>
    rw [running] at looks
    obtain ⟨rfl, inside, busy⟩ := looks
    split
    · refine ⟨tickets.handBack busy, ⟨shows.items, ?_, shows.started, trivial⟩, ?_, ?_⟩
      · rw [shows.queue, tickets.out_handBack busy]
        rfl
      · exact (List.append_nil _).symm
      · exact (List.append_nil _).symm
    · exact ⟨tickets, ⟨shows.items, shows.queue, shows.started, trivial⟩, .still tickets⟩
  | change present same => exact ⟨tickets, shows_set shows present same, .still tickets⟩

private theorem run_shows {log : List Step} {last : WorkQueue} (run : machine.Run {} log last) :
    ∃ tickets, Shows tickets last ∧ pushed log = List.range tickets.given ∧
      started log = List.range tickets.called := by
  induction run with
  | nil => exact ⟨.start, ⟨rfl, rfl, fun _ _ found => (nomatch found), trivial⟩, rfl, rfl⟩
  | @snoc log taken run legal ih =>
    obtain ⟨tickets, shows, given, called⟩ := ih
    obtain ⟨next, after, moves⟩ := step_shows legal shows
    refine ⟨next, after, ?_, ?_⟩
    · rw [moves.given, ← given]
      simp [pushed]
    · rw [moves.called, ← called]
      simp [started]

private theorem done_of_leaves {taken : Step} (legal : machine.Legal taken) {tickets : Tickets}
    (shows : Shows tickets taken.before) {work : Nat} (waits : work ∈ taken.before.queue)
    (leaves : work ∉ taken.after.queue) : taken.before.Done work := by
  obtain ⟨before, action, after, outputs⟩ := taken
  have looks := shows.doWork
  have step : machine.step before action = some (after, outputs) := legal
  cases stepped step with
  | pushBack => exact absurd (List.mem_append_left _ waits) leaves
  | empty | getFront | hasStarted | start | change => exact absurd waits leaves
  | @isDone front item running present =>
    rw [running] at looks
    obtain ⟨rfl, inside, busy⟩ := looks
    simp only at leaves
    split at leaves
    next done =>
      rw [shows.queue, tickets.out_handBack busy] at waits leaves
      rcases List.mem_cons.mp waits with rfl | later
      · exact ⟨item, present, done⟩
      · exact absurd later leaves
    · exact absurd waits leaves

theorem Shows.alone {tickets : Tickets} {workQueue : WorkQueue} (shows : Shows tickets workQueue)
    {one other : Nat} (first : one ∈ workQueue.queue) (second : other ∈ workQueue.queue)
    (busy : workQueue.Busy one) (also : workQueue.Busy other) : one = other := by
  obtain ⟨item, present, begun, _⟩ := busy
  obtain ⟨more, there, later, _⟩ := also
  rw [shows.queue] at first second
  exact Tickets.called_unique first second ((shows.started _ _ present).mp begun)
    ((shows.started _ _ there).mp later)

/-- In every run of a queue: items are started in the order in which they were pushed and none of
them twice, no two items in the queue are started and not done, and items leave it only when they
are done. -/
theorem queue_discipline {log : List Step} {last : WorkQueue} (run : machine.Run {} log last) :
    (started log <+: pushed log ∧ (pushed log).Nodup ∧ (started log).Nodup) ∧
      (last.queue.Nodup ∧ ∀ one ∈ last.queue, ∀ other ∈ last.queue,
        last.Busy one → last.Busy other → one = other) ∧
      ∀ taken ∈ log, ∀ work ∈ taken.before.queue, work ∉ taken.after.queue →
        taken.before.Done work := by
  obtain ⟨tickets, shows, given, called⟩ := run_shows run
  refine ⟨⟨?_, ?_, ?_⟩, ⟨?_, ?_⟩, ?_⟩
  · rw [given, called]
    rw [← Nat.min_eq_left tickets.known, ← List.take_range]
    exact List.take_prefix _ _
  · rw [given]
    exact List.nodup_range
  · rw [called]
    exact List.nodup_range
  · rw [shows.queue]
    exact tickets.nodup_out
  · intro one first other second busy also
    exact shows.alone first second busy also
  · intro taken member work waits leaves
    obtain ⟨earlier, later, split⟩ := List.append_of_mem member
    obtain ⟨before, legal, _⟩ := run.at split
    obtain ⟨_, shown, _⟩ := run_shows before
    exact done_of_leaves legal shown waits leaves

/-- Two commands. The first cannot be sent and is done as soon as it is started, the second is
acknowledged after `do_work` has looked at it. -/
theorem queue_discipline_two_commands :
    let item : NewItem := {
      kind := .commandSend
      state := SendWorkItem.create ⟨⟨255, 190⟩, ⟨1, 1⟩⟩ ⟨400, 0, 0, 0, 0, 0, 0, 0, 0⟩ true
      created := ⟨_, _, _, rfl⟩ }
    let acknowledged : QueuedItem := {
      kind := .commandSend
      state := { item.state with done := true, started := true, callback := false } }
    let log := machine.log {} [.pushBack item, .pushBack item, .getFront, .hasStarted,
      .start ⟨false, 16⟩, .isDone, .getFront, .hasStarted, .start ⟨true, 32⟩, .isDone,
      .change 1 acknowledged, .getFront, .hasStarted, .isDone]
    log.length = 14 ∧ (started log <+: pushed log ∧ (pushed log).Nodup ∧ (started log).Nodup) ∧
      ∀ taken ∈ log, ∀ work ∈ taken.before.queue, work ∉ taken.after.queue →
        taken.before.Done work := by
  intro item acknowledged log
  obtain ⟨last, run⟩ := machine.run_log {} [.pushBack item, .pushBack item, .getFront, .hasStarted,
    .start ⟨false, 16⟩, .isDone, .getFront, .hasStarted, .start ⟨true, 32⟩, .isDone,
    .change 1 acknowledged, .getFront, .hasStarted, .isDone] (by decide)
  have discipline := queue_discipline run
  exact ⟨by decide, discipline.1, discipline.2.2⟩

end WorkQueue
end PilotingMavsdk
