import PilotingMavsdk.Proofs.PluginSession
import PilotingMavsdk.UserCallbackQueue

/-! What becomes of a call's completion. On the ground station each call is open or has been
answered, and an answer joins the queue of user callbacks unless that is full; on the vehicle the
call finds no transfer that it could use, and only warns. A session hands over in one step, while
the code puts a callback in some time after it has asked for the size. -/

namespace PilotingMavsdk
open Library

namespace UserCallbacks
variable {Caller Func : Type} [DecidableEq Caller]

/-- `call_user_callback_located` in its two halves. At its limit the queue is left as it is, and
nobody is warned; otherwise, whatever others do in the meantime, this callback is what the second
half puts at the end of the queue. -/
structure Accepts (callbacks : UserCallbacks Caller Func) (caller : Caller) (filename : String)
    (linenumber : Int) (func : Func) : Prop where
  full : callbacks.userCallbackQueue.size = userCallbackLimit →
    callbacks.sizeCheck caller filename linenumber func = (callbacks, [])
  room : callbacks.userCallbackQueue.size ≠ userCallbackLimit → ∀ log last,
    machine.Run (callbacks.sizeCheck caller filename linenumber func).1 log last →
    (∀ taken ∈ log, taken.action ≠ .enqueue caller) → ∃ callback after,
      callback.func = func ∧ machine.step last (.enqueue caller) = some (after, []) ∧
        after.userCallbackQueue.queue = last.userCallbackQueue.queue ++ [callback]

private theorem find?_eraseP_of_apart {α : Type} {wanted erased : α → Bool}
    (apart : ∀ element, erased element = true → wanted element = false) (elements : List α) :
    (elements.eraseP erased).find? wanted = elements.find? wanted := by
  rcases List.exists_or_eq_self_of_eraseP erased elements with
    same | ⟨element, before, after, _, gone, whole, rest⟩
  · rw [same]
  · have other : ¬wanted element = true := by simp [apart element gone]
    rw [rest, whole, List.find?_append, List.find?_append, List.find?_cons_of_neg other]

def Pending (caller : Caller) (callback : UserCallback Func)
    (callbacks : UserCallbacks Caller Func) : Prop :=
  callbacks.calls.find? (isCallOf caller) = some (caller, callback)

private theorem pending_step {caller : Caller} {callback : UserCallback Func}
    {taken : Taken (UserCallbacks Caller Func) (UserCallbackStep Caller Func) QueueWarning}
    (legal : machine.Legal taken) (others : taken.action ≠ .enqueue caller)
    (pending : taken.before.Pending caller callback) : taken.after.Pending caller callback := by
  obtain ⟨before, step, after, warned⟩ := taken
  have stepped : machine.step before step = some (after, warned) := legal
  simp only [Pending] at others pending ⊢
  cases step with
  | sizeCheck other filename linenumber func =>
    simp only [machine] at stepped
    split at stepped
    · cases stepped
    · have checked : (before.sizeCheck other filename linenumber func).1 = after :=
        congrArg Prod.fst (Option.some.inj stepped)
      rw [← checked, sizeCheck]
      split
      · exact pending
      · rw [List.find?_append, pending, Option.some_or]
  | enqueue other =>
    obtain ⟨rest, enqueued, same⟩ := Option.map_eq_some_iff.mp stepped
    cases same
    have different : caller ≠ other := fun equal => others (by rw [equal])
    unfold enqueue at enqueued
    split at enqueued
    · cases enqueued
    · cases enqueued
      rw [← pending]
      apply find?_eraseP_of_apart
      intro waiting own
      simp only [isCallOf, decide_eq_true_eq] at own
      simpa [isCallOf, own] using different.symm
  | dequeue =>
    obtain ⟨⟨item, rest⟩, dequeued, same⟩ := Option.map_eq_some_iff.mp stepped
    cases same
    exact pending
  | stop =>
    cases stepped
    exact pending

theorem accepts {callbacks : UserCallbacks Caller Func} {caller : Caller}
    (idle : callbacks.calls.any (isCallOf caller) = false) (filename : String) (linenumber : Int)
    (func : Func) : callbacks.Accepts caller filename linenumber func := by
  constructor
  · intro full
    exact if_pos full
  · intro room log last run others
    let callback : UserCallback Func :=
      if callbacks.callbackDebugging then { func, filename, linenumber } else { func }
    have checked : callbacks.sizeCheck caller filename linenumber func =
        ({ callbacks with calls := callbacks.calls ++ [(caller, callback)] },
          warnings callbacks.userCallbackQueue.size) := if_neg room
    have none : callbacks.calls.find? (isCallOf caller) = none := by
      rw [List.find?_eq_none]
      simpa using idle
    have first : (callbacks.sizeCheck caller filename linenumber func).1.Pending caller
        callback := by
      rw [checked, Pending, List.find?_append, none, Option.none_or]
      exact List.find?_cons_of_pos (decide_eq_true rfl)
    have waits : last.Pending caller callback :=
      (run.guarded (fun _ legal other => pending_step legal other) others first).1
    refine ⟨callback, { last with
      userCallbackQueue := last.userCallbackQueue.enqueue callback
      calls := last.calls.eraseP (isCallOf caller) }, ?_, ?_, rfl⟩
    · simp only [callback]
      split <;> rfl
    · unfold Pending at waits
      simp only [machine, enqueue, waits, Option.map_some]

end UserCallbacks

namespace PluginSession
variable {request : PluginRequest} {usageType : UsageType} {sender : Sender} {waiting : Nat}

/-- `call_user_callback` with one report: the queue takes it, unless it is at its limit. -/
structure HandsOver (before after : PluginSession request) (call : Nat)
    (report : request.UserReport) (outputs : List (SessionOutput request.UserReport)) :
    Prop where
  enqueued : before.userCallbacks.length ≠ userCallbackLimit →
    outputs = [.enqueued call report] ∧
      after.userCallbacks = before.userCallbacks ++ [some (call, report)]
  dropped : before.userCallbacks.length = userCallbackLimit →
    outputs = [.dropped call report] ∧ after.userCallbacks = before.userCallbacks

theorem handsOver_handOver {before session : PluginSession request} (call : Nat)
    (report : request.UserReport) (same : session.userCallbacks = before.userCallbacks) :
    before.HandsOver (session.handOver call [report]).1 call report
      (session.handOver call [report]).2 := by
  constructor
  · intro space
    simp [handOver, callUserCallback, same, space]
  · intro full
    simp [handOver, callUserCallback, same, full]

theorem HandsOver.unique {before after : PluginSession request} {call : Nat}
    {report other : request.UserReport} {outputs : List (SessionOutput request.UserReport)}
    (handed : before.HandsOver after call report outputs)
    (instead : before.HandsOver after call other outputs) : report = other := by
  by_cases full : before.userCallbacks.length = userCallbackLimit
  · have first := (handed.dropped full).1
    rw [(instead.dropped full).1] at first
    cases first
    rfl
  · have first := (handed.enqueued full).1
    rw [(instead.enqueued full).1] at first
    cases first
    rfl

/-- What the queue takes for a call. -/
def enqueued (call : Nat) (outputs : List (SessionOutput request.UserReport)) :
    List request.UserReport :=
  reportsTo call (outputs.filterMap SessionOutput.taken)

theorem enqueued_append (call : Nat) (first second : List (SessionOutput request.UserReport)) :
    enqueued call (first ++ second) = enqueued call first ++ enqueued call second := by
  simp [enqueued, reportsTo_append]

theorem enqueued_of_silent {call : Nat} {outputs : List (SessionOutput request.UserReport)}
    (silent : reportsTo call (outputs.filterMap SessionOutput.handed) = []) :
    enqueued call outputs = [] := by
  apply List.eq_nil_iff_forall_not_mem.mpr
  intro report member
  have handed := mem_reportsTo.mpr (handed_of_taken (mem_reportsTo.mp member))
  rw [silent] at handed
  cases handed

theorem HandsOver.enqueued_eq {before after : PluginSession request} {call : Nat}
    {report : request.UserReport} {outputs : List (SessionOutput request.UserReport)}
    (handed : before.HandsOver after call report outputs) :
    PluginSession.enqueued call outputs =
      if before.userCallbacks.length = userCallbackLimit then [] else [report] := by
  split
  next full =>
    rw [(handed.dropped full).1]
    rfl
  next space =>
    have taken : ([.enqueued call report] : List (SessionOutput request.UserReport)).filterMap
        SessionOutput.taken = [report].map fun told => (call, told) := rfl
    rw [(handed.enqueued space).1, PluginSession.enqueued, taken, reportsTo_owner, if_pos rfl]

theorem handsOver_step {taken : Step request} (legal : (machine request).Legal taken)
    (sound : taken.before.Sound) {call : Nat} {report : request.UserReport}
    (handed : (call, report) ∈ taken.outputs.filterMap SessionOutput.handed)
    (final : request.terminal report = true) :
    taken.before.HandsOver taken.after call report taken.outputs := by
  have origin := handedBy_step legal handed
  obtain ⟨before, action, after, outputs⟩ := taken
  simp only at origin sound ⊢
  cases origin with
  | check alive own busy other queue => exact handsOver_handOver call report queue
  | @item number event life next effects raw found lived told converted other queue =>
    have awaited := sound.awaited call life (List.mem_of_getElem? found)
    have reports := (Kind.reportsEnd_step lived awaited).2
    rw [← converted, request.terminal_convert] at final
    have single : effects.filterMap Effect.reported = [raw] := (reports.alone told final).2.2
    rw [single, List.map_singleton, converted]
    exact handsOver_handOver call report queue

/-- No call has come past the cast of the transfer, and who has been turned away there has been
warned. -/
structure TurnedAway (session : PluginSession request)
    (outputs : List (SessionOutput request.UserReport)) : Prop where
  items : session.items = []
  last : session.last = none
  calls : ∀ call state, session.calls[call]? = some state → state = .checked ∨
    (state = .returned ∧ .warned call ∈ outputs)
  silent : outputs.filterMap SessionOutput.handed = []

private theorem turnedAway_step {taken : Step request} (legal : (machine request).Legal taken)
    {outputs : List (SessionOutput request.UserReport)}
    (vehicle : taken.before.usageType = .roboticVehicle)
    (away : taken.before.TurnedAway outputs) :
    taken.after.TurnedAway (outputs ++ taken.outputs) := by
  obtain ⟨before, action, after, new⟩ := taken
  have step := stepped legal
  simp only at step vehicle away ⊢
  cases step with
  | busy free alive =>
    rw [lastAlive, away.last] at alive
    cases alive
  | checked =>
    rw [List.append_nil]
    refine ⟨away.items, away.last, ?_, away.silent⟩
    intro call state found
    rw [getElem?_append_call] at found
    split at found
    · cases found
      exact .inl rfl
    · exact away.calls call state found
  | pushed checked castable =>
    rw [vehicle] at castable
    cases castable
  | @warned owner arguments checked uncastable =>
    refine ⟨away.items, away.last, ?_, ?_⟩
    · intro call state found
      rw [getElem?_set_call checked] at found
      split at found
      next same =>
        cases found
        exact .inr ⟨rfl, by simp [same]⟩
      · rcases away.calls call state found with checked | ⟨returned, told⟩
        · exact .inl checked
        · exact .inr ⟨returned, List.mem_append_left _ told⟩
    · rw [List.filterMap_append, away.silent]
      rfl
  | @assigned call item queued =>
    rcases away.calls call _ queued with checked | ⟨returned, _⟩
    · cases checked
    · cases returned
  | item found =>
    rw [away.items] at found
    cases found
  | otherCallback =>
    rw [List.append_nil]
    constructor
    · rw [callUserCallback_items]
      exact away.items
    · rw [callUserCallback_last]
      exact away.last
    · rw [callUserCallback_calls]
      exact away.calls
    · exact away.silent
  | otherRun =>
    rw [List.append_nil]
    exact ⟨away.items, away.last, away.calls, away.silent⟩
  | run =>
    refine ⟨away.items, away.last, ?_, ?_⟩
    · intro call state found
      rcases away.calls call state found with checked | ⟨returned, told⟩
      · exact .inl checked
      · exact .inr ⟨returned, List.mem_append_left _ told⟩
    · rw [List.filterMap_append, away.silent]
      rfl

private theorem turnedAway_run {log : List (Step request)} {last : PluginSession request}
    (run : (machine request).Run (start request .roboticVehicle sender waiting) log last) :
    last.TurnedAway (log.flatMap Taken.outputs) := by
  induction run with
  | nil => exact ⟨rfl, rfl, nofun, rfl⟩
  | @snoc log taken run legal ih =>
    have here : [taken].flatMap Taken.outputs = taken.outputs := by simp
    rw [List.flatMap_append, here]
    exact turnedAway_step legal (settled_run run 0).2.1 ih

/-- Some step has handed the report over for the call: as `Busy` of the call itself, or as what its
item has reported. -/
def HandedIn (log : List (Step request)) (call : Nat) (report : request.UserReport) : Prop :=
  ∃ taken ∈ log, taken.before.HandedBy call report taken.action taken.after taken.outputs

/-- Where the completion of a call is. -/
inductive Accounted (usageType : UsageType) (session : PluginSession request)
    (log : List (Step request)) (call : Nat) : Prop where
  | creating (checked : session.calls[call]? = some .checked)
      (silent : answers request call (log.flatMap Taken.outputs) = [])
  | owned (castable : usageType = .groundStation) (owns : session.Owns call)
      (silent : answers request call (log.flatMap Taken.outputs) = [])
  | answered (castable : usageType = .groundStation) (report : request.UserReport)
      (final : request.terminal report = true)
      (once : answers request call (log.flatMap Taken.outputs) = [report])
      (told : HandedIn log call report)
  | warned (uncastable : usageType = .roboticVehicle)
      (told : .warned call ∈ log.flatMap Taken.outputs)

private theorem handedIn_of_mem {log : List (Step request)} {first last : PluginSession request}
    (run : (machine request).Run first log last) {call : Nat} {report : request.UserReport}
    (member : report ∈ answers request call (log.flatMap Taken.outputs)) :
    request.terminal report = true ∧ HandedIn log call report := by
  obtain ⟨handed, final⟩ := List.mem_filter.mp member
  refine ⟨final, ?_⟩
  obtain ⟨output, made, told⟩ := List.mem_filterMap.mp (mem_reportsTo.mp handed)
  obtain ⟨taken, inside, here⟩ := List.mem_flatMap.mp made
  exact ⟨taken, inside, handedBy_step (run.legal taken inside)
    (List.mem_filterMap.mpr ⟨output, here, told⟩)⟩

private theorem accounted_run {log : List (Step request)} {last : PluginSession request}
    (run : (machine request).Run (start request usageType sender waiting) log last) {call : Nat}
    (made : call < last.calls.length) : last.Accounted usageType log call := by
  obtain ⟨_, same, settled⟩ := settled_run run call
  cases usageType with
  | groundStation =>
    by_cases opened : last.Open call
    · have silent := settled.pending opened
      rcases opened with outside | checked | owns
      · omega
      · exact .creating checked silent
      · exact .owned rfl owns silent
    · obtain ⟨report, once⟩ := settled.answered same opened
      obtain ⟨final, told⟩ := handedIn_of_mem run (once ▸ List.mem_singleton_self report)
      exact .answered rfl report final once told
  | roboticVehicle =>
    have away := turnedAway_run run
    rcases away.calls call _ (List.getElem?_eq_getElem made) with checked | ⟨_, told⟩
    · have found := List.getElem?_eq_getElem made
      rw [checked] at found
      exact .creating found (settled.pending (.inr (.inl found)))
    · exact .warned rfl told

/-- In every state of a session each call made so far is accounted for, whatever ends one is handed
over as `call_user_callback` does it, and on the vehicle no item is created and nothing is handed
over at all. With other threads between its two halves `call_user_callback` is no different. -/
theorem completions_kept {log : List (Step request)} {last : PluginSession request}
    (run : (machine request).Run (start request usageType sender waiting) log last) :
    (∀ call < last.calls.length, last.Accounted usageType log call) ∧
      (∀ taken ∈ log, ∀ call report,
        (call, report) ∈ taken.outputs.filterMap SessionOutput.handed →
          request.terminal report = true →
            taken.before.HandsOver taken.after call report taken.outputs) ∧
      (usageType = .roboticVehicle → last.items = [] ∧
        (log.flatMap Taken.outputs).filterMap SessionOutput.handed = []) ∧
      ∀ (Caller : Type) [DecidableEq Caller]
        (callbacks : UserCallbacks Caller (Nat × request.UserReport)) (caller : Caller),
        callbacks.calls.any (UserCallbacks.isCallOf caller) = false →
          ∀ filename linenumber handed,
            callbacks.Accepts caller filename linenumber handed := by
  have sound (taken : Step request) (legal : (machine request).Legal taken)
      (before : taken.before.Sound) : taken.after.Sound := sound_step legal before
  have sounds := run.invariant sound sound_start
  refine ⟨fun call made => accounted_run run made, ?_, ?_,
    fun _ _ _ _ idle _ _ _ => UserCallbacks.accepts idle _ _ _⟩
  · intro taken member call report handed final
    exact handsOver_step (run.legal taken member) (sounds.2 taken member).1 handed final
  · rintro rfl
    have away := turnedAway_run run
    exact ⟨away.items, away.silent⟩

/-- On the vehicle a call ends without an item and without a callback, and on the ground station
the callback of a command that is cancelled while a hundred others wait is dropped. -/
theorem completions_lost :
    let command : CommandBase.CommandLong := { command := 400 }
    let call : List (SessionAction CommandBase.CommandLong) := [.check, .pushBack 0 command]
    let vehicle := start CommandImpl.sendCommandAsync .roboticVehicle ⟨⟨1, 1⟩, ⟨245, 190⟩⟩ 0
    let refused := (machine CommandImpl.sendCommandAsync).log vehicle call
    let unheard := (machine CommandImpl.sendCommandAsync).last vehicle call
    let cancelled := call ++ [.assign 0, .item 0 (.call .start ⟨true, 1⟩),
      .item 0 (.call .cancel ⟨true, 2⟩)]
    let station := start CommandImpl.sendCommandAsync .groundStation ⟨⟨245, 190⟩, ⟨1, 1⟩⟩ 100
    let overflown := (machine CommandImpl.sendCommandAsync).log station cancelled
    (refused.length = 2 ∧ unheard.calls = [CallState.returned] ∧ unheard.items.length = 0 ∧
        unheard.userCallbacks.length = 0) ∧
      (overflown.length = 5 ∧
        overflown.map (fun taken => (taken.outputs.filterMap SessionOutput.handed).length) =
          [0, 0, 0, 0, 1] ∧
        ((overflown.flatMap Taken.outputs).filterMap SessionOutput.taken).length = 0) := by
  decide

/-- An overlapping command is answered `Busy` while the first goes on. -/
theorem completions_kept_busy :
    let command : CommandBase.CommandLong := { command := 400 }
    let station := start CommandImpl.sendCommandAsync .groundStation ⟨⟨245, 190⟩, ⟨1, 1⟩⟩ 3
    let actions : List (SessionAction CommandBase.CommandLong) := [.check, .pushBack 0 command,
      .assign 0, .item 0 (.call .start ⟨true, 1⟩), .check]
    let log := (machine CommandImpl.sendCommandAsync).log station actions
    let last := (machine CommandImpl.sendCommandAsync).last station actions
    log.length = 5 ∧ last.calls.length = 2 ∧
      (∀ call < last.calls.length,
        last.Accounted .groundStation log call) ∧
      ∀ taken ∈ log, ∀ call report,
        (call, report) ∈ taken.outputs.filterMap SessionOutput.handed →
          CommandImpl.sendCommandAsync.terminal report = true →
            taken.before.HandsOver taken.after call report taken.outputs := by
  intro command station actions log last
  have run := (machine CommandImpl.sendCommandAsync).run_last station actions (by decide)
  have kept := completions_kept run
  exact ⟨by decide, by decide, kept.1, kept.2.1⟩

end PluginSession
end PilotingMavsdk
