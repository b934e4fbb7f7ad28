import PilotingMavsdk.Proofs.RunOnce
import PilotingMavsdk.Proofs.StalePositions
import PilotingMavsdk.TimerMap

/-! `run_once` fires exactly the right timers. It refines the firing of any expired timers of a
table without an order: the iterator never passes one that has expired. -/

namespace PilotingMavsdk
open Library

namespace TimerThreads

/-- A timer whose duration is negative has expired. -/
def Overdue (threads : TimerThreads) : Prop :=
  ∀ timeout ∈ threads.handler.timeouts, timeout.milliseconds < 0 → timeout.time < threads.clock

private theorem overdue_step {taken : Taken TimerThreads TimerAction Nat}
    (legal : machine.Legal taken) (overdue : Overdue taken.before) : Overdue taken.after := by
  obtain ⟨before, action, after, started⟩ := taken
  intro timeout member negative
  cases stepped legal with
  | @add milliseconds cookie fresh =>
    rcases List.mem_append.mp member with member | member
    · exact overdue timeout member negative
    · rw [List.mem_singleton.mp member] at negative ⊢
      simp only [steadyTimeInFuture] at negative ⊢
      omega
  | @refresh cookie =>
    obtain ⟨old, inside, _, _, duration, time⟩ := TimeoutHandler.mem_refresh member
    rw [duration] at negative
    have elapsed := overdue old inside negative
    simp only [steadyTimeInFuture] at time elapsed ⊢
    split at time <;> omega
  | remove => exact overdue timeout (TimeoutHandler.mem_remove.mp member).1 negative
  | @tick nanoseconds =>
    have elapsed := overdue timeout member negative
    simp only at elapsed ⊢
    omega
  | select => exact overdue timeout (TimeoutHandler.mem_remove.mp member).1 negative
  | finish => exact overdue timeout member negative
  | startCallback => exact overdue timeout member negative

/-- Times are only set relative to a clock that does not go back. -/
theorem overdue_run {last : TimerThreads} {log : List (Taken TimerThreads TimerAction Nat)}
    (run : machine.Run {} log last) : Overdue last :=
  (run.invariant (fun _ => overdue_step) nofun).1

end TimerThreads

namespace TimerMap
variable {Callback : Type}

@[simp] private theorem set_self (map : TimerMap Callback) (cookie : Cookie)
    (timer : Option (Timeout (Option Callback))) :
    (map.set cookie timer).timers cookie = timer := by
  simp only [set, Function.update_self]

private theorem set_other (map : TimerMap Callback) {cookie other : Cookie}
    (different : other ≠ cookie) (timer : Option (Timeout (Option Callback))) :
    (map.set cookie timer).timers other = map.timers other := by
  simp only [set, Function.update_of_ne different]

private theorem set_cases {map : TimerMap Callback} {cookie other : Cookie}
    {timer : Option (Timeout (Option Callback))} {timeout : Timeout (Option Callback)}
    (found : (map.set cookie timer).timers other = some timeout) :
    (other = cookie ∧ timer = some timeout) ∨
      (other ≠ cookie ∧ map.timers other = some timeout) := by
  by_cases same : other = cookie
  · rw [same, set_self] at found
    exact .inl ⟨same, found⟩
  · rw [set_other map same] at found
    exact .inr ⟨same, found⟩

private theorem of_set_none {map : TimerMap Callback} {cookie other : Cookie}
    {timeout : Timeout (Option Callback)}
    (found : (map.set cookie none).timers other = some timeout) :
    other ≠ cookie ∧ map.timers other = some timeout := by
  rcases set_cases found with ⟨_, gone⟩ | kept
  · cases gone
  · exact kept

private theorem apply_cases {map : TimerMap Callback} {operation : DuringCallback Callback}
    {cookie : Cookie} {timeout : Timeout (Option Callback)}
    (found : (map.apply operation).timers cookie = some timeout) :
    (operation ≠ .remove cookie ∧ map.timers cookie = some timeout) ∨
    (∃ callback milliseconds, operation = .add callback milliseconds cookie ∧
      timeout = ⟨cookie, callback, steadyTimeInFuture map.clock (milliseconds : Nat),
        milliseconds⟩) ∨
    (operation = .refresh cookie ∧ ∃ old, map.timers cookie = some old ∧
      timeout = { old with time := steadyTimeInFuture map.clock old.milliseconds }) := by
  cases operation with
  | tick nanoseconds | swap place =>
    refine .inl ⟨?_, found⟩
    intro same
    cases same
  | add callback milliseconds added =>
    have keeps : DuringCallback.add callback milliseconds added ≠ .remove cookie := by
      intro same
      cases same
    rw [apply] at found
    split at found
    · exact .inl ⟨keeps, found⟩
    · rcases set_cases found with ⟨rfl, new⟩ | ⟨_, old⟩
      · exact .inr (.inl ⟨callback, milliseconds, rfl, (Option.some_inj.mp new).symm⟩)
      · exact .inl ⟨keeps, old⟩
  | refresh refreshed =>
    rcases set_cases found with ⟨rfl, new⟩ | ⟨_, old⟩
    · obtain ⟨old, present, rfl⟩ := Option.map_eq_some_iff.mp new
      exact .inr (.inr ⟨rfl, old, present, rfl⟩)
    · refine .inl ⟨?_, old⟩
      intro same
      cases same
  | remove removed =>
    obtain ⟨different, old⟩ := of_set_none found
    refine .inl ⟨?_, old⟩
    intro same
    cases same
    exact different rfl

private theorem apply_keeps {map : TimerMap Callback} {cookie : Cookie}
    {timeout : Timeout (Option Callback)} (found : map.timers cookie = some timeout)
    (operation : DuringCallback Callback) :
    (map.apply operation).timers cookie = some timeout ∨
      operation = .remove cookie ∨ operation = .refresh cookie := by
  cases operation with
  | tick nanoseconds => exact .inl found
  | swap place => exact .inl found
  | add callback milliseconds added =>
    left
    rw [apply]
    split
    · exact found
    next absent =>
      have different : cookie ≠ added := by
        rintro rfl
        exact absent (by simp [found])
      rw [set_other map different]
      exact found
  | refresh refreshed =>
    by_cases same : cookie = refreshed
    · exact .inr (.inr (by rw [same]))
    · exact .inl (by rw [apply, set_other map same]; exact found)
  | remove removed =>
    by_cases same : cookie = removed
    · exact .inr (.inl (by rw [same]))
    · exact .inl (by rw [apply, set_other map same]; exact found)

private theorem clock_apply (map : TimerMap Callback) (operation : DuringCallback Callback) :
    map.clock ≤ (map.apply operation).clock := by
  cases operation with
  | tick nanoseconds =>
    simp only [apply]
    omega
  | add callback milliseconds cookie =>
    rw [apply]
    split
    · exact Int.le_refl _
    · exact Int.le_refl _
  | refresh | remove | swap => exact Int.le_refl _

/-- What holds of the table from the start of `run_once` on. A negative duration has elapsed, or
lies as far back as it says. -/
structure Timely (map : TimerMap Callback) (now : Int) : Prop where
  named : ∀ cookie timeout, map.timers cookie = some timeout → timeout.cookie = cookie
  clock : now ≤ map.clock
  overdue : ∀ cookie timeout, map.timers cookie = some timeout → timeout.milliseconds < 0 →
    timeout.time < now ∨ timeout.time ≤ steadyTimeInFuture map.clock timeout.milliseconds

theorem Timely.remove {map : TimerMap Callback} {now : Int} (timely : map.Timely now)
    (cookie : Cookie) : (map.set cookie none).Timely now := by
  refine ⟨?_, timely.clock, ?_⟩
  · intro other timeout found
    exact timely.named other timeout (of_set_none found).2
  · intro other timeout found
    exact timely.overdue other timeout (of_set_none found).2

theorem Timely.apply {map : TimerMap Callback} {now : Int} (timely : map.Timely now)
    (operation : DuringCallback Callback) : (map.apply operation).Timely now := by
  have onward := clock_apply map operation
  refine ⟨?_, Int.le_trans timely.clock onward, ?_⟩
  · intro cookie timeout found
    rcases apply_cases found with ⟨-, old⟩ | ⟨_, _, -, rfl⟩ | ⟨-, old, present, rfl⟩
    · exact timely.named cookie timeout old
    · rfl
    · exact timely.named cookie old present
  · intro cookie timeout found negative
    rcases apply_cases found with ⟨-, old⟩ | ⟨_, _, -, rfl⟩ | ⟨-, old, present, rfl⟩
    · have before := timely.overdue cookie timeout old negative
      simp only [steadyTimeInFuture] at before ⊢
      omega
    · simp only at negative
      omega
    · simp only [steadyTimeInFuture] at negative ⊢
      omega

private theorem Timely.expired_before {map : TimerMap Callback} {now : Int}
    (timely : map.Timely now)
    {operation : DuringCallback Callback} {cookie : Cookie} {timeout : Timeout (Option Callback)}
    (found : (map.apply operation).timers cookie = some timeout) (expired : timeout.time < now) :
    operation ≠ .remove cookie ∧ ∃ old, map.timers cookie = some old ∧ old.time < now ∧
      old.callback = timeout.callback := by
  have later := timely.clock
  rcases apply_cases found with ⟨kept, old⟩ | ⟨_, milliseconds, -, rfl⟩ | ⟨rfl, old, present, rfl⟩
  · exact ⟨kept, timeout, old, expired, rfl⟩
  · simp only [steadyTimeInFuture] at expired
    omega
  · refine ⟨?_, old, present, ?_, rfl⟩
    · intro same
      cases same
    simp only [steadyTimeInFuture] at expired
    have negative : old.milliseconds < 0 := by omega
    have before := timely.overdue cookie old present negative
    simp only [steadyTimeInFuture] at before
    omega

theorem Timely.window {map : TimerMap Callback} {now : Int} (timely : map.Timely now)
    (operations : List (DuringCallback Callback)) :
    (operations.foldl TimerMap.apply map).Timely now := by
  induction operations generalizing map with
  | nil => exact timely
  | cons operation operations ih => exact ih (timely.apply operation)

theorem Timely.fire {map : TimerMap Callback} {now : Int} (timely : map.Timely now)
    (fired : Fired Callback) : (map.fire fired).Timely now :=
  (timely.remove fired.timeout.cookie).window fired.window

private theorem Timely.expired_window {map : TimerMap Callback} {now : Int}
    (timely : map.Timely now) {operations : List (DuringCallback Callback)} {cookie : Cookie}
    {timeout : Timeout (Option Callback)}
    (found : (operations.foldl TimerMap.apply map).timers cookie = some timeout)
    (expired : timeout.time < now) :
    .remove cookie ∉ operations ∧ ∃ old, map.timers cookie = some old ∧ old.time < now ∧
      old.callback = timeout.callback := by
  induction operations generalizing map with
  | nil => exact ⟨List.not_mem_nil, timeout, found, expired, rfl⟩
  | cons operation operations ih =>
    obtain ⟨unremoved, middle, present, late, same⟩ := ih (timely.apply operation) found
    obtain ⟨kept, old, before, earlier, equal⟩ := timely.expired_before present late
    refine ⟨?_, old, before, earlier, equal.trans same⟩
    intro removed
    rcases List.mem_cons.mp removed with here | there
    · exact kept here.symm
    · exact unremoved there

private theorem Timely.expired_fire {map : TimerMap Callback} {now : Int} (timely : map.Timely now)
    {fired : Fired Callback} {cookie : Cookie} {timeout : Timeout (Option Callback)}
    (found : (map.fire fired).timers cookie = some timeout) (expired : timeout.time < now) :
    cookie ≠ fired.timeout.cookie ∧ .remove cookie ∉ fired.window ∧
      ∃ old, map.timers cookie = some old ∧ old.time < now ∧
        old.callback = timeout.callback := by
  obtain ⟨unremoved, old, present, late, same⟩ :=
    (timely.remove fired.timeout.cookie).expired_window found expired
  obtain ⟨different, there⟩ := of_set_none present
  exact ⟨different, unremoved, old, there, late, same⟩

private theorem kept_window {map : TimerMap Callback} {cookie : Cookie}
    {timeout : Timeout (Option Callback)} (found : map.timers cookie = some timeout)
    (operations : List (DuringCallback Callback)) :
    (operations.foldl apply map).timers cookie = some timeout ∨
      .remove cookie ∈ operations ∨ .refresh cookie ∈ operations := by
  induction operations generalizing map with
  | nil => exact .inl found
  | cons operation operations ih =>
    rcases apply_keeps found operation with still | rfl | rfl
    · rcases ih still with kept | removed | refreshed
      · exact .inl kept
      · exact .inr (.inl (List.mem_cons_of_mem _ removed))
      · exact .inr (.inr (List.mem_cons_of_mem _ refreshed))
    · exact .inr (.inl List.mem_cons_self)
    · exact .inr (.inr List.mem_cons_self)

theorem Firing.timely {now : Int} {map last : TimerMap Callback} {log : List (Fired Callback)}
    (firing : Firing now map log last) (timely : map.Timely now) : last.Timely now := by
  induction firing with
  | start map => exact timely
  | fires found expired later ih => exact ih (timely.fire _)

private theorem Firing.last_eq {now : Int} {map last : TimerMap Callback}
    {log : List (Fired Callback)}
    (firing : Firing now map log last) : last = log.foldl TimerMap.fire map := by
  induction firing with
  | start map => rfl
  | fires found expired later ih => exact ih

private theorem Firing.once_more {now : Int} {map last : TimerMap Callback}
    {log : List (Fired Callback)} (firing : Firing now map log last) {fired : Fired Callback}
    (found : last.timers fired.timeout.cookie = some fired.timeout)
    (expired : fired.timeout.time < now) : Firing now map (log ++ [fired]) (last.fire fired) := by
  induction firing with
  | start map => exact .fires found expired (.start _)
  | fires present late later ih => exact .fires present late (ih found)

private theorem Timely.fired_later {map : TimerMap Callback} {now : Int} (timely : map.Timely now)
    {fired other : Fired Callback} {log : List (Fired Callback)}
    (rest : FiresExactly (map.fire fired) now log) (member : other ∈ log) :
    fired.timeout.cookie ≠ other.timeout.cookie ∧ .remove other.timeout.cookie ∉ fired.window ∧
      ∃ old, map.timers other.timeout.cookie = some old ∧ old.time < now ∧
        old.callback = other.timeout.callback := by
  obtain ⟨_, middle, present, late, same⟩ := rest.only other member
  obtain ⟨different, unremoved, old, there, early, equal⟩ := timely.expired_fire present late
  exact ⟨different.symm, unremoved, old, there, early, equal.trans same⟩

/-- A timer that has expired is fired first or is still there, up to what the callback does. -/
private theorem fired_or_kept {map : TimerMap Callback} {fired : Fired Callback} {cookie : Cookie}
    {original : Timeout (Option Callback)}
    (found : map.timers fired.timeout.cookie = some fired.timeout)
    (present : map.timers cookie = some original) :
    fired.timeout = original ∨ (map.fire fired).timers cookie = some original ∨
      .remove cookie ∈ fired.window ∨ .refresh cookie ∈ fired.window := by
  by_cases own : cookie = fired.timeout.cookie
  · rw [own, found, Option.some_inj] at present
    exact .inl present
  · rw [← set_other map own none] at present
    exact .inr (kept_window present fired.window)

theorem Firing.exactly {now : Int} {map last : TimerMap Callback} {log : List (Fired Callback)}
    (firing : Firing now map log last) (timely : map.Timely now) (quiet : last.Quiet now) :
    FiresExactly map now log := by
  induction firing with
  | start map =>
    refine ⟨.nil, nofun, .nil, ?_⟩
    intro cookie original found expired
    exact absurd expired (quiet cookie original found)
  | @fires map last fired log found expired later ih =>
    have rest := ih (timely.fire fired) quiet
    refine ⟨?_, ?_, ?_, ?_⟩
    · refine List.pairwise_cons.mpr ⟨?_, rest.once⟩
      intro other member
      exact (timely.fired_later rest member).1
    · intro other member
      rcases List.mem_cons.mp member with rfl | member
      · exact ⟨expired, other.timeout, found, expired, rfl⟩
      · exact ⟨(rest.only other member).1, (timely.fired_later rest member).2.2⟩
    · refine List.pairwise_cons.mpr ⟨?_, rest.kept⟩
      intro other member
      exact (timely.fired_later rest member).2.1
    · intro cookie original present late
      rcases fired_or_kept found present with same | still | touched
      · exact .inl ⟨fired, List.mem_cons_self, same⟩
      · refine (rest.all cookie original still late).imp ?_ ?_
        · intro ⟨other, member, same⟩
          exact ⟨other, List.mem_cons_of_mem _ member, same⟩
        · intro ⟨other, member, touched⟩
          exact ⟨other, List.mem_cons_of_mem _ member, touched⟩
      · exact .inr ⟨fired, List.mem_cons_self, touched⟩

end TimerMap

namespace RunOnceLoop
variable {Callback : Type}

private theorem timers_isSome (loop : RunOnceLoop Callback) (cookie : Cookie) :
    (loop.timerMap.timers cookie).isSome ↔ cookie ∈ loop.cookies := by
  rw [Option.isSome_iff_ne_none, ne_eq]
  exact (not_congr lookup_eq_none_iff).trans not_not

private theorem timerMap_during {loop : RunOnceLoop Callback} (distinct : loop.cookies.Nodup)
    (operation : DuringCallback Callback) :
    (loop.during operation).timerMap = loop.timerMap.apply operation := by
  cases operation with
  | tick nanoseconds => rfl
  | add callback milliseconds cookie =>
    by_cases present : cookie ∈ loop.cookies
    · rw [during, if_pos present, TimerMap.apply, if_pos ((timers_isSome _ _).mpr present)]
    · have absent : ¬(loop.timerMap.timers cookie).isSome := by rwa [timers_isSome]
      rw [during, if_neg present, TimerMap.apply, if_neg absent]
      simp only [timerMap, TimerMap.set]
      congr 1
      exact lookup_append present
  | refresh cookie =>
    simp only [during, TimerMap.apply, timerMap, TimerMap.set]
    congr 1
    exact lookup_change loop.timeouts cookie fun _ => rfl
  | remove cookie =>
    simp only [during, TimerMap.apply, TimerMap.set]
    split
    · simp only [timerMap]
      congr 1
      exact lookup_erase loop.timeouts cookie
    next absent =>
      have missing : loop.timerMap.timers cookie = none := lookup_eq_none_iff.mpr absent
      rw [← missing, Function.update_eq_self]
  | swap place =>
    simp only [during, TimerMap.apply, timerMap]
    congr 1
    exact lookup_perm distinct (swapNeighbours_perm place loop.timeouts)

private theorem timerMap_window {loop : RunOnceLoop Callback} (sane : loop.Sane)
    (operations : List (DuringCallback Callback)) :
    (operations.foldl during loop).timerMap = operations.foldl TimerMap.apply loop.timerMap := by
  induction operations generalizing loop with
  | nil => rfl
  | cons operation operations ih =>
    rw [List.foldl_cons, ih (sane_during sane operation), timerMap_during sane.distinct,
      List.foldl_cons]

private theorem timerMap_fire {loop : RunOnceLoop Callback} (sane : loop.Sane)
    {timeout : Timeout (Option Callback)} (member : timeout ∈ loop.timeouts)
    (operations : List (DuringCallback Callback)) :
    (loop.fire timeout.cookie operations).timerMap =
      loop.timerMap.fire ⟨timeout, operations⟩ := by
  have erased : (loop.erased timeout.cookie).timerMap = loop.timerMap.set timeout.cookie none := by
    simp only [timerMap, TimerMap.set, RunOnceLoop.erased]
    congr 1
    exact lookup_erase loop.timeouts timeout.cookie
  have whole := timerMap_window (sane_erased sane member) operations
  rwa [erased] at whole

private theorem startOver_timerMap (loop : RunOnceLoop Callback) :
    loop.startOver.timerMap = loop.timerMap := by
  rw [timerMap, startOver_timeouts, startOver_clock]
  rfl

private theorem it_window (loop : RunOnceLoop Callback)
    (operations : List (DuringCallback Callback)) :
    (operations.foldl during loop).it = loop.it := by
  induction operations generalizing loop with
  | nil => rfl
  | cons operation operations ih =>
    rw [List.foldl_cons, ih]
    cases operation with
    | tick | refresh | swap => rfl
    | add => simp only [during]; split <;> rfl
    | remove => simp only [during]; split <;> rfl

private theorem flag_window {loop : RunOnceLoop Callback} (set : loop.iteratorInvalidated = true)
    (operations : List (DuringCallback Callback)) :
    (operations.foldl during loop).iteratorInvalidated = true := by
  have before : iteratorFlag.flag loop = true := set
  exact (@DirtyFlag.flag_foldl _ _ iteratorFlag _ operations).mpr (.inl before)

private theorem cookies_during {loop : RunOnceLoop Callback} {operation : DuringCallback Callback}
    (unswapped : ∀ place, operation ≠ .swap place) :
    (loop.during operation).iteratorInvalidated = true ∨
      loop.cookies.Sublist (loop.during operation).cookies := by
  cases operation with
  | tick nanoseconds => exact .inr (.refl _)
  | add callback milliseconds cookie =>
    right
    simp only [during]
    split
    · exact .refl _
    · rw [cookies, cookies, List.map_append]
      exact List.sublist_append_left _ _
  | refresh cookie =>
    have same := cookies_refreshed loop cookie
    exact .inr (same.symm ▸ .refl _)
  | remove cookie =>
    simp only [during]
    split
    · exact .inl rfl
    · exact .inr (.refl _)
  | swap place => exact absurd rfl (unswapped place)

private theorem cookies_window {loop : RunOnceLoop Callback}
    {window : List (DuringCallback Callback)} (unswapped : ∀ place, .swap place ∉ window)
    (unset : (window.foldl during loop).iteratorInvalidated = false) :
    loop.cookies.Sublist (window.foldl during loop).cookies := by
  induction window generalizing loop with
  | nil => exact .refl _
  | cons operation window ih =>
    have rest (place : Nat) : .swap place ∉ window := by
      intro member
      exact unswapped place (List.mem_cons_of_mem _ member)
    have other (place : Nat) : operation ≠ .swap place := by
      rintro rfl
      exact unswapped place List.mem_cons_self
    rcases @cookies_during _ loop _ other with set | sublist
    · rw [List.foldl_cons, flag_window set window] at unset
      cases unset
    · exact sublist.trans (ih rest unset)

/-- New elements at the end leave the order of the others alone. -/
private theorem keepsOrder_unswapped {window : List (DuringCallback Callback)}
    (unswapped : ∀ place, .swap place ∉ window) (loop : RunOnceLoop Callback) :
    loop.KeepsOrder window := by
  intro timeout _ unset
  exact cookies_window unswapped unset

/-- An expired timer has still to come, whatever has been done during the last callback. -/
def NonePassed (loop : RunOnceLoop Callback) : Prop :=
  ∀ timeout ∈ loop.timeouts, timeout.time < loop.now → loop.Ahead timeout

private theorem nonePassed_startOver {loop : RunOnceLoop Callback} (nonePassed : loop.NonePassed) :
    loop.startOver.NonePassed := by
  intro timeout member expired
  rw [startOver_timeouts] at member
  rw [startOver_now] at expired
  exact ahead_startOver (nonePassed timeout member expired)

private theorem nonePassed_fire {loop : RunOnceLoop Callback}
    {window : List (DuringCallback Callback)}
    {timeout : Timeout (Option Callback)} (valid : loop.Valid) (nonePassed : loop.NonePassed)
    (timely : loop.timerMap.Timely loop.now) (member : timeout ∈ loop.timeouts)
    (here : loop.it = some timeout.cookie) (called : loop.calledBack = some timeout)
    (keepsOrder : loop.KeepsOrder window) : (loop.fire timeout.cookie window).NonePassed := by
  obtain ⟨still, same, -⟩ := RunOnceLoop.window (sane_erased valid.sane member) window
  have same : (loop.fire timeout.cookie window).now = loop.now := same
  have distinct : (loop.fire timeout.cookie window).cookies.Nodup := still.distinct
  intro other present expired
  refine ⟨present, expired, ?_⟩
  cases flag : (loop.fire timeout.cookie window).iteratorInvalidated with
  | true => exact .inl rfl
  | false =>
    right
    have found : (loop.fire timeout.cookie window).timerMap.timers other.cookie = some other :=
      (lookup_eq_some_iff distinct).mpr ⟨present, rfl⟩
    rw [timerMap_fire valid.sane member] at found
    rw [same] at expired
    obtain ⟨different, -, old, there, early, -⟩ := timely.expired_fire found expired
    obtain ⟨among, named⟩ := (lookup_eq_some_iff valid.distinct).mp there
    have unlike : old ≠ timeout := by
      rintro rfl
      exact different named.symm
    rcases (nonePassed old among early).ahead with set | ⟨cookie, there, ahead⟩
    · have raised : (loop.fire timeout.cookie window).iteratorInvalidated = true :=
        @flag_window _ (loop.erased timeout.cookie) set window
      rw [raised] at flag
      cases flag
    · rw [here, Option.some_inj] at there
      subst there
      obtain ⟨cookie, further, -, behind⟩ := ahead_next valid.distinct member unlike ahead
      refine ⟨cookie, (it_window _ window).trans further, ?_⟩
      exact behind_of_sublist (keepsOrder timeout called flag) distinct behind present named.symm

private theorem Valid.calledBack_eq {loop : RunOnceLoop Callback} (valid : loop.Valid)
    {timeout : Timeout (Option Callback)} (member : timeout ∈ loop.timeouts)
    (here : loop.it = some timeout.cookie) :
    loop.calledBack = (some timeout).filter fun timeout =>
      timeout.time < loop.now ∧ timeout.callback.isSome := by
  simp only [calledBack, here, valid.found member]

private theorem Valid.calledBack_expired {loop : RunOnceLoop Callback} (valid : loop.Valid)
    {timeout : Timeout (Option Callback)} (member : timeout ∈ loop.timeouts)
    (here : loop.it = some timeout.cookie) (expired : timeout.time < loop.now)
    (filled : timeout.callback ≠ none) : loop.calledBack = some timeout := by
  have given := Option.isSome_iff_ne_none.mpr filled
  rw [valid.calledBack_eq member here]
  simp [expired, given]

private theorem Valid.calledBack_unexpired {loop : RunOnceLoop Callback} (valid : loop.Valid)
    {timeout : Timeout (Option Callback)} (member : timeout ∈ loop.timeouts)
    (here : loop.it = some timeout.cookie) (unexpired : ¬timeout.time < loop.now) :
    loop.calledBack = none := by
  rw [valid.calledBack_eq member here]
  simp [unexpired]

private theorem nonePassed_passes {loop : RunOnceLoop Callback} (valid : loop.Valid)
    (nonePassed : loop.NonePassed) {timeout : Timeout (Option Callback)}
    (member : timeout ∈ loop.timeouts) (here : loop.it = some timeout.cookie)
    (unexpired : ¬timeout.time < loop.now) :
    { loop with it := next timeout.cookie loop.timeouts }.startOver.NonePassed := by
  intro other present expired
  rw [startOver_timeouts] at present
  rw [startOver_now] at expired
  have elsewhere : loop.it ≠ some other.cookie := by
    intro there
    rw [valid.pointed member here present there] at unexpired
    exact unexpired expired
  exact (Round.passes member here unexpired).ahead valid (nonePassed other present expired)
    (.inr elsewhere)

/-- The state after some rounds, in which these timers have been fired. -/
structure Scanned (first : TimerMap Callback) (log : List (Fired Callback))
    (loop : RunOnceLoop Callback) : Prop where
  valid : loop.Valid
  filled : loop.Filled
  nonePassed : loop.NonePassed
  firing : TimerMap.Firing loop.now first log loop.timerMap

private theorem Round.scanned {first : TimerMap Callback} {log : List (Fired Callback)}
    {loop after : RunOnceLoop Callback} {window : List (DuringCallback Callback)}
    (round : loop.Round window after) (scanned : Scanned first log loop)
    (timely : first.Timely loop.now) (keepsOrder : loop.KeepsOrder window) :
    after.now = loop.now ∧
      Scanned first (log ++ (loop.calledBack.map fun timeout => ⟨timeout, window⟩).toList)
        after := by
  have valid := round.valid scanned.valid
  have filled := round.filled scanned.valid scanned.filled
  cases round with
  | ended gone =>
    have uncalled : loop.calledBack = none := by simp only [calledBack, gone]
    rw [uncalled, Option.map_none, Option.toList_none, List.append_nil]
    exact ⟨rfl, scanned⟩
  | @fires timeout member here expired given =>
    have called := scanned.valid.calledBack_expired member here expired given
    have now : (loop.fire timeout.cookie window).startOver.now = loop.now := by
      rw [startOver_now]
      exact (RunOnceLoop.window (sane_erased scanned.valid.sane member) window).2.1
    refine ⟨now, valid, filled, ?_, ?_⟩
    · apply nonePassed_startOver
      exact nonePassed_fire scanned.valid scanned.nonePassed (scanned.firing.timely timely) member
        here called keepsOrder
    · rw [now, startOver_timerMap, timerMap_fire scanned.valid.sane member, called]
      exact scanned.firing.once_more (scanned.valid.found member) expired
  | stays member here expired empty =>
    have unexpired := scanned.filled _ member empty
    rw [← Bool.not_eq_true, mayExpire_iff] at unexpired
    exact absurd (.inl expired) unexpired
  | @passes timeout member here unexpired =>
    have uncalled := scanned.valid.calledBack_unexpired member here unexpired
    have now := startOver_now { loop with it := next timeout.cookie loop.timeouts }
    rw [uncalled, Option.map_none, Option.toList_none, List.append_nil]
    refine ⟨now, valid, filled, ?_, ?_⟩
    · exact nonePassed_passes scanned.valid scanned.nonePassed member here unexpired
    · rw [now, startOver_timerMap]
      exact scanned.firing

section
variable (table : TimeoutMap Callback) (iteratorInvalidated : Bool) (now : Int)
  (windows : Nat → List (DuringCallback Callback))

private theorem timely_begin
    (overdue : ∀ timeout ∈ table.val, timeout.milliseconds < 0 → timeout.time < now) :
    (begin table iteratorInvalidated now).timerMap.Timely now := by
  refine ⟨?_, Int.le_refl now, ?_⟩
  · intro cookie timeout found
    exact ((lookup_eq_some_iff table.property).mp found).2
  · intro cookie timeout found negative
    exact .inl (overdue timeout ((lookup_eq_some_iff table.property).mp found).1 negative)

private theorem scanned_round (filled : ∀ timeout ∈ table.val, timeout.callback ≠ none)
    (overdue : ∀ timeout ∈ table.val, timeout.milliseconds < 0 → timeout.time < now)
    (inOrder : ∀ count, KeepsOrder (windows count)
      (iterate body windows (begin table iteratorInvalidated now) count)) (rounds : Nat) :
    (iterate body windows (begin table iteratorInvalidated now) rounds).now = now ∧
      Scanned (begin table iteratorInvalidated now).timerMap
        (fired windows (begin table iteratorInvalidated now) rounds)
        (iterate body windows (begin table iteratorInvalidated now) rounds) := by
  have timely := timely_begin table iteratorInvalidated now overdue
  induction rounds with
  | zero =>
    refine ⟨rfl, valid_begin table iteratorInvalidated now, ?_, ?_, .start _⟩
    · intro timeout member empty
      exact absurd empty (filled timeout member)
    · intro timeout member expired
      exact ahead_begin table iteratorInvalidated now member expired
  | succ rounds ih =>
    obtain ⟨same, scanned⟩ := ih
    obtain ⟨kept, further⟩ := (scanned.valid.round (windows rounds)).scanned scanned
      (by rwa [same]) (inOrder rounds)
    exact ⟨kept.trans same, further⟩

/-- Callbacks may add timers, and refresh or remove any: `run_once` ends, and then it has fired
exactly the timers that had expired, and the table has changed by this and the callbacks only. Of
tables that the functions of `TimeoutHandler` can make, `overdue` always holds (`overdue_run`). -/
theorem fires_exactly (filled : ∀ timeout ∈ table.val, timeout.callback ≠ none)
    (overdue : ∀ timeout ∈ table.val, timeout.milliseconds < 0 → timeout.time < now)
    (inOrder : ∀ count, KeepsOrder (windows count)
      (iterate body windows (begin table iteratorInvalidated now) count)) :
    (begin table iteratorInvalidated now).Ends windows ∧ ∀ rounds,
      (iterate body windows (begin table iteratorInvalidated now) rounds).it = none →
        FiresExactly (begin table iteratorInvalidated now).timerMap now
          (fired windows (begin table iteratorInvalidated now) rounds) ∧
        (iterate body windows (begin table iteratorInvalidated now) rounds).timerMap =
          (fired windows (begin table iteratorInvalidated now) rounds).foldl TimerMap.fire
            (begin table iteratorInvalidated now).timerMap := by
  constructor
  · apply ends_of_harmless
    intro timeout member empty
    exact absurd empty (filled timeout member)
  · intro rounds ended
    obtain ⟨same, scanned⟩ :=
      scanned_round table iteratorInvalidated now windows filled overdue inOrder rounds
    have firing := scanned.firing
    rw [same] at firing
    refine ⟨?_, firing.last_eq⟩
    apply firing.exactly (timely_begin table iteratorInvalidated now overdue)
    intro cookie timeout found expired
    obtain ⟨member, -⟩ := (lookup_eq_some_iff scanned.valid.distinct).mp found
    rw [← same] at expired
    exact ahead_running scanned.valid (scanned.nonePassed timeout member expired) ended

end

/-- The first callback removes another expired timer and adds one, after an earlier removal has set
the flag. -/
theorem fires_exactly_others :
    let first : RunOnceLoop String := begin
      ⟨[⟨64, some "resend", 0, 500⟩, ⟨72, some "lost", 9, -5⟩, ⟨88, some "poll", 90, 500⟩],
        by decide⟩ true 20
    let windows : Nat → List (DuringCallback String) := fun _ =>
      [.tick 5, .remove 72, .add (some "again") 500 80, .refresh 88]
    first.Ends windows ∧ (iterate body windows first 3).it = none ∧
      (fired windows first 3).map (·.timeout.cookie) = [64] ∧
      FiresExactly first.timerMap 20 (fired windows first 3) ∧
      (iterate body windows first 3).timerMap =
        (fired windows first 3).foldl TimerMap.fire first.timerMap := by
  intro first windows
  have inOrder (count : Nat) := keepsOrder_unswapped
    (show ∀ place, .swap place ∉ windows count by simp [windows]) (iterate body windows first count)
  have ended : (iterate body windows first 3).it = none := by decide
  obtain ⟨ends, exactly⟩ := fires_exactly
    ⟨[⟨64, some "resend", 0, 500⟩, ⟨72, some "lost", 9, -5⟩, ⟨88, some "poll", 90, 500⟩], by decide⟩
    true 20 windows (by decide) (by decide) inOrder
  exact ⟨ends, ended, by decide, exactly 3 ended⟩

end RunOnceLoop
end PilotingMavsdk
