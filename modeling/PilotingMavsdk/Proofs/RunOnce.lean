import Mathlib.Data.List.Nodup
import PilotingMavsdk.TimeoutHandler

/-! Removing and refreshing a timer while `run_once` runs. A timer that is still in the table when
its cookie is passed obeys; one that `run_once` has taken out of it can no longer be reached. -/

namespace PilotingMavsdk
open Library

namespace TimerThreads

/-- What a step does, with the guard of each. -/
inductive Stepped (threads : TimerThreads) : TimerAction → TimerThreads → List Nat → Prop where
  | add {milliseconds : Int} {cookie : Cookie} (fresh : cookie ∉ threads.handler.cookies) :
      Stepped threads (.add milliseconds cookie)
        { threads with
          handler := threads.handler.add threads.nextTimer milliseconds threads.clock cookie
          nextTimer := threads.nextTimer + 1 } []
  | refresh {cookie : Cookie} :
      Stepped threads (.refresh cookie)
        { threads with handler := threads.handler.refresh cookie threads.clock } []
  | remove {cookie : Cookie} :
      Stepped threads (.remove cookie)
        { threads with handler := threads.handler.remove cookie } []
  | tick {nanoseconds : Nat} :
      Stepped threads (.tick nanoseconds) { threads with clock := threads.clock + nanoseconds } []
  | select {timeout : Timeout Nat} {now : Int} (reading : threads.now? = some now)
      (present : timeout ∈ threads.handler.timeouts) (expired : timeout.time < now) :
      Stepped threads (.select timeout.cookie)
        { threads with
          handler := threads.handler.remove timeout.cookie
          runOnce := .selected timeout.callback now } []
  | finish : Stepped threads .finish { threads with runOnce := .outside } []
  | startCallback {timer : Nat} {now : Int} (selected : threads.runOnce = .selected timer now) :
      Stepped threads .startCallback { threads with runOnce := .calling now } [timer]

theorem stepped {threads after : TimerThreads} {action : TimerAction} {started : List Nat}
    (legal : machine.Legal ⟨threads, action, after, started⟩) :
    Stepped threads action after started := by
  simp only [Machine.Legal, machine] at legal
  cases action with
  | add milliseconds cookie =>
    simp only at legal
    split at legal
    next allowed => cases legal; exact .add allowed.2
    · cases legal
  | refresh cookie => cases legal; exact .refresh
  | remove cookie => cases legal; exact .remove
  | tick nanoseconds => cases legal; exact .tick
  | select cookie =>
    simp only at legal
    split at legal
    next now timeout reading found =>
      split at legal
      next expired =>
        cases legal
        have same : timeout.cookie = cookie := by simpa using List.find?_some found
        subst same
        exact .select reading (List.mem_of_find?_eq_some found) expired
      · cases legal
    · cases legal
  | finish =>
    simp only at legal
    split at legal
    · cases legal; exact .finish
    · cases legal
  | startCallback =>
    simp only at legal
    split at legal
    next timer now selected => cases legal; exact .startCallback selected
    · cases legal

/-- Timers are told apart by their numbers, and `run_once` never reads ahead of the clock. -/
structure Sound (threads : TimerThreads) : Prop where
  cookies : threads.handler.cookies.Nodup
  numbers : (threads.handler.timeouts.map Timeout.callback).Nodup
  below : ∀ timeout ∈ threads.handler.timeouts, timeout.callback < threads.nextTimer
  selected : ∀ timer now, threads.runOnce = .selected timer now →
    timer < threads.nextTimer ∧ now ≤ threads.clock ∧
      ∀ timeout ∈ threads.handler.timeouts, timeout.callback ≠ timer
  calling : ∀ now, threads.runOnce = .calling now → now ≤ threads.clock

end TimerThreads

namespace TimeoutHandler
variable {Callback : Type}

theorem mem_remove {cookie : Cookie} {handler : TimeoutHandler Callback}
    {timeout : Timeout Callback} :
    timeout ∈ (handler.remove cookie).timeouts ↔
      timeout ∈ handler.timeouts ∧ timeout.cookie ≠ cookie := by
  simp [remove]

theorem mem_refresh {cookie : Cookie} {now : Int} {handler : TimeoutHandler Callback}
    {timeout : Timeout Callback} (member : timeout ∈ (handler.refresh cookie now).timeouts) :
    ∃ old ∈ handler.timeouts, timeout.cookie = old.cookie ∧ timeout.callback = old.callback ∧
      timeout.milliseconds = old.milliseconds ∧
      timeout.time =
        if old.cookie = cookie then steadyTimeInFuture now old.milliseconds else old.time := by
  obtain ⟨old, inside, rfl⟩ := List.mem_map.mp member
  refine ⟨old, inside, ?_⟩
  split <;> simp

theorem cookies_add (callback : Callback) (milliseconds now : Int) (cookie : Cookie)
    (handler : TimeoutHandler Callback) :
    (handler.add callback milliseconds now cookie).cookies = handler.cookies ++ [cookie] := by
  simp [cookies, add]

theorem cookies_remove (cookie : Cookie) (handler : TimeoutHandler Callback) :
    (handler.remove cookie).cookies.Sublist handler.cookies :=
  List.filter_sublist.map _

private theorem callbacks_remove (cookie : Cookie) (handler : TimeoutHandler Callback) :
    ((handler.remove cookie).timeouts.map Timeout.callback).Sublist
      (handler.timeouts.map Timeout.callback) :=
  List.filter_sublist.map _

theorem cookies_refresh (cookie : Cookie) (now : Int) (handler : TimeoutHandler Callback) :
    (handler.refresh cookie now).cookies = handler.cookies := by
  simp only [cookies, refresh, List.map_map]
  apply List.map_congr_left
  intro timeout _
  simp only [Function.comp_apply]
  split <;> rfl

private theorem callbacks_refresh (cookie : Cookie) (now : Int)
    (handler : TimeoutHandler Callback) :
    (handler.refresh cookie now).timeouts.map Timeout.callback =
      handler.timeouts.map Timeout.callback := by
  simp only [refresh, List.map_map]
  apply List.map_congr_left
  intro timeout _
  simp only [Function.comp_apply]
  split <;> rfl

end TimeoutHandler

namespace TimerThreads

private theorem now_le_clock {threads : TimerThreads} {now : Int} (sound : Sound threads)
    (reading : threads.now? = some now) : now ≤ threads.clock := by
  unfold now? at reading
  split at reading
  · cases reading
    exact Int.le_refl _
  next calling =>
    cases reading
    exact sound.calling now calling
  · cases reading

theorem Sound.add {threads : TimerThreads} (sound : Sound threads) {cookie : Cookie}
    (fresh : cookie ∉ threads.handler.cookies) (milliseconds : Int) :
    Sound { threads with
      handler := threads.handler.add threads.nextTimer milliseconds threads.clock cookie
      nextTimer := threads.nextTimer + 1 } := by
  refine ⟨?_, ?_, ?_, ?_, sound.calling⟩
  · simpa [TimeoutHandler.cookies, TimeoutHandler.add, List.nodup_append] using
      ⟨sound.cookies, fun timeout member same => fresh
        (List.mem_map.mpr ⟨timeout, member, same⟩)⟩
  · simpa [TimeoutHandler.add, List.nodup_append] using
      ⟨sound.numbers, fun timeout member => Nat.ne_of_lt (sound.below timeout member)⟩
  · intro timeout member
    rcases List.mem_append.mp member with member | member
    · exact Nat.lt_succ_of_lt (sound.below timeout member)
    · rw [List.mem_singleton.mp member]
      exact Nat.lt_succ_self _
  · intro timer now selected
    obtain ⟨below, reading, absent⟩ := sound.selected timer now selected
    refine ⟨Nat.lt_succ_of_lt below, reading, ?_⟩
    intro timeout member
    rcases List.mem_append.mp member with member | member
    · exact absent timeout member
    · rw [List.mem_singleton.mp member]
      exact (Nat.ne_of_lt below).symm

theorem Sound.refresh {threads : TimerThreads} (sound : Sound threads) (cookie : Cookie) :
    Sound { threads with handler := threads.handler.refresh cookie threads.clock } := by
  refine ⟨?_, ?_, ?_, ?_, sound.calling⟩
  · rw [TimeoutHandler.cookies_refresh]
    exact sound.cookies
  · rw [TimeoutHandler.callbacks_refresh]
    exact sound.numbers
  · intro timeout member
    obtain ⟨old, inside, _, same, _⟩ := TimeoutHandler.mem_refresh member
    rw [same]
    exact sound.below old inside
  · intro timer now selected
    obtain ⟨below, reading, absent⟩ := sound.selected timer now selected
    refine ⟨below, reading, ?_⟩
    intro timeout member
    obtain ⟨old, inside, _, same, _⟩ := TimeoutHandler.mem_refresh member
    rw [same]
    exact absent old inside

theorem Sound.remove {threads : TimerThreads} (sound : Sound threads) (cookie : Cookie) :
    Sound { threads with handler := threads.handler.remove cookie } := by
  refine ⟨sound.cookies.sublist (TimeoutHandler.cookies_remove _ _),
    sound.numbers.sublist (TimeoutHandler.callbacks_remove _ _), ?_, ?_, sound.calling⟩
  · intro timeout member
    exact sound.below timeout (TimeoutHandler.mem_remove.mp member).1
  · intro timer now selected
    obtain ⟨below, reading, absent⟩ := sound.selected timer now selected
    refine ⟨below, reading, ?_⟩
    intro timeout member
    exact absent timeout (TimeoutHandler.mem_remove.mp member).1

theorem Sound.tick {threads : TimerThreads} (sound : Sound threads) (nanoseconds : Nat) :
    Sound { threads with clock := threads.clock + nanoseconds } := by
  refine ⟨sound.cookies, sound.numbers, sound.below, ?_, ?_⟩
  · intro timer now selected
    obtain ⟨below, reading, absent⟩ := sound.selected timer now selected
    have later : now ≤ threads.clock + nanoseconds := by omega
    exact ⟨below, later, absent⟩
  · intro now calling
    have reading := sound.calling now calling
    simp only
    omega

theorem Sound.select {threads : TimerThreads} (sound : Sound threads) {timeout : Timeout Nat}
    {now : Int} (reading : threads.now? = some now)
    (present : timeout ∈ threads.handler.timeouts) :
    Sound { threads with
      handler := threads.handler.remove timeout.cookie
      runOnce := .selected timeout.callback now } := by
  have removed := sound.remove timeout.cookie
  have behind : now ≤ threads.clock := now_le_clock sound reading
  refine ⟨removed.cookies, removed.numbers, removed.below, ?_, nofun⟩
  intro timer current selected
  cases selected
  refine ⟨sound.below timeout present, behind, ?_⟩
  intro other member same
  obtain ⟨inside, different⟩ := TimeoutHandler.mem_remove.mp member
  have equal := List.inj_on_of_nodup_map sound.numbers inside present same
  exact different (congrArg Timeout.cookie equal)

theorem sound_step {taken : Taken TimerThreads TimerAction Nat} (legal : machine.Legal taken)
    (sound : Sound taken.before) : Sound taken.after := by
  obtain ⟨before, action, after, started⟩ := taken
  cases stepped legal with
  | @add milliseconds cookie fresh => exact sound.add fresh milliseconds
  | @refresh cookie => exact sound.refresh cookie
  | @remove cookie => exact sound.remove cookie
  | @tick nanoseconds => exact sound.tick nanoseconds
  | select reading present expired => exact sound.select reading present
  | finish => exact ⟨sound.cookies, sound.numbers, sound.below, nofun, nofun⟩
  | @startCallback timer now selected =>
    refine ⟨sound.cookies, sound.numbers, sound.below, nofun, ?_⟩
    intro current calling
    cases calling
    exact (sound.selected timer now selected).2.1

/-- The callback of the timer cannot start any more. -/
structure Gone (timer : Nat) (threads : TimerThreads) : Prop where
  known : timer < threads.nextTimer
  absent : ∀ timeout ∈ threads.handler.timeouts, timeout.callback ≠ timer
  unselected : ∀ now, threads.runOnce ≠ .selected timer now

private theorem gone_step {timer : Nat} {taken : Taken TimerThreads TimerAction Nat}
    (legal : machine.Legal taken) (gone : Gone timer taken.before) : Gone timer taken.after := by
  obtain ⟨before, action, after, started⟩ := taken
  cases stepped legal with
  | @add milliseconds cookie fresh =>
    refine ⟨Nat.lt_succ_of_lt gone.known, ?_, gone.unselected⟩
    intro timeout member
    rcases List.mem_append.mp member with member | member
    · exact gone.absent timeout member
    · rw [List.mem_singleton.mp member]
      exact (Nat.ne_of_lt gone.known).symm
  | @refresh cookie =>
    refine ⟨gone.known, ?_, gone.unselected⟩
    intro timeout member
    obtain ⟨old, inside, _, same, _⟩ := TimeoutHandler.mem_refresh member
    rw [same]
    exact gone.absent old inside
  | @remove cookie =>
    exact ⟨gone.known,
      fun timeout member => gone.absent timeout (TimeoutHandler.mem_remove.mp member).1,
      gone.unselected⟩
  | tick => exact ⟨gone.known, gone.absent, gone.unselected⟩
  | @select timeout now reading present expired =>
    refine ⟨gone.known,
      fun other member => gone.absent other (TimeoutHandler.mem_remove.mp member).1, ?_⟩
    intro current selected
    cases selected
    exact gone.absent timeout present rfl
  | finish => exact ⟨gone.known, gone.absent, nofun⟩
  | startCallback => exact ⟨gone.known, gone.absent, nofun⟩

private theorem gone_silent {timer : Nat} {taken : Taken TimerThreads TimerAction Nat}
    (legal : machine.Legal taken) (gone : Gone timer taken.before) : timer ∉ taken.outputs := by
  obtain ⟨before, action, after, started⟩ := taken
  cases stepped legal with
  | @startCallback other now selected =>
    intro member
    cases List.mem_singleton.mp member
    exact gone.unselected now selected
  | add | refresh | remove | tick | select | finish => exact List.not_mem_nil

/-- The callback of the timer does not start before the time that a refresh at `since` gave it. -/
structure Postponed (timer : Nat) (since milliseconds : Int) (threads : TimerThreads) : Prop where
  sound : Sound threads
  known : timer < threads.nextTimer
  passed : since ≤ threads.clock
  pending : ∀ timeout ∈ threads.handler.timeouts, timeout.callback = timer →
    timeout.milliseconds = milliseconds ∧ steadyTimeInFuture since milliseconds ≤ timeout.time
  selected : ∀ now, threads.runOnce = .selected timer now →
    steadyTimeInFuture since milliseconds < now

private theorem postponed_step {timer : Nat} {since milliseconds : Int}
    {taken : Taken TimerThreads TimerAction Nat} (legal : machine.Legal taken)
    (postponed : Postponed timer since milliseconds taken.before) :
    Postponed timer since milliseconds taken.after := by
  have sound := sound_step legal postponed.sound
  obtain ⟨before, action, after, started⟩ := taken
  cases stepped legal with
  | @add duration cookie fresh =>
    refine ⟨sound, Nat.lt_succ_of_lt postponed.known, postponed.passed, ?_, postponed.selected⟩
    intro timeout member same
    rcases List.mem_append.mp member with member | member
    · exact postponed.pending timeout member same
    · rw [List.mem_singleton.mp member] at same
      exact absurd same (Nat.ne_of_lt postponed.known).symm
  | @refresh cookie =>
    refine ⟨sound, postponed.known, postponed.passed, ?_, postponed.selected⟩
    intro timeout member same
    obtain ⟨old, inside, _, callback, duration, time⟩ := TimeoutHandler.mem_refresh member
    obtain ⟨same', later⟩ := postponed.pending old inside (callback.symm.trans same)
    refine ⟨duration.trans same', ?_⟩
    have current := postponed.passed
    rw [time]
    split
    · rw [same']
      simp only [steadyTimeInFuture]
      simp only at current
      omega
    · exact later
  | @remove cookie =>
    exact ⟨sound, postponed.known, postponed.passed,
      fun timeout member => postponed.pending timeout (TimeoutHandler.mem_remove.mp member).1,
      postponed.selected⟩
  | @tick nanoseconds =>
    refine ⟨sound, postponed.known, ?_, postponed.pending, postponed.selected⟩
    have current := postponed.passed
    simp only at current ⊢
    omega
  | @select timeout now reading present expired =>
    refine ⟨sound, postponed.known, postponed.passed,
      fun other member => postponed.pending other (TimeoutHandler.mem_remove.mp member).1, ?_⟩
    intro current selected
    cases selected
    have later := (postponed.pending timeout present rfl).2
    omega
  | finish => exact ⟨sound, postponed.known, postponed.passed, postponed.pending, nofun⟩
  | startCallback => exact ⟨sound, postponed.known, postponed.passed, postponed.pending, nofun⟩

private theorem postponed_late {timer : Nat} {since milliseconds : Int}
    {taken : Taken TimerThreads TimerAction Nat} (legal : machine.Legal taken)
    (postponed : Postponed timer since milliseconds taken.before)
    (started : timer ∈ taken.outputs) :
    steadyTimeInFuture since milliseconds < taken.before.clock := by
  obtain ⟨before, action, after, outputs⟩ := taken
  cases stepped legal with
  | @startCallback other now selected =>
    cases List.mem_singleton.mp started
    have late := postponed.selected now selected
    have behind := (postponed.sound.selected timer now selected).2.1
    simp only at behind ⊢
    omega
  | add | refresh | remove | tick | select | finish => cases started

private theorem sound_initial : Sound {} := by
  refine ⟨List.nodup_nil, List.nodup_nil, ?_, nofun, nofun⟩
  intro timeout member
  cases member

/-- In every interleaving, a remove that finds the timer in the table keeps its callback from
ever starting, and a refresh that finds it there keeps it from starting before the new time. -/
theorem found_timer_obeys {log before after : List (Taken TimerThreads TimerAction Nat)}
    {last : TimerThreads} {taken : Taken TimerThreads TimerAction Nat}
    (run : machine.Run {} log last) (split : log = before ++ taken :: after)
    {timeout : Timeout Nat} (found : timeout ∈ taken.before.handler.timeouts) :
    (taken.action = .remove timeout.cookie →
      ∀ later ∈ after, timeout.callback ∉ later.outputs) ∧
    (taken.action = .refresh timeout.cookie →
      ∀ later ∈ after, timeout.callback ∈ later.outputs →
        steadyTimeInFuture taken.before.clock timeout.milliseconds < later.before.clock) := by
  obtain ⟨past, legal, future⟩ := run.at split
  have sound := (past.invariant (fun taken legal => sound_step legal) sound_initial).1
  have known := sound.below timeout found
  have outside (now : Int) : taken.before.runOnce ≠ .selected timeout.callback now :=
    fun selected => (sound.selected _ now selected).2.2 timeout found rfl
  obtain ⟨state, action, next, outputs⟩ := taken
  constructor
  · rintro rfl later member
    have gone : Gone timeout.callback next := by
      cases stepped legal with
      | remove =>
        refine ⟨known, ?_, outside⟩
        intro other inside same
        obtain ⟨present, different⟩ := TimeoutHandler.mem_remove.mp inside
        have equal := List.inj_on_of_nodup_map sound.numbers present found same
        exact different (congrArg Timeout.cookie equal)
    have always := (future.invariant (fun taken legal => gone_step legal) gone).2 later member
    exact gone_silent (future.legal later member) always.1
  · rintro rfl later member started
    have postponed : Postponed timeout.callback state.clock timeout.milliseconds next := by
      have nextSound := sound_step legal sound
      cases stepped legal with
      | refresh =>
        refine ⟨nextSound, known, Int.le_refl _, ?_,
          fun now selected => absurd selected (outside now)⟩
        intro other inside same
        obtain ⟨old, present, _, callback, duration, time⟩ := TimeoutHandler.mem_refresh inside
        have equal : old = timeout :=
          List.inj_on_of_nodup_map sound.numbers present found (callback.symm.trans same)
        subst equal
        exact ⟨duration, Int.le_of_eq (time.trans (if_pos rfl)).symm⟩
    have always := (future.invariant (fun taken legal => postponed_step legal) postponed).2
    exact postponed_late (future.legal later member) (always later member).1 started

/-- A timer of half a second is removed at once and time goes on. -/
theorem found_timer_obeys_removed :
    let log := machine.log {} [.add 500 1, .remove 1, .tick 600000000, .finish]
    log.length = 4 ∧ ∀ later ∈ log.drop 2, 0 ∉ later.outputs := by
  intro log
  obtain ⟨last, run⟩ := machine.run_log {} [.add 500 1, .remove 1, .tick 600000000, .finish]
    (by decide)
  let timeout : Timeout Nat := ⟨1, 0, 500000000, 500⟩
  let armed : TimerThreads := { handler := ⟨[timeout]⟩, nextTimer := 1 }
  let taken : Taken TimerThreads TimerAction Nat :=
    ⟨armed, .remove 1, { armed with handler := {} }, []⟩
  have split : log = log.take 1 ++ taken :: log.drop 2 := by rfl
  have found : timeout ∈ taken.before.handler.timeouts := by simp [taken, armed]
  exact ⟨by decide, (found_timer_obeys run split found).1 rfl⟩

/-- Removing a cookie keeps the timer that it was returned for from starting afterwards. -/
def RemoveIsFinal (log : List (Taken TimerThreads TimerAction Nat)) : Prop :=
  ∀ (first second third : Nat) (added removed later : Taken TimerThreads TimerAction Nat),
    first < second → second < third → log[first]? = some added → log[second]? = some removed →
    log[third]? = some later → ∀ milliseconds cookie, added.action = .add milliseconds cookie →
    removed.action = .remove cookie → added.before.nextTimer ∉ later.outputs

/-- Refreshing the cookie of a timer that has not run yet postpones its start. -/
def RefreshPostpones (log : List (Taken TimerThreads TimerAction Nat)) : Prop :=
  ∀ (first second third : Nat) (added refreshed later : Taken TimerThreads TimerAction Nat),
    first < second → second < third → log[first]? = some added → log[second]? = some refreshed →
    log[third]? = some later → ∀ milliseconds cookie, added.action = .add milliseconds cookie →
    refreshed.action = .refresh cookie →
    (∀ earlier ∈ log.take second, added.before.nextTimer ∉ earlier.outputs) →
    added.before.nextTimer ∈ later.outputs →
    steadyTimeInFuture refreshed.before.clock milliseconds ≤ later.before.clock

/-- Once `run_once` has taken the expired timer out of the table, neither call reaches it. -/
theorem selected_timer_starts :
    ¬(∀ log last, machine.Run {} log last → RemoveIsFinal log) ∧
      ¬(∀ log last, machine.Run {} log last → RefreshPostpones log) := by
  constructor
  · intro final
    obtain ⟨last, run⟩ := machine.run_log {}
      [.add 500 1, .tick 600000000, .select 1, .remove 1, .startCallback] (by decide)
    exact final _ last run 0 3 4 _ _ _ (by decide) (by decide) rfl rfl rfl 500 1 rfl rfl
      (List.mem_singleton.mpr rfl)
  · intro postpones
    obtain ⟨last, run⟩ := machine.run_log {}
      [.add 500 1, .tick 600000000, .select 1, .refresh 1, .startCallback] (by decide)
    have late := postpones _ last run 0 3 4 _ _ _ (by decide) (by decide) rfl rfl rfl 500 1 rfl rfl
      (by decide) (List.mem_singleton.mpr rfl)
    revert late
    decide

end TimerThreads
end PilotingMavsdk
