import Mathlib.Algebra.Order.Archimedean.Basic
import Mathlib.Data.Rat.Floor
import Mathlib.Tactic.FieldSimp
import Mathlib.Tactic.Linarith
import PilotingMavsdk.CallEveryLoop
import PilotingMavsdk.Proofs.RunOnceEnds

/-! How often an entry is called. It is due after its interval, but its time is moved on by whole
milliseconds, so it stays in step only if the interval is a whole number of them. -/

namespace PilotingMavsdk
open Library

private theorem truncate_nonneg {number : ℚ} (nonneg : 0 ≤ number) :
    truncate number = ⌊number⌋ := by
  rw [truncate, Rat.floor_def', Int.tdiv_eq_ediv_of_nonneg (Rat.num_nonneg.mpr nonneg)]

private theorem truncate_neg (number : ℚ) : truncate (-number) = -truncate number := by
  rw [truncate, truncate, Rat.num_neg_eq_neg_num, Rat.neg_den, Int.neg_tdiv]

namespace CallEveryLoop
variable {Callback : Type}

/-- The milliseconds by which an entry is moved on. -/
def period (interval : ℚ) : Int := truncate (interval * 1000)

/-- `last_time` of an entry that was added at this time and has been moved on so often. -/
def lastTimeAfter (interval : ℚ) (start : Int) (shifts : Nat) : Int :=
  start - (period interval + 1) * 1000000 + shifts * (period interval * 1000000)

private theorem period_eq_floor {interval : ℚ} (positive : 0 < interval) :
    period interval = ⌊interval * 1000⌋ :=
  truncate_nonneg (by linarith)

private theorem shift_added {interval : ℚ} (positive : 0 < interval) (start : Int) :
    shiftSteadyTimeBy start (-interval - 1 / 1000) = lastTimeAfter interval start 0 := by
  have opposite : (-interval - 1 / 1000) * 1000 = -(interval * 1000 + 1) := by ring
  rw [shiftSteadyTimeBy, opposite, truncate_neg, truncate_nonneg (by linarith),
    Int.floor_add_one, lastTimeAfter, period_eq_floor positive]
  simp only [Nat.cast_zero, zero_mul, add_zero]
  ring

private theorem shift_again (interval : ℚ) (start : Int) (shifts : Nat) :
    shiftSteadyTimeBy (lastTimeAfter interval start shifts) interval =
      lastTimeAfter interval start (shifts + 1) := by
  rw [shiftSteadyTimeBy, lastTimeAfter, lastTimeAfter, ← period]
  push_cast
  ring

def Touches (cookie : Cookie) : DuringCall Callback → Prop
  | .tick _ | .add _ _ _ | .swap _ => False
  | .change _ other | .reset other | .remove other => other = cookie

def Shifted (interval : ℚ) (start : Int) (cookie : Cookie) (shifts : Nat)
    (loop : CallEveryLoop Callback) : Prop :=
  cookie ∈ loop.cookies ∧ ∀ entry ∈ loop.handler.entries, entry.cookie = cookie →
    entry.interval = interval ∧ entry.lastTime = lastTimeAfter interval start shifts

variable {interval : ℚ} {start : Int} {cookie : Cookie} {shifts : Nat}
  {loop : CallEveryLoop Callback}

private theorem shifted_add {first : CallEveryLoop Callback} (positive : 0 < interval)
    (fresh : cookie ∉ first.cookies) (callback : Option Callback) :
    Shifted interval first.clock cookie 0 (first.during (.add callback interval cookie)) := by
  rw [during, if_neg fresh]
  constructor
  · simp [cookies, CallEveryHandler.cookies, CallEveryHandler.add]
  · intro entry member own
    rcases List.mem_append.mp member with old | new
    · exact absurd (List.mem_map.mpr ⟨entry, old, own⟩) fresh
    · rw [List.mem_singleton.mp new]
      exact ⟨rfl, shift_added positive first.clock⟩

theorem cookies_onEntry (other : Cookie)
    (change : Entry (Option Callback) → Entry (Option Callback))
    (keeps : ∀ entry, (change entry).cookie = entry.cookie)
    (handler : CallEveryHandler (Option Callback)) :
    (handler.onEntry other change).cookies = handler.cookies := by
  simp only [CallEveryHandler.cookies, CallEveryHandler.onEntry, List.map_map]
  apply List.map_congr_left
  intro entry _
  simp only [Function.comp_apply]
  split
  · exact keeps entry
  · rfl

private theorem Shifted.onOther {other : Cookie}
    {change : Entry (Option Callback) → Entry (Option Callback)}
    (shifted : Shifted interval start cookie shifts loop) (different : other ≠ cookie)
    (keeps : ∀ entry, (change entry).cookie = entry.cookie) :
    Shifted interval start cookie shifts
      { loop with handler := loop.handler.onEntry other change } := by
  constructor
  · rw [cookies, cookies_onEntry other change keeps]
    exact shifted.1
  · intro entry member own
    obtain ⟨old, present, rfl⟩ := List.mem_map.mp member
    split at own
    next same =>
      rw [keeps] at own
      exact absurd (same.symm.trans own) different
    next apart =>
      rw [if_neg apart]
      exact shifted.2 old present own

theorem Shifted.during (shifted : Shifted interval start cookie shifts loop)
    {operation : DuringCall Callback} (untouched : ¬Touches cookie operation) :
    Shifted interval start cookie shifts (loop.during operation) := by
  cases operation with
  | tick nanoseconds => exact shifted
  | add callback otherInterval other =>
    rw [CallEveryLoop.during]
    split
    · exact shifted
    next fresh =>
      constructor
      · rw [cookies, CallEveryHandler.add, CallEveryHandler.cookies, List.map_append]
        exact List.mem_append_left _ shifted.1
      · intro entry member own
        rcases List.mem_append.mp member with old | new
        · exact shifted.2 entry old own
        · rw [List.mem_singleton.mp new] at own
          have same : other = cookie := own
          exact absurd (same ▸ shifted.1) fresh
  | change otherInterval other => exact shifted.onOther untouched fun _ => rfl
  | reset other => exact shifted.onOther untouched fun _ => rfl
  | remove other =>
    rw [CallEveryLoop.during]
    split
    · constructor
      · obtain ⟨entry, member, own⟩ := List.mem_map.mp shifted.1
        refine List.mem_map.mpr ⟨entry, List.mem_filter.mpr ⟨member, ?_⟩, own⟩
        rw [own]
        exact decide_eq_true (Ne.symm untouched)
      · intro entry member own
        exact shifted.2 entry (List.mem_filter.mp member).1 own
    · exact shifted
  | swap place =>
    have same := swapNeighbours_perm place loop.handler.entries
    constructor
    · exact (same.map Entry.cookie).mem_iff.mpr shifted.1
    · intro entry member own
      exact shifted.2 entry (same.mem_iff.mp member) own

theorem Shifted.window {window : List (DuringCall Callback)}
    (shifted : Shifted interval start cookie shifts loop)
    (untouched : ∀ operation ∈ window, ¬Touches cookie operation) :
    Shifted interval start cookie shifts (window.foldl CallEveryLoop.during loop) := by
  induction window generalizing loop with
  | nil => exact shifted
  | cons operation window ih =>
    rw [List.foldl_cons]
    apply ih (shifted.during (untouched operation List.mem_cons_self))
    intro later member
    exact untouched later (List.mem_cons_of_mem _ member)

theorem Shifted.advance (shifted : Shifted interval start cookie shifts loop) :
    Shifted interval start cookie (shifts + 1)
      { loop with handler := loop.handler.advance cookie } := by
  constructor
  · rw [cookies, CallEveryHandler.advance, cookies_onEntry]
    · exact shifted.1
    · intro entry
      rfl
  · intro entry member own
    obtain ⟨old, present, rfl⟩ := List.mem_map.mp member
    split at own
    next same =>
      obtain ⟨unchanged, time⟩ := shifted.2 old present same
      rw [if_pos same]
      refine ⟨unchanged, ?_⟩
      simp only [unchanged, time, shift_again]
    next apart => exact absurd own apart

private theorem pointee_mem {entry : Entry (Option Callback)} (here : loop.pointee = some entry) :
    entry ∈ loop.handler.entries := by
  rw [pointee] at here
  split at here
  · cases here
  · exact List.mem_of_find?_eq_some here

private theorem Shifted.advanceAny (shifted : Shifted interval start cookie shifts loop)
    (any : Cookie) :
    Shifted interval start cookie (if any = cookie then shifts + 1 else shifts)
      { loop with handler := loop.handler.advance any } := by
  split
  next own =>
    rw [own]
    exact shifted.advance
  next other => exact shifted.onOther other fun _ => rfl

theorem Shifted.called {entry : Entry (Option Callback)} {window : List (DuringCall Callback)}
    (shifted : Shifted interval start cookie shifts loop) (due : entry.IsDue loop.clock)
    (untouched : ∀ operation ∈ window, ¬Touches cookie operation) :
    Shifted interval start cookie (if entry.cookie = cookie then shifts + 1 else shifts)
      (loop.callIfDue entry window) := by
  have moved := shifted.advanceAny entry.cookie
  rw [callIfDue, if_pos due]
  cases entry.callback with
  | none => exact moved
  | some callback => exact moved.window untouched

def timesOf (cookie : Cookie) (calls : List CallMade) : List Int :=
  (calls.filter (·.cookie = cookie)).map CallMade.time

theorem Shifted.body {window : List (DuringCall Callback)}
    (shifted : Shifted interval start cookie shifts loop)
    (untouched : ∀ operation ∈ window, ¬Touches cookie operation) :
    (timesOf cookie loop.calls = [] ∧
      ∃ more, Shifted interval start cookie (shifts + more) (loop.body window)) ∨
    (timesOf cookie loop.calls = [loop.clock] ∧
      elapsedSince (lastTimeAfter interval start shifts) loop.clock > interval ∧
      Shifted interval start cookie (shifts + 1) (loop.body window)) := by
  cases here : loop.pointee with
  | none =>
    left
    simp only [calls, CallEveryLoop.body, here]
    exact ⟨rfl, 0, shifted⟩
  | some entry =>
    have ends : ∀ count, Shifted interval start cookie count (loop.callIfDue entry window) →
        Shifted interval start cookie count (loop.body window) := by
      intro count called
      simp only [CallEveryLoop.body, here]
      split <;> exact called
    by_cases due : entry.IsDue loop.clock
    · have after := ends _ (shifted.called due untouched)
      by_cases own : entry.cookie = cookie
      · rw [if_pos own] at after
        obtain ⟨unchanged, time⟩ := shifted.2 entry (pointee_mem here) own
        cases filled : entry.callback with
        | none =>
          left
          simp only [calls, here, filled]
          exact ⟨by simp [timesOf], 1, after⟩
        | some callback =>
          right
          refine ⟨by simp [calls, here, filled, due, timesOf, own], ?_, after⟩
          rw [← time, ← unchanged]
          exact due
      · rw [if_neg own] at after
        left
        refine ⟨?_, 0, after⟩
        simp only [calls, here]
        split <;> simp [timesOf, own]
    · left
      refine ⟨by simp [calls, here, due, timesOf], 0, ends _ ?_⟩
      rw [callIfDue, if_neg due]
      exact shifted

/-- Up to any time there is one call, and one more for each interval that has passed; a
millisecond does not matter. -/
def NotFast (interval : ℚ) (start : Int) (times : List Int) : Prop :=
  ∀ time, start ≤ time → ((times.countP (· ≤ time) : ℕ) : ℚ) ≤
    1 + ((time - start + 1000000 : Int) : ℚ) / (interval * 1000000000)

private theorem notFast_nil (positive : 0 < interval) (start : Int) :
    NotFast interval start [] := by
  intro time later
  have elapsed : (0 : ℚ) ≤ ((time - start + 1000000 : Int) : ℚ) := by
    exact_mod_cast (by omega : 0 ≤ time - start + 1000000)
  have intervals : 0 ≤ ((time - start + 1000000 : Int) : ℚ) / (interval * 1000000000) := by
    positivity
  simp only [List.countP_nil, Nat.cast_zero]
  linarith

private theorem shifts_lt {milliseconds : Nat} (positive : 0 < interval)
    (whole : interval * 1000 = milliseconds) {now : Int}
    (due : elapsedSince (lastTimeAfter interval start shifts) now > interval) :
    (shifts : ℚ) < ((now - start + 1000000 : Int) : ℚ) / (interval * 1000000000) := by
  have period_eq : period interval = milliseconds := by
    rw [period_eq_floor positive, whole, Int.floor_natCast]
  rw [lt_div_iff₀ (by positivity)]
  rw [elapsedSince, lastTimeAfter, period_eq, gt_iff_lt, lt_div_iff₀ (by norm_num)] at due
  push_cast at due ⊢
  have nanoseconds : interval * 1000000000 = milliseconds * 1000000 := by linarith
  rw [nanoseconds] at due ⊢
  linarith

private theorem NotFast.concat {times : List Int} {now : Int}
    (notFast : NotFast interval start times) (positive : 0 < interval)
    (fewer : (times.length : ℚ) < ((now - start + 1000000 : Int) : ℚ) / (interval * 1000000000)) :
    NotFast interval start (times ++ [now]) := by
  intro time later
  rw [List.countP_append]
  by_cases counted : now ≤ time
  · have all : ((times.countP (· ≤ time) : ℕ) : ℚ) ≤ times.length := by
      exact_mod_cast List.countP_le_length
    have longer : ((now - start + 1000000 : Int) : ℚ) / (interval * 1000000000) ≤
        ((time - start + 1000000 : Int) : ℚ) / (interval * 1000000000) := by
      apply div_le_div_of_nonneg_right _ (by positivity)
      exact_mod_cast (by omega : now - start + 1000000 ≤ time - start + 1000000)
    simp only [List.countP_singleton, counted, decide_true, if_true, Nat.cast_add, Nat.cast_one]
    linarith
  · have same := notFast time later
    simpa [List.countP_singleton, counted] using same

def UntouchedBy (cookie : Cookie) : CallEveryAction Callback → Prop
  | .outside operation => ¬Touches cookie operation
  | .begin => True
  | .round window => ∀ operation ∈ window, ¬Touches cookie operation

instance (cookie : Cookie) : (operation : DuringCall Callback) →
    Decidable (Touches cookie operation)
  | .tick _ | .add _ _ _ | .swap _ => .isFalse not_false
  | .change _ other | .reset other | .remove other => inferInstanceAs (Decidable (other = cookie))

instance (cookie : Cookie) : (action : CallEveryAction Callback) →
    Decidable (UntouchedBy cookie action)
  | .outside _ => inferInstanceAs (Decidable ¬_)
  | .begin => .isTrue trivial
  | .round _ => inferInstanceAs (Decidable (∀ operation ∈ _, _))

abbrev Step (Callback : Type) :=
  Taken (CallEveryLoop Callback) (CallEveryAction Callback) CallMade

def callsOf (cookie : Cookie) (log : List (Step Callback)) : List Int :=
  timesOf cookie (log.flatMap Taken.outputs)

private theorem callsOf_concat (cookie : Cookie) (log : List (Step Callback))
    (taken : Step Callback) :
    callsOf cookie (log ++ [taken]) = callsOf cookie log ++ timesOf cookie taken.outputs := by
  simp [callsOf, timesOf]

/-- What a step does for the entry. -/
inductive Moves (interval : ℚ) (start : Int) (cookie : Cookie) (shifts : Nat)
    (taken : Step Callback) : Prop where
  | quiet (more : Nat) (none : timesOf cookie taken.outputs = [])
      (shifted : Shifted interval start cookie (shifts + more) taken.after)
  | called (time : Int) (one : timesOf cookie taken.outputs = [time])
      (due : elapsedSince (lastTimeAfter interval start shifts) time > interval)
      (shifted : Shifted interval start cookie (shifts + 1) taken.after)

private theorem moves_of_legal {taken : Step Callback} (legal : machine.Legal taken)
    (untouched : UntouchedBy cookie taken.action)
    (shifted : Shifted interval start cookie shifts taken.before) :
    Moves interval start cookie shifts taken := by
  obtain ⟨before, action, after, outputs⟩ := taken
  cases action with
  | outside operation =>
    simp only [Machine.Legal, machine] at legal
    split at legal
    · cases legal
      exact .quiet 0 rfl (shifted.during untouched)
    · cases legal
  | begin =>
    simp only [Machine.Legal, machine] at legal
    split at legal
    · cases legal
      exact .quiet 0 rfl shifted
    · cases legal
  | round window =>
    simp only [Machine.Legal, machine] at legal
    split at legal
    · cases legal
    · cases legal
      rcases shifted.body untouched with ⟨none, more, after⟩ | ⟨one, due, after⟩
      · exact .quiet more none after
      · exact .called before.clock one due after

/-- An entry is never moved on less often than it is called, so the calls are not too fast. -/
private theorem run_notFast {milliseconds : Nat} (positive : 0 < interval)
    (whole : interval * 1000 = milliseconds) {first last : CallEveryLoop Callback}
    {log : List (Step Callback)} (run : machine.Run first log last)
    (added : Shifted interval start cookie 0 first)
    (untouched : ∀ taken ∈ log, UntouchedBy cookie taken.action) :
    NotFast interval start (callsOf cookie log) ∧ ∃ shifts,
      Shifted interval start cookie shifts last ∧ (callsOf cookie log).length ≤ shifts := by
  induction run with
  | nil => exact ⟨notFast_nil positive start, 0, added, Nat.le_refl 0⟩
  | @snoc log taken run legal ih =>
    obtain ⟨notFast, shifts, shifted, fewer⟩ :=
      ih fun earlier member => untouched earlier (List.mem_append_left _ member)
    rw [callsOf_concat]
    cases moves_of_legal legal (untouched taken (by simp)) shifted with
    | quiet more none after =>
      rw [none, List.append_nil]
      exact ⟨notFast, shifts + more, after, by omega⟩
    | called time one due after =>
      rw [one]
      have enough : ((callsOf cookie log).length : ℚ) ≤ shifts := by exact_mod_cast fewer
      have waited := shifts_lt positive whole due
      refine ⟨notFast.concat positive (lt_of_le_of_lt enough waited), shifts + 1, after, ?_⟩
      rw [List.length_append, List.length_singleton]
      omega

def single (callback : Callback) (interval : ℚ) (start clock : Int) (cookie : Cookie)
    (shifts : Nat) : CallEveryLoop Callback where
  handler := ⟨[⟨cookie, some callback, lastTimeAfter interval start shifts, interval⟩]⟩
  clock := clock

private theorem single_begun {callback : Callback} {clock : Int} :
    machine.step (single callback interval start clock cookie shifts) .begin =
      some ({ single callback interval start clock cookie shifts with it := some cookie }, []) :=
  rfl

private theorem single_round {callback : Callback} {clock : Int}
    (due : elapsedSince (lastTimeAfter interval start shifts) clock > interval) :
    machine.step { single callback interval start clock cookie shifts with it := some cookie }
        (.round []) =
      some (single callback interval start clock cookie (shifts + 1), [⟨cookie, clock⟩]) := by
  have isDue : Entry.IsDue clock
      (⟨cookie, some callback, lastTimeAfter interval start shifts, interval⟩ :
        Entry (Option Callback)) := due
  simp [machine, body, calls, pointee, single, callIfDue, isDue, CallEveryHandler.advance,
    CallEveryHandler.onEntry, shift_again, next, cookies, CallEveryHandler.cookies]

private theorem single_pass {callback : Callback} {clock : Int}
    (due : elapsedSince (lastTimeAfter interval start shifts) clock > interval) :
    ∃ log, machine.Run (single callback interval start clock cookie shifts) log
        (single callback interval start clock cookie (shifts + 1)) ∧
      (∀ taken ∈ log, UntouchedBy cookie taken.action) ∧ callsOf cookie log = [clock] := by
  let idle := single callback interval start clock cookie shifts
  let begun : Step Callback := ⟨idle, .begin, { idle with it := some cookie }, []⟩
  let called : Step Callback := ⟨begun.after, .round [],
    single callback interval start clock cookie (shifts + 1), [⟨cookie, clock⟩]⟩
  have first : machine.Run idle ([] ++ [begun]) begun.after := .snoc .nil single_begun
  have second : machine.Run idle ([] ++ [begun] ++ [called]) called.after :=
    .snoc first (single_round due)
  refine ⟨_, second, ?_, ?_⟩
  · intro taken member
    rcases List.mem_cons.mp member with rfl | member
    · trivial
    · rw [List.mem_singleton.mp member]
      intro operation inside
      cases inside
  · simp [callsOf, timesOf, begun, called]

private theorem single_passes {callback : Callback} {clock : Int} {count : Nat}
    (due : ∀ shifts, shifts < count →
      elapsedSince (lastTimeAfter interval start shifts) clock > interval) :
    ∃ log, machine.Run (single callback interval start clock cookie 0) log
        (single callback interval start clock cookie count) ∧
      (∀ taken ∈ log, UntouchedBy cookie taken.action) ∧
      callsOf cookie log = List.replicate count clock := by
  induction count with
  | zero => exact ⟨[], .nil, by simp, rfl⟩
  | succ count ih =>
    obtain ⟨log, run, untouched, calls⟩ := ih fun shifts before => due shifts (by omega)
    obtain ⟨pass, more, also, call⟩ :=
      @single_pass _ interval start cookie count callback clock (due count (by omega))
    refine ⟨log ++ pass, run.append more, ?_, ?_⟩
    · intro taken member
      rcases List.mem_append.mp member with old | new
      · exact untouched taken old
      · exact also taken new
    · rw [List.replicate_succ', ← calls, ← call]
      simp [callsOf, timesOf]

/-- What is left over when the interval is cut to milliseconds. -/
def excess (interval : ℚ) : ℚ := interval * 1000 - period interval

private theorem excess_bounds (positive : 0 < interval)
    (notWhole : ∀ milliseconds : Nat, interval * 1000 ≠ milliseconds) :
    0 ≤ period interval ∧ 0 < excess interval ∧ excess interval < 1 := by
  have nonneg : 0 ≤ period interval := by
    rw [period_eq_floor positive]
    exact Int.floor_nonneg.mpr (by linarith)
  have below := Int.floor_le (interval * 1000)
  have above := Int.lt_floor_add_one (interval * 1000)
  rw [← period_eq_floor positive] at below above
  refine ⟨nonneg, ?_, by rw [excess]; linarith⟩
  have different : (period interval : ℚ) ≠ interval * 1000 := by
    intro same
    apply notWhole (period interval).toNat
    rw [← same]
    exact_mod_cast (Int.toNat_of_nonneg nonneg).symm
  rw [excess]
  exact sub_pos.mpr (lt_of_le_of_ne below different)

private theorem due_behind {count : Nat} (nonneg : 0 ≤ period interval)
    (small : excess interval < 1) (before : shifts < count + 1) :
    elapsedSince (lastTimeAfter interval start shifts)
      (start + count * (period interval * 1000000)) > interval := by
  have fewer : (shifts : ℚ) * period interval ≤ count * period interval := by
    have order : (shifts : ℚ) ≤ count := by exact_mod_cast Nat.le_of_lt_succ before
    have nonnegative : (0 : ℚ) ≤ period interval := by exact_mod_cast nonneg
    exact mul_le_mul_of_nonneg_right order nonnegative
  rw [elapsedSince, lastTimeAfter, gt_iff_lt, lt_div_iff₀ (by norm_num)]
  rw [excess] at small
  push_cast
  linarith

private theorem not_notFast_replicate {count : Nat} (positive : 0 < interval)
    (nonneg : 0 ≤ period interval) (enough : 1 < count * excess interval) :
    ¬NotFast interval start
      (List.replicate (count + 1) (start + count * (period interval * 1000000))) := by
  intro notFast
  have after : start ≤ start + count * (period interval * 1000000) := by
    have missed : 0 ≤ count * (period interval * 1000000) := by positivity
    exact Int.le_add_of_nonneg_right missed
  have bound := notFast _ after
  rw [List.countP_replicate, if_pos (decide_eq_true (le_refl _)), ← sub_le_iff_le_add',
    le_div_iff₀ (by positivity)] at bound
  simp only [excess] at enough
  push_cast at bound
  linarith

/-- The entry is moved on by too little with each call, and makes up for it with more calls. -/
private theorem exists_fast (positive : 0 < interval)
    (notWhole : ∀ milliseconds : Nat, interval * 1000 ≠ milliseconds) (callback : Callback)
    (start : Int) (cookie : Cookie) :
    ∃ log last, machine.Run (during { clock := start } (.add (some callback) interval cookie))
        log last ∧ (∀ taken ∈ log, UntouchedBy cookie taken.action) ∧
      ¬NotFast interval start (callsOf cookie log) := by
  obtain ⟨nonneg, large, small⟩ := excess_bounds positive notWhole
  obtain ⟨count, enough⟩ := exists_nat_gt (1 / excess interval)
  rw [div_lt_iff₀ large] at enough
  let clock := start + count * (period interval * 1000000)
  have added : during { clock := start } (.add (some callback) interval cookie) =
      single callback interval start start cookie 0 := by
    rw [during, if_neg (by simp [cookies, CallEveryHandler.cookies]), single,
      ← shift_added positive]
    rfl
  let idle : Step Callback := ⟨single callback interval start start cookie 0,
    .outside (.tick (count * (period interval).toNat * 1000000)),
    single callback interval start clock cookie 0, []⟩
  have waits : machine.Legal idle := by
    have whole : start + ((count * (period interval).toNat * 1000000 : Nat) : Int) = clock := by
      push_cast
      rw [Int.toNat_of_nonneg nonneg, mul_assoc]
    simp only [Machine.Legal, machine, idle, single, during, if_true, whole]
  obtain ⟨log, run, untouched, calls⟩ := @single_passes _ interval start cookie callback clock
    (count + 1) fun shifts before => due_behind nonneg small before
  have first : machine.Run idle.before ([] ++ [idle]) idle.after := .snoc .nil waits
  rw [added]
  refine ⟨_, _, first.append run, ?_, ?_⟩
  · intro taken member
    rcases List.mem_cons.mp member with rfl | member
    · exact not_false
    · exact untouched taken member
  · have all : callsOf cookie ([] ++ [idle] ++ log) = List.replicate (count + 1) clock := by
      rw [← calls]
      simp [callsOf, timesOf, idle]
    rw [all]
    exact not_notFast_replicate positive nonneg enough

/-- However often `run_once` runs, and whatever callbacks and other threads do to other entries:
calls come no faster than the interval if and only if it is a whole number of milliseconds. -/
theorem notFast_iff [Inhabited Callback] (interval : ℚ) (positive : 0 < interval) :
    (∀ (first last : CallEveryLoop Callback) (callback : Option Callback) (cookie : Cookie)
        (log : List (Step Callback)), cookie ∉ first.cookies →
      machine.Run (first.during (.add callback interval cookie)) log last →
      (∀ taken ∈ log, UntouchedBy cookie taken.action) →
        NotFast interval first.clock (callsOf cookie log)) ↔
      ∃ milliseconds : Nat, interval * 1000 = milliseconds := by
  constructor
  · intro all
    by_contra notWhole
    obtain ⟨log, last, run, untouched, fast⟩ :=
      exists_fast positive (not_exists.mp notWhole) (default : Callback) 0 64
    exact fast (all _ last _ 64 log (by simp [cookies, CallEveryHandler.cookies]) run untouched)
  · intro ⟨milliseconds, whole⟩ first last callback cookie log fresh run untouched
    exact (run_notFast positive whole run (shifted_add positive fresh callback) untouched).1

/-- The heartbeat, called for the first time a millisecond after it has been added and again by the
second pass in the next second, with an entry added and removed beside it. -/
def heartbeats : List (CallEveryAction String) :=
  [.outside (.tick 1000000), .begin, .round [.add (some "ping") 5 80, .tick 1000000], .round [],
    .outside (.tick 998000000), .begin, .round [], .round [.remove 80], .outside (.tick 2000000),
    .begin, .round []]

theorem notFast_heartbeats :
    NotFast 1 0 (callsOf 64 (machine.log
      (during { clock := 0 } (.add (some "send_heartbeat") 1 64)) heartbeats)) := by
  have run := machine.run_last (during { clock := 0 } (.add (some "send_heartbeat") 1 64))
    heartbeats (by decide +kernel)
  exact (notFast_iff 1 (by norm_num)).mpr ⟨1000, by norm_num⟩ { clock := 0 } _ _ 64 _
    (by decide) run (by decide +kernel)

/-- An entry to be called every one and a half milliseconds is called every millisecond. -/
theorem three_halves_fast :
    ¬∀ (interval : ℚ) (first last : CallEveryLoop String) (callback : Option String)
        (cookie : Cookie) (log : List (Step String)), 0 < interval → cookie ∉ first.cookies →
      machine.Run (first.during (.add callback interval cookie)) log last →
      (∀ taken ∈ log, UntouchedBy cookie taken.action) →
        NotFast interval first.clock (callsOf cookie log) := by
  intro all
  have notWhole (milliseconds : Nat) : (3 / 2000 : ℚ) * 1000 ≠ milliseconds := by
    intro whole
    have twice : (3 : ℚ) = 2 * milliseconds := by linarith
    have impossible : 3 = 2 * milliseconds := by exact_mod_cast twice
    omega
  obtain ⟨log, last, run, untouched, fast⟩ :=
    exists_fast (by norm_num : (0 : ℚ) < 3 / 2000) notWhole "poll" 0 64
  exact fast (all (3 / 2000) _ last _ 64 log (by norm_num) (by decide) run untouched)

end CallEveryLoop
end PilotingMavsdk
