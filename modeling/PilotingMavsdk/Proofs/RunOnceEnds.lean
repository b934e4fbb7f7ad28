import Mathlib.Data.Fintype.EquivFin
import PilotingMavsdk.Library.Keyed
import PilotingMavsdk.RunOnceLoop

/-! `run_once` ends unless it comes to an expired timer whose callback is empty. Each callback uses
up a timer that may expire during this call, and new ones cannot; between callbacks the loop starts
over at most once and then walks to the end of the table. -/

namespace PilotingMavsdk
open Library

theorem swapNeighbours_perm {α : Type} (place : Nat) (items : List α) :
    (swapNeighbours place items).Perm items := by
  induction place generalizing items with
  | zero =>
    rcases items with _ | ⟨first, _ | ⟨second, rest⟩⟩
    · exact .refl _
    · exact .refl _
    · exact .swap first second rest
  | succ place ih =>
    cases items with
    | nil => exact .refl _
    | cons first rest => exact (ih rest).cons first

namespace RunOnceLoop
variable {Callback : Type}

private theorem since_eq {before after : List (Timeout (Option Callback))}
    {timeout : Timeout (Option Callback)}
    (distinct : ((before ++ timeout :: after).map Timeout.cookie).Nodup) :
    since timeout.cookie (before ++ timeout :: after) = timeout :: after := by
  induction before with
  | nil => simp [since]
  | cons other before ih =>
    rw [List.cons_append, List.map_cons, List.nodup_cons] at distinct
    have different : other.cookie ≠ timeout.cookie := by
      intro same
      apply distinct.1
      rw [same]
      exact List.mem_map_of_mem (by simp)
    rw [List.cons_append, since, List.dropWhile_cons_of_pos (by simpa using different)]
    exact ih distinct.2

private theorem next_eq {before after : List (Timeout (Option Callback))}
    {timeout : Timeout (Option Callback)}
    (distinct : ((before ++ timeout :: after).map Timeout.cookie).Nodup) :
    next timeout.cookie (before ++ timeout :: after) = first after := by
  rw [next, since_eq distinct, List.tail_cons]

def remaining (loop : RunOnceLoop Callback) : Nat :=
  match loop.it with
  | none => 0
  | some cookie => (since cookie loop.timeouts).length

def Placed (loop : RunOnceLoop Callback) : Prop :=
  ∀ cookie, loop.it = some cookie → cookie ∈ loop.cookies

private theorem placed_first {loop : RunOnceLoop Callback} (start : loop.it = first loop.timeouts) :
    loop.Placed := by
  intro cookie here
  rw [start, first, Option.map_eq_some_iff] at here
  obtain ⟨timeout, head, rfl⟩ := here
  exact List.mem_map_of_mem (List.mem_of_head? head)

private theorem placed_next {loop : RunOnceLoop Callback} {timeout : Timeout (Option Callback)}
    (distinct : loop.cookies.Nodup) (member : timeout ∈ loop.timeouts) :
    ∀ cookie, next timeout.cookie loop.timeouts = some cookie →
      ∃ other ∈ loop.timeouts, other.cookie = cookie ∧ other.cookie ≠ timeout.cookie := by
  intro cookie here
  obtain ⟨before, after, split⟩ := List.append_of_mem member
  rw [cookies, split] at distinct
  rw [split, next_eq distinct, first, Option.map_eq_some_iff] at here
  obtain ⟨other, head, rfl⟩ := here
  have later := List.mem_of_head? head
  refine ⟨other, by rw [split]; simp [later], rfl, ?_⟩
  intro same
  rw [List.map_append, List.map_cons] at distinct
  have apart := (List.nodup_cons.mp (List.nodup_append.mp distinct).2.1).1
  exact apart (same ▸ List.mem_map_of_mem later)

theorem remaining_next {loop : RunOnceLoop Callback} {timeout : Timeout (Option Callback)}
    (distinct : loop.cookies.Nodup) (member : timeout ∈ loop.timeouts)
    (here : loop.it = some timeout.cookie) :
    { loop with it := next timeout.cookie loop.timeouts }.remaining < loop.remaining := by
  obtain ⟨before, after, split⟩ := List.append_of_mem member
  rw [cookies, split] at distinct
  have length : loop.remaining = after.length + 1 := by
    rw [remaining, here, split]
    simp only [since_eq distinct, List.length_cons]
  rw [length, remaining, split, next_eq distinct]
  cases after with
  | nil => exact Nat.zero_lt_one
  | cons other after =>
    have regrouped : before ++ timeout :: other :: after =
        (before ++ [timeout]) ++ other :: after := by simp
    rw [regrouped] at distinct ⊢
    simp only [first, List.head?_cons, Option.map_some, since_eq distinct, List.length_cons]
    omega

/-- The timer expires during this call, or would if it were refreshed. -/
def MayExpire (now : Int) (timeout : Timeout (Option Callback)) : Bool :=
  decide (timeout.time < now ∨ timeout.milliseconds < 0)

theorem mayExpire_iff {now : Int} {timeout : Timeout (Option Callback)} :
    MayExpire now timeout = true ↔ timeout.time < now ∨ timeout.milliseconds < 0 :=
  decide_eq_true_iff

/-- How many callbacks there can still be. -/
def potential (loop : RunOnceLoop Callback) : Nat := loop.timeouts.countP (MayExpire loop.now)

/-- Between two sections of the mutex; the iterator may dangle if the flag is set. -/
structure Sane (loop : RunOnceLoop Callback) : Prop where
  distinct : loop.cookies.Nodup
  clock : loop.now ≤ loop.clock
  placed : loop.iteratorInvalidated = false → loop.Placed

private theorem not_mayExpire {now clock milliseconds : Int} (later : now ≤ clock)
    (positive : 0 ≤ milliseconds) (cookie : Cookie) (callback : Option Callback) :
    MayExpire now ⟨cookie, callback, steadyTimeInFuture clock milliseconds, milliseconds⟩ =
      false := by
  rw [← Bool.not_eq_true, mayExpire_iff]
  simp only [steadyTimeInFuture]
  omega

private theorem during_now (loop : RunOnceLoop Callback) (operation : DuringCallback Callback) :
    (loop.during operation).now = loop.now := by
  cases operation with
  | tick | refresh | swap => rfl
  | add => simp only [during]; split <;> rfl
  | remove => simp only [during]; split <;> rfl

private theorem potential_during {loop : RunOnceLoop Callback} (later : loop.now ≤ loop.clock)
    (operation : DuringCallback Callback) : (loop.during operation).potential ≤ loop.potential := by
  cases operation with
  | tick => exact Nat.le_refl _
  | add callback milliseconds cookie =>
    simp only [during]
    split
    · exact Nat.le_refl _
    · have ahead := not_mayExpire later (Int.natCast_nonneg milliseconds) cookie callback
      simp [potential, List.countP_append, ahead]
  | refresh cookie =>
    simp only [during, potential, List.countP_map]
    apply List.countP_mono_left
    intro timeout _ expires
    simp only [Function.comp_apply] at expires
    split at expires
    · rw [mayExpire_iff] at expires ⊢
      simp only [steadyTimeInFuture] at expires
      omega
    · exact expires
  | remove cookie =>
    simp only [during]
    split
    · exact List.filter_sublist.countP_le
    · exact Nat.le_refl _
  | swap place =>
    simp only [during, potential]
    exact Nat.le_of_eq ((swapNeighbours_perm place loop.timeouts).countP_eq _)

theorem cookies_refreshed (loop : RunOnceLoop Callback) (cookie : Cookie) :
    (loop.during (.refresh cookie)).cookies = loop.cookies := by
  simp only [cookies, during, List.map_map]
  apply List.map_congr_left
  intro timeout _
  simp only [Function.comp_apply]
  split <;> rfl

theorem sane_during {loop : RunOnceLoop Callback} (sane : loop.Sane)
    (operation : DuringCallback Callback) : (loop.during operation).Sane := by
  cases operation with
  | tick nanoseconds =>
    refine ⟨sane.distinct, ?_, sane.placed⟩
    have later := sane.clock
    simp only [during]
    omega
  | add callback milliseconds cookie =>
    simp only [during]
    split
    · exact sane
    next fresh =>
      refine ⟨?_, sane.clock, ?_⟩
      · rw [cookies, List.map_append]
        apply List.nodup_append.mpr
        refine ⟨sane.distinct, by simp, ?_⟩
        intro other member single alone same
        have key : single = cookie := by simpa using alone
        rw [same, key] at member
        exact fresh member
      · intro valid other here
        rw [cookies, List.map_append]
        exact List.mem_append_left _ (sane.placed valid other here)
  | refresh cookie =>
    refine ⟨?_, sane.clock, ?_⟩
    · rw [cookies_refreshed]
      exact sane.distinct
    · intro valid other here
      rw [cookies_refreshed]
      exact sane.placed valid other here
  | remove cookie =>
    simp only [during]
    split
    · exact ⟨sane.distinct.sublist (List.filter_sublist.map _), sane.clock, nofun⟩
    · exact sane
  | swap place =>
    have same := (swapNeighbours_perm place loop.timeouts).map Timeout.cookie
    refine ⟨same.nodup_iff.mpr sane.distinct, sane.clock, ?_⟩
    intro valid other here
    exact same.mem_iff.mpr (sane.placed valid other here)

theorem window {loop : RunOnceLoop Callback} (sane : loop.Sane)
    (operations : List (DuringCallback Callback)) :
    (operations.foldl during loop).Sane ∧
      (operations.foldl during loop).now = loop.now ∧
      (operations.foldl during loop).potential ≤ loop.potential := by
  induction operations generalizing loop with
  | nil => exact ⟨sane, rfl, Nat.le_refl _⟩
  | cons operation operations ih =>
    obtain ⟨still, now, less⟩ := ih (sane_during sane operation)
    rw [List.foldl_cons]
    refine ⟨still, now.trans (during_now loop operation), ?_⟩
    exact Nat.le_trans less (potential_during sane.clock operation)

/-- At the head of the loop. The flag can only be set there before the first round. -/
structure Valid (loop : RunOnceLoop Callback) : Prop where
  distinct : loop.cookies.Nodup
  clock : loop.now ≤ loop.clock
  placed : loop.Placed
  begun : loop.iteratorInvalidated = true → loop.it = first loop.timeouts

theorem valid_begin (table : TimeoutMap Callback) (iteratorInvalidated : Bool) (now : Int) :
    (begin table iteratorInvalidated now).Valid :=
  ⟨table.property, Int.le_refl now, placed_first rfl, fun _ => rfl⟩

private theorem valid_startOver {loop : RunOnceLoop Callback} (sane : loop.Sane) :
    loop.startOver.Valid := by
  simp only [startOver]
  split
  · exact ⟨sane.distinct, sane.clock, placed_first rfl, nofun⟩
  next valid =>
    have unset : loop.iteratorInvalidated = false := by simpa using valid
    refine ⟨sane.distinct, sane.clock, sane.placed unset, ?_⟩
    intro set
    exact absurd set valid

theorem Valid.sane {loop : RunOnceLoop Callback} (valid : loop.Valid) : loop.Sane :=
  ⟨valid.distinct, valid.clock, fun _ => valid.placed⟩

/-- What one round can do. -/
inductive Round (loop : RunOnceLoop Callback) (operations : List (DuringCallback Callback)) :
    RunOnceLoop Callback → Prop where
  | ended (gone : loop.it = none) : Round loop operations loop
  | fires {timeout : Timeout (Option Callback)} (member : timeout ∈ loop.timeouts)
      (here : loop.it = some timeout.cookie) (expired : timeout.time < loop.now)
      (filled : timeout.callback ≠ none) :
      Round loop operations (loop.fire timeout.cookie operations).startOver
  | stays {timeout : Timeout (Option Callback)} (member : timeout ∈ loop.timeouts)
      (here : loop.it = some timeout.cookie) (expired : timeout.time < loop.now)
      (empty : timeout.callback = none) : Round loop operations loop.startOver
  | passes {timeout : Timeout (Option Callback)} (member : timeout ∈ loop.timeouts)
      (here : loop.it = some timeout.cookie) (unexpired : ¬timeout.time < loop.now) :
      Round loop operations { loop with it := next timeout.cookie loop.timeouts }.startOver

theorem Valid.found {loop : RunOnceLoop Callback} (valid : loop.Valid)
    {timeout : Timeout (Option Callback)} (member : timeout ∈ loop.timeouts) :
    loop.timeouts.find? (·.cookie = timeout.cookie) = some timeout :=
  (lookup_eq_some_iff valid.distinct).mpr ⟨member, rfl⟩

theorem Valid.round {loop : RunOnceLoop Callback} (valid : loop.Valid)
    (operations : List (DuringCallback Callback)) :
    loop.Round operations (loop.body operations) := by
  simp only [body]
  split
  next gone => exact .ended gone
  next cookie here =>
    obtain ⟨timeout, member, rfl⟩ := List.mem_map.mp (valid.placed cookie here)
    simp only [valid.found member]
    split
    next expired =>
      split
      next callback filled => exact .fires member here expired (by simp [filled])
      next empty => exact .stays member here expired empty
    next unexpired => exact .passes member here unexpired

theorem Valid.pointed {loop : RunOnceLoop Callback} (valid : loop.Valid)
    {timeout other : Timeout (Option Callback)} (member : timeout ∈ loop.timeouts)
    (here : loop.it = some timeout.cookie) (among : other ∈ loop.timeouts)
    (there : loop.it = some other.cookie) : timeout = other := by
  rw [here, Option.some_inj] at there
  exact List.inj_on_of_nodup_map valid.distinct member among there

/-- The table when the callback starts. -/
def erased (cookie : Cookie) (loop : RunOnceLoop Callback) : RunOnceLoop Callback :=
  { loop with
    it := next cookie loop.timeouts
    timeouts := loop.timeouts.filter (·.cookie ≠ cookie) }

theorem sane_erased {loop : RunOnceLoop Callback} (sane : loop.Sane)
    {timeout : Timeout (Option Callback)} (member : timeout ∈ loop.timeouts) :
    (loop.erased timeout.cookie).Sane := by
  refine ⟨sane.distinct.sublist (List.filter_sublist.map _), sane.clock, ?_⟩
  intro _ cookie here
  obtain ⟨other, present, rfl, different⟩ := placed_next sane.distinct member cookie here
  exact List.mem_map_of_mem (List.mem_filter.mpr ⟨present, by simpa using different⟩)

private theorem potential_fire {loop : RunOnceLoop Callback} (sane : loop.Sane)
    {timeout : Timeout (Option Callback)} (member : timeout ∈ loop.timeouts)
    (expired : timeout.time < loop.now) (operations : List (DuringCallback Callback)) :
    (loop.fire timeout.cookie operations).Sane ∧
      (loop.fire timeout.cookie operations).potential < loop.potential := by
  obtain ⟨still, _, less⟩ := window (sane_erased sane member) operations
  refine ⟨still, Nat.lt_of_le_of_lt less ?_⟩
  obtain ⟨before, after, split⟩ := List.append_of_mem member
  have sublist : (loop.erased timeout.cookie).timeouts.Sublist (before ++ after) := by
    have kept : (loop.erased timeout.cookie).timeouts =
        (before ++ after).filter (·.cookie ≠ timeout.cookie) := by
      simp [erased, split]
    rw [kept]
    exact List.filter_sublist
  have counted : (loop.erased timeout.cookie).potential ≤
      (before ++ after).countP (MayExpire loop.now) := sublist.countP_le
  have own : MayExpire loop.now timeout = true := mayExpire_iff.mpr (.inl expired)
  have all : loop.potential = (before ++ timeout :: after).countP (MayExpire loop.now) := by
    rw [potential, split]
  rw [all]
  simp only [List.countP_append, List.countP_cons, own, if_true] at counted ⊢
  omega

/-- Callbacks come first, then the flag, then the way to the end. -/
def measure (loop : RunOnceLoop Callback) : Nat × Nat × Nat :=
  (loop.potential, loop.iteratorInvalidated.toNat, loop.remaining)

def Smaller : Nat × Nat × Nat → Nat × Nat × Nat → Prop :=
  Prod.Lex (· < ·) (Prod.Lex (· < ·) (· < ·))

private theorem smaller_wellFounded : WellFounded Smaller :=
  WellFounded.prod_lex Nat.lt_wfRel.wf (WellFounded.prod_lex Nat.lt_wfRel.wf Nat.lt_wfRel.wf)

private theorem potential_startOver (loop : RunOnceLoop Callback) :
    loop.startOver.potential = loop.potential := by
  simp only [startOver]
  split <;> rfl

/-- A round without a callback keeps the table. It goes one element further, or it is the first one
and starts over. -/
private theorem passing {loop : RunOnceLoop Callback} (valid : loop.Valid)
    {timeout : Timeout (Option Callback)} (member : timeout ∈ loop.timeouts)
    (here : loop.it = some timeout.cookie) :
    { loop with it := next timeout.cookie loop.timeouts }.startOver.Valid ∧
      Smaller { loop with it := next timeout.cookie loop.timeouts }.startOver.measure
        loop.measure := by
  have sane : { loop with it := next timeout.cookie loop.timeouts }.Sane := by
    refine ⟨valid.distinct, valid.clock, ?_⟩
    intro _ cookie further
    obtain ⟨other, present, rfl, _⟩ := placed_next valid.distinct member cookie further
    exact List.mem_map_of_mem present
  refine ⟨valid_startOver sane, ?_⟩
  cases flag : loop.iteratorInvalidated with
  | true =>
    simp only [startOver, flag, if_true, measure, potential]
    exact .right _ (.left _ _ Nat.zero_lt_one)
  | false =>
    have further := remaining_next valid.distinct member here
    simp only [startOver, flag, Bool.false_eq_true, if_false, measure, potential]
    exact .right _ (.right _ further)

theorem Round.valid {loop after : RunOnceLoop Callback}
    {operations : List (DuringCallback Callback)} (round : loop.Round operations after)
    (valid : loop.Valid) : after.Valid := by
  cases round with
  | ended gone => exact valid
  | fires member here expired filled =>
    exact valid_startOver (potential_fire valid.sane member expired operations).1
  | stays member here expired empty => exact valid_startOver valid.sane
  | passes member here unexpired => exact (passing valid member here).1

theorem Round.smaller {loop after : RunOnceLoop Callback}
    {operations : List (DuringCallback Callback)} (round : loop.Round operations after)
    (valid : loop.Valid) (running : loop.it ≠ none) (free : ¬loop.Stuck) :
    Smaller after.measure loop.measure := by
  cases round with
  | ended gone => exact absurd gone running
  | fires member here expired filled =>
    rw [measure, potential_startOver]
    exact .left _ _ (potential_fire valid.sane member expired operations).2
  | stays member here expired empty => exact absurd ⟨_, member, here, expired, empty⟩ free
  | passes member here unexpired => exact (passing valid member here).2

/-- Nothing moves the iterator away from an expired timer without a callback. -/
theorem Round.stuck {loop after : RunOnceLoop Callback}
    {operations : List (DuringCallback Callback)} (round : loop.Round operations after)
    (valid : loop.Valid) (stuck : loop.Stuck) : after.Stuck := by
  obtain ⟨timeout, among, there, late, missing⟩ := stuck
  cases round with
  | ended gone =>
    rw [gone] at there
    cases there
  | fires member here expired filled =>
    cases valid.pointed member here among there
    exact absurd missing filled
  | stays member here expired empty =>
    rw [startOver]
    split
    next flag => exact ⟨timeout, among, (valid.begun flag).symm.trans there, late, missing⟩
    · exact ⟨timeout, among, there, late, missing⟩
  | passes member here unexpired =>
    cases valid.pointed member here among there
    exact absurd late unexpired

section
variable (table : TimeoutMap Callback) (iteratorInvalidated : Bool) (now : Int)
  (windows : Nat → List (DuringCallback Callback))

private theorem valid_round (rounds : Nat) :
    (iterate body windows (begin table iteratorInvalidated now) rounds).Valid := by
  have start := valid_begin table iteratorInvalidated now
  apply @iterate_invariant _ _ body Valid _ windows _ start rounds
  intro operations loop valid
  exact (valid.round operations).valid valid

private theorem gone_round {final : Nat}
    (ended : (iterate body windows (begin table iteratorInvalidated now) final).it = none)
    (more : Nat) :
    (iterate body windows (begin table iteratorInvalidated now) (final + more)).it = none := by
  apply @iterate_persists _ _ body (fun loop => loop.it = none) windows _ _ final ended more
  intro count gone
  simp only [iterate, body, gone]

/-- Once stuck, the loop holds the mutex for ever. -/
private theorem not_ends_of_stuck {rounds : Nat}
    (stuck : (iterate body windows (begin table iteratorInvalidated now) rounds).Stuck) :
    ¬(begin table iteratorInvalidated now).Ends windows := by
  rintro ⟨final, ended⟩
  have later : (iterate body windows (begin table iteratorInvalidated now)
      (rounds + final)).Stuck := by
    apply @iterate_persists _ _ body Stuck windows _ _ rounds stuck final
    intro count here
    have valid := valid_round table iteratorInvalidated now windows count
    exact (valid.round (windows count)).stuck valid here
  have left := gone_round table iteratorInvalidated now windows ended rounds
  obtain ⟨timeout, _, here, _⟩ := later
  rw [Nat.add_comm, left] at here
  cases here

private theorem ends_iff_free : (begin table iteratorInvalidated now).Ends windows ↔
    ∀ rounds, ¬(iterate body windows (begin table iteratorInvalidated now) rounds).Stuck := by
  constructor
  · intro ends rounds stuck
    exact not_ends_of_stuck table iteratorInvalidated now windows stuck ends
  · intro free
    show ∃ rounds, (iterate body windows (begin table iteratorInvalidated now) rounds).it = none
    apply @iterate_ends _ _ body _ _ smaller_wellFounded measure (fun loop => loop.it = none)
    intro count running
    have valid := valid_round table iteratorInvalidated now windows count
    exact (valid.round (windows count)).smaller valid running (free count)

end

/-- Without a callback a timer neither has expired nor, if there will be a callback that could
refresh it, does so when it is refreshed. -/
def Harmless (timeouts : List (Timeout (Option Callback))) (now : Int) : Prop :=
  ∀ timeout ∈ timeouts, timeout.callback = none → now ≤ timeout.time ∧
    (0 ≤ timeout.milliseconds ∨
      ∀ other ∈ timeouts, other.callback ≠ none → now ≤ other.time)

/-- Timers without a callback will not expire during this call. -/
def Filled (loop : RunOnceLoop Callback) : Prop :=
  ∀ timeout ∈ loop.timeouts, timeout.callback = none → MayExpire loop.now timeout = false

private theorem filled_during {loop : RunOnceLoop Callback} (later : loop.now ≤ loop.clock)
    (filled : loop.Filled) (operation : DuringCallback Callback) :
    (loop.during operation).Filled := by
  cases operation with
  | tick => exact filled
  | add callback milliseconds cookie =>
    simp only [during]
    split
    · exact filled
    · intro timeout member empty
      rcases List.mem_append.mp member with old | new
      · exact filled timeout old empty
      · rw [List.mem_singleton] at new
        subst new
        exact not_mayExpire later (Int.natCast_nonneg milliseconds) cookie callback
  | refresh cookie =>
    intro timeout member empty
    obtain ⟨old, present, rfl⟩ := List.mem_map.mp member
    split at empty
    next same =>
      have before := filled old present empty
      rw [← Bool.not_eq_true, mayExpire_iff] at before
      rw [if_pos same]
      have positive : 0 ≤ old.milliseconds := by omega
      exact not_mayExpire later positive old.cookie old.callback
    next different =>
      rw [if_neg different]
      exact filled old present empty
  | remove cookie =>
    simp only [during]
    split
    · intro timeout member
      exact filled timeout (List.mem_of_mem_filter member)
    · exact filled
  | swap place =>
    intro timeout member
    exact filled timeout ((swapNeighbours_perm place loop.timeouts).mem_iff.mp member)

private theorem filled_window {loop : RunOnceLoop Callback} (sane : loop.Sane)
    (filled : loop.Filled)
    (operations : List (DuringCallback Callback)) : (operations.foldl during loop).Filled := by
  induction operations generalizing loop with
  | nil => exact filled
  | cons operation operations ih =>
    exact ih (sane_during sane operation) (filled_during sane.clock filled operation)

theorem startOver_timeouts (loop : RunOnceLoop Callback) :
    loop.startOver.timeouts = loop.timeouts := by
  simp only [startOver]
  split <;> rfl

theorem startOver_now (loop : RunOnceLoop Callback) : loop.startOver.now = loop.now := by
  simp only [startOver]
  split <;> rfl

private theorem filled_startOver {loop : RunOnceLoop Callback} (filled : loop.Filled) :
    loop.startOver.Filled := by
  intro timeout member empty
  rw [startOver_timeouts] at member
  rw [startOver_now]
  exact filled timeout member empty

theorem Round.filled {loop after : RunOnceLoop Callback}
    {operations : List (DuringCallback Callback)} (round : loop.Round operations after)
    (valid : loop.Valid) (filled : loop.Filled) : after.Filled := by
  cases round with
  | ended gone => exact filled
  | fires member here expired given =>
    apply filled_startOver
    apply filled_window (sane_erased valid.sane member)
    intro other present
    exact filled other (List.mem_of_mem_filter present)
  | stays member here expired empty => exact filled_startOver filled
  | passes member here unexpired => exact filled_startOver filled

def Quiet (loop : RunOnceLoop Callback) : Prop :=
  ∀ timeout ∈ loop.timeouts, loop.now ≤ timeout.time

theorem Round.quiet {loop after : RunOnceLoop Callback}
    {operations : List (DuringCallback Callback)} (round : loop.Round operations after)
    (quiet : loop.Quiet) : after.Quiet := by
  cases round with
  | ended gone => exact quiet
  | fires member here expired filled => exact absurd expired (Int.not_lt.mpr (quiet _ member))
  | stays member here expired empty => exact absurd expired (Int.not_lt.mpr (quiet _ member))
  | passes member here unexpired =>
    intro other present
    rw [startOver_timeouts] at present
    rw [startOver_now]
    exact quiet other present

theorem ends_of_harmless (table : TimeoutMap Callback) (iteratorInvalidated : Bool) (now : Int)
    (harmless : Harmless table.val now) (windows : Nat → List (DuringCallback Callback)) :
    (begin table iteratorInvalidated now).Ends windows := by
  apply (ends_iff_free table iteratorInvalidated now windows).mpr
  intro rounds ⟨timeout, member, _, expired, empty⟩
  have valid := valid_round table iteratorInvalidated now windows
  by_cases quiet : (begin table iteratorInvalidated now).Quiet
  · have still : ∀ count,
        (iterate body windows (begin table iteratorInvalidated now) count).Quiet := by
      intro count
      induction count with
      | zero => exact quiet
      | succ count ih => exact ((valid count).round (windows count)).quiet ih
    exact absurd expired (Int.not_lt.mpr (still rounds timeout member))
  · have filled : (begin table iteratorInvalidated now).Filled := by
      intro waiting present missing
      obtain ⟨later, positive | unfired⟩ := harmless waiting present missing
      · rw [← Bool.not_eq_true, mayExpire_iff]
        simp only [begin]
        omega
      · refine absurd ?_ quiet
        intro other among
        cases filling : other.callback with
        | none => exact (harmless other among filling).1
        | some callback => exact unfired other among (by simp [filling])
    have still : ∀ count,
        (iterate body windows (begin table iteratorInvalidated now) count).Filled := by
      intro count
      induction count with
      | zero => exact filled
      | succ count ih => exact ((valid count).round (windows count)).filled (valid count) ih
    have unexpired := still rounds timeout member empty
    rw [← Bool.not_eq_true, mayExpire_iff] at unexpired
    exact unexpired (.inl expired)

/-- The iterator has still to come to this timer, which has expired. -/
structure Ahead (timeout : Timeout (Option Callback)) (loop : RunOnceLoop Callback) : Prop where
  member : timeout ∈ loop.timeouts
  expired : timeout.time < loop.now
  ahead : loop.iteratorInvalidated = true ∨
    ∃ cookie, loop.it = some cookie ∧ timeout ∈ since cookie loop.timeouts

theorem ahead_next {timeouts : List (Timeout (Option Callback))}
    {passed timeout : Timeout (Option Callback)} (distinct : (timeouts.map Timeout.cookie).Nodup)
    (member : passed ∈ timeouts) (different : timeout ≠ passed)
    (ahead : timeout ∈ since passed.cookie timeouts) :
    ∃ cookie, next passed.cookie timeouts = some cookie ∧ timeout ∈ since cookie timeouts ∧
      timeout ∈ since cookie (timeouts.filter (·.cookie ≠ passed.cookie)) := by
  obtain ⟨before, after, split⟩ := List.append_of_mem member
  rw [split] at distinct ahead
  rw [since_eq distinct] at ahead
  have behind : timeout ∈ after := by
    rcases List.mem_cons.mp ahead with same | later
    · exact absurd same different
    · exact later
  cases after with
  | nil => cases behind
  | cons other after =>
    refine ⟨other.cookie, by rw [split, next_eq distinct]; rfl, ?_, ?_⟩
    · have regrouped : before ++ passed :: other :: after =
          (before ++ [passed]) ++ other :: after := by simp
      rw [split, regrouped]
      rw [regrouped] at distinct
      rwa [since_eq distinct]
    · rw [List.map_append, List.map_cons] at distinct
      have parts := List.nodup_append.mp distinct
      have later := (List.nodup_cons.mp parts.2.1).1
      have unlike : ∀ item ∈ before ++ other :: after, item.cookie ≠ passed.cookie := by
        intro item among same
        rcases List.mem_append.mp among with early | late
        · exact parts.2.2 _ (List.mem_map_of_mem early) _ List.mem_cons_self same
        · exact later (same ▸ List.mem_map_of_mem late)
      have kept : timeouts.filter (·.cookie ≠ passed.cookie) = before ++ other :: after := by
        rw [split, List.filter_append, List.filter_cons_of_neg (by simp), ← List.filter_append]
        apply List.filter_eq_self.mpr
        intro item among
        simpa using unlike item among
      have fewer : ((before ++ other :: after).map Timeout.cookie).Nodup := by
        rw [List.map_append]
        apply List.nodup_append.mpr
        refine ⟨parts.1, (List.nodup_cons.mp parts.2.1).2, ?_⟩
        intro early first late second
        exact parts.2.2 early first late (List.mem_cons_of_mem _ second)
      rw [kept, since_eq fewer]
      exact behind

theorem ahead_startOver {timeout : Timeout (Option Callback)} {loop : RunOnceLoop Callback}
    (ahead : loop.Ahead timeout) : loop.startOver.Ahead timeout := by
  refine ⟨?_, ?_, ?_⟩
  · rw [startOver_timeouts]
    exact ahead.member
  · rw [startOver_now]
    exact ahead.expired
  · right
    simp only [startOver]
    split
    · obtain ⟨other, rest, whole⟩ := List.exists_cons_of_ne_nil (List.ne_nil_of_mem ahead.member)
      refine ⟨other.cookie, by simp [whole, first], ?_⟩
      have member := ahead.member
      simp only [whole, since, List.dropWhile] at member ⊢
      simpa using member
    next valid => exact ahead.ahead.resolve_left valid

/-- As long as callbacks do nothing, only its own callback takes away an expired timer, when the
iterator has come to it. -/
theorem Round.ahead {timeout : Timeout (Option Callback)} {loop after : RunOnceLoop Callback}
    (round : loop.Round [] after) (valid : loop.Valid) (ahead : loop.Ahead timeout)
    (untouched : timeout.callback = none ∨ loop.it ≠ some timeout.cookie) :
    after.Ahead timeout := by
  have behind {pointee : Timeout (Option Callback)} (member : pointee ∈ loop.timeouts)
      (here : loop.it = some pointee.cookie) (different : timeout ≠ pointee) :
      loop.iteratorInvalidated = true ∨
        ∃ cookie, next pointee.cookie loop.timeouts = some cookie ∧
          timeout ∈ since cookie loop.timeouts ∧
          timeout ∈ since cookie (loop.timeouts.filter (·.cookie ≠ pointee.cookie)) := by
    refine ahead.ahead.imp_right ?_
    rintro ⟨cookie, same, later⟩
    rw [here, Option.some_inj] at same
    subst same
    exact ahead_next valid.distinct member different later
  cases round with
  | ended gone => exact ahead
  | @fires pointee member here expired filled =>
    have different : timeout ≠ pointee := by
      rintro rfl
      rcases untouched with empty | elsewhere
      · exact filled empty
      · exact elsewhere here
    have unlike : timeout.cookie ≠ pointee.cookie := by
      intro same
      exact different (List.inj_on_of_nodup_map valid.distinct ahead.member member same)
    apply ahead_startOver
    refine ⟨?_, ahead.expired, ?_⟩
    · exact List.mem_filter.mpr ⟨ahead.member, by simpa using unlike⟩
    · refine (behind member here different).imp_right ?_
      rintro ⟨cookie, further, _, later⟩
      exact ⟨cookie, further, later⟩
  | stays member here expired empty => exact ahead_startOver ahead
  | @passes pointee member here unexpired =>
    have different : timeout ≠ pointee := by
      rintro rfl
      exact unexpired ahead.expired
    apply ahead_startOver
    refine ⟨ahead.member, ahead.expired, ?_⟩
    refine (behind member here different).imp_right ?_
    rintro ⟨cookie, further, later, _⟩
    exact ⟨cookie, further, later⟩

theorem ahead_running {timeout : Timeout (Option Callback)} {loop : RunOnceLoop Callback}
    (valid : loop.Valid) (ahead : loop.Ahead timeout) : loop.it ≠ none := by
  rcases ahead.ahead with flag | ⟨cookie, here, _⟩
  · rw [valid.begun flag, first]
    intro empty
    rw [Option.map_eq_none_iff, List.head?_eq_none_iff] at empty
    have member := ahead.member
    rw [empty] at member
    cases member
  · rw [here]
    exact Option.some_ne_none cookie

section
variable (table : TimeoutMap Callback) (iteratorInvalidated : Bool) (now : Int)

theorem ahead_begin {timeout : Timeout (Option Callback)} (member : timeout ∈ table.val)
    (expired : timeout.time < now) : (begin table iteratorInvalidated now).Ahead timeout := by
  obtain ⟨other, rest, whole⟩ := List.exists_cons_of_ne_nil (List.ne_nil_of_mem member)
  refine ⟨member, expired, .inr ⟨other.cookie, by simp [begin, whole, first], ?_⟩⟩
  simp only [begin, whole, since, List.dropWhile] at member ⊢
  simpa using member

/-- If callbacks do nothing from some round on, an expired timer without a callback that is still
ahead then holds up the loop. -/
private theorem not_ends_of_ahead {windows : Nat → List (DuringCallback Callback)} {round : Nat}
    {timeout : Timeout (Option Callback)} (empty : timeout.callback = none)
    (idle : ∀ later, round ≤ later → windows later = [])
    (ahead : (iterate body windows (begin table iteratorInvalidated now) round).Ahead timeout) :
    ¬(begin table iteratorInvalidated now).Ends windows := by
  rintro ⟨final, ended⟩
  have valid := valid_round table iteratorInvalidated now windows
  have still : (iterate body windows (begin table iteratorInvalidated now)
      (round + final)).Ahead timeout := by
    have further : ∀ more, (iterate body windows (begin table iteratorInvalidated now)
        (round + more)).Ahead timeout := by
      intro more
      induction more with
      | zero => exact ahead
      | succ more ih =>
        show (body (windows (round + more)) _).Ahead timeout
        rw [idle _ (Nat.le_add_right round more)]
        exact ((valid _).round []).ahead (valid _) ih (.inl empty)
    exact further final
  have left : (iterate body windows (begin table iteratorInvalidated now)
      (final + round)).it = none :=
    gone_round table iteratorInvalidated now windows ended round
  rw [Nat.add_comm] at left
  exact ahead_running (valid _) still left

private theorem comes_to {timeout : Timeout (Option Callback)} (member : timeout ∈ table.val)
    (expired : timeout.time < now) (ends : (begin table iteratorInvalidated now).Ends fun _ => []) :
    ∃ round,
      (iterate body (fun _ => []) (begin table iteratorInvalidated now) round).Ahead timeout ∧
      (iterate body (fun _ => []) (begin table iteratorInvalidated now) round).it =
        some timeout.cookie := by
  have valid := valid_round table iteratorInvalidated now fun _ => []
  by_contra never
  have ahead : ∀ round,
      (iterate body (fun _ => []) (begin table iteratorInvalidated now) round).Ahead timeout := by
    intro round
    induction round with
    | zero => exact ahead_begin table iteratorInvalidated now member expired
    | succ round ih =>
      exact ((valid round).round []).ahead (valid round) ih
        (.inr fun here => never ⟨round, ih, here⟩)
  obtain ⟨final, ended⟩ := ends
  exact ahead_running (valid final) (ahead final) ended

theorem startOver_clock (loop : RunOnceLoop Callback) : loop.startOver.clock = loop.clock := by
  simp only [startOver]
  split <;> rfl

theorem Round.idle {timeout : Timeout (Option Callback)} {loop after : RunOnceLoop Callback}
    (round : loop.Round [] after) (valid : loop.Valid) (empty : timeout.callback = none)
    (member : timeout ∈ loop.timeouts) :
    timeout ∈ after.timeouts ∧ after.clock = loop.clock ∧ after.now = loop.now := by
  cases round with
  | ended gone => exact ⟨member, rfl, rfl⟩
  | @fires pointee present here expired filled =>
    rw [startOver_timeouts, startOver_clock, startOver_now]
    refine ⟨List.mem_filter.mpr ⟨member, ?_⟩, rfl, rfl⟩
    have unlike : timeout.cookie ≠ pointee.cookie := by
      intro same
      rw [← List.inj_on_of_nodup_map valid.distinct member present same] at filled
      exact filled empty
    simpa using unlike
  | stays present here expired missing =>
    rw [startOver_timeouts, startOver_clock, startOver_now]
    exact ⟨member, rfl, rfl⟩
  | passes present here unexpired =>
    rw [startOver_timeouts, startOver_clock, startOver_now]
    exact ⟨member, rfl, rfl⟩

/-- A callback that refreshes a timer, and adds and removes another one. -/
def refreshing (cookie fresh : Cookie) : List (DuringCallback Callback) :=
  [.refresh cookie, .add none 0 fresh, .remove fresh]

def renewed (clock : Int) (timeout : Timeout (Option Callback)) : Timeout (Option Callback) :=
  { timeout with time := steadyTimeInFuture clock timeout.milliseconds }

private theorem during_add {loop : RunOnceLoop Callback} {cookie : Cookie}
    (absent : cookie ∉ loop.cookies) (callback : Option Callback) (milliseconds : Nat) :
    loop.during (.add callback milliseconds cookie) = { loop with timeouts := loop.timeouts ++
      [⟨cookie, callback, steadyTimeInFuture loop.clock milliseconds, milliseconds⟩] } :=
  if_neg absent

private theorem during_remove {loop : RunOnceLoop Callback} {cookie : Cookie}
    (present : cookie ∈ loop.cookies) :
    loop.during (.remove cookie) = { loop with
      timeouts := loop.timeouts.filter (·.cookie ≠ cookie)
      iteratorInvalidated := true } :=
  if_pos present

private theorem ahead_refreshing {loop : RunOnceLoop Callback} (unmoved : loop.clock = loop.now)
    {timeout pointee : Timeout (Option Callback)} (member : timeout ∈ loop.timeouts)
    (negative : timeout.milliseconds < 0) (different : timeout.cookie ≠ pointee.cookie)
    {fresh : Cookie} (unused : fresh ∉ loop.cookies) :
    (loop.fire pointee.cookie (refreshing timeout.cookie fresh)).startOver.Ahead
      (renewed loop.clock timeout) := by
  have fresh_ne : timeout.cookie ≠ fresh := by
    rintro rfl
    exact unused (List.mem_map_of_mem member)
  let refreshed := (loop.timeouts.filter (·.cookie ≠ pointee.cookie)).map fun item =>
    if item.cookie = timeout.cookie then renewed loop.clock item else item
  have unadded : fresh ∉ refreshed.map Timeout.cookie := by
    intro added
    obtain ⟨item, among, equal⟩ := List.mem_map.mp added
    obtain ⟨old, present, rfl⟩ := List.mem_map.mp among
    apply unused
    rw [← equal]
    refine List.mem_map.mpr ⟨old, List.mem_of_mem_filter present, ?_⟩
    split <;> rfl
  have renewed_mem : renewed loop.clock timeout ∈ refreshed := by
    refine List.mem_map.mpr ⟨timeout, List.mem_filter.mpr ⟨member, by simpa using different⟩, ?_⟩
    rw [if_pos rfl]
  let added : Timeout (Option Callback) := ⟨fresh, none, steadyTimeInFuture loop.clock 0, 0⟩
  have fired : loop.fire pointee.cookie (refreshing timeout.cookie fresh) =
      { loop with
        it := next pointee.cookie loop.timeouts
        timeouts := (refreshed ++ [added]).filter (·.cookie ≠ fresh)
        iteratorInvalidated := true } := by
    have step : (loop.erased pointee.cookie).during (.refresh timeout.cookie) =
        { loop.erased pointee.cookie with timeouts := refreshed } := rfl
    show (((loop.erased pointee.cookie).during (.refresh timeout.cookie)).during
      (.add none 0 fresh)).during (.remove fresh) = _
    rw [step, during_add unadded, during_remove (by simp [cookies])]
    rfl
  rw [fired]
  apply ahead_startOver
  refine ⟨?_, ?_, .inl rfl⟩
  · refine List.mem_filter.mpr ⟨List.mem_append_left _ renewed_mem, ?_⟩
    exact decide_eq_true fresh_ne
  · simp only [renewed, steadyTimeInFuture, unmoved]
    omega

private theorem Round.refreshing {loop after : RunOnceLoop Callback}
    {timeout other : Timeout (Option Callback)} {fresh : Cookie}
    (round : loop.Round (refreshing timeout.cookie fresh) after) (valid : loop.Valid)
    (unmoved : loop.clock = loop.now) (member : timeout ∈ loop.timeouts)
    (negative : timeout.milliseconds < 0) (among : other ∈ loop.timeouts)
    (different : timeout.cookie ≠ other.cookie) (here : loop.it = some other.cookie)
    (expired : other.time < loop.now) (filled : other.callback ≠ none)
    (unused : fresh ∉ loop.cookies) : after.Ahead (renewed loop.clock timeout) := by
  cases round with
  | ended gone =>
    rw [gone] at here
    cases here
  | fires present there late given =>
    cases valid.pointed present there among here
    exact ahead_refreshing unmoved member negative different unused
  | stays present there late empty =>
    cases valid.pointed present there among here
    exact absurd empty filled
  | passes present there unexpired =>
    cases valid.pointed present there among here
    exact absurd expired unexpired

private theorem harmless_of_ends
    (ends : ∀ windows, (begin table iteratorInvalidated now).Ends windows) :
    Harmless table.val now := by
  intro timeout member empty
  have valid := valid_round table iteratorInvalidated now fun _ => []
  have later : now ≤ timeout.time := by
    by_contra early
    have ahead := ahead_begin table iteratorInvalidated now member (Int.not_le.mp early)
    exact not_ends_of_ahead table iteratorInvalidated now empty (fun _ _ => rfl)
      (show (iterate body (fun _ => []) (begin table iteratorInvalidated now) 0).Ahead timeout
        from ahead) (ends _)
  refine ⟨later, ?_⟩
  by_contra both
  push Not at both
  obtain ⟨negative, other, among, filled, expired⟩ := both
  obtain ⟨round, ahead, here⟩ := comes_to table iteratorInvalidated now among expired (ends _)
  have idle : ∀ count, timeout ∈
        (iterate body (fun _ => []) (begin table iteratorInvalidated now) count).timeouts ∧
      (iterate body (fun _ => []) (begin table iteratorInvalidated now) count).clock = now ∧
      (iterate body (fun _ => []) (begin table iteratorInvalidated now) count).now = now := by
    intro count
    induction count with
    | zero => exact ⟨member, rfl, rfl⟩
    | succ count ih =>
      obtain ⟨present, clock, same⟩ := ((valid count).round []).idle (valid count) empty ih.1
      exact ⟨present, clock.trans ih.2.1, same.trans ih.2.2⟩
  obtain ⟨present, clock, same⟩ := idle round
  obtain ⟨fresh, unused⟩ := Infinite.exists_notMem_finset
    (iterate body (fun _ => []) (begin table iteratorInvalidated now) round).cookies.toFinset
  let windows : Nat → List (DuringCallback Callback) := fun count =>
    if count = round then refreshing timeout.cookie fresh else []
  have before : iterate body windows (begin table iteratorInvalidated now) round =
      iterate body (fun _ => []) (begin table iteratorInvalidated now) round := by
    apply iterate_congr
    intro earlier less
    exact if_neg (Nat.ne_of_lt less)
  have unlike : timeout.cookie ≠ other.cookie := by
    intro equal
    rw [List.inj_on_of_nodup_map table.property member among equal] at empty
    exact filled empty
  have refreshed := ((valid round).round (refreshing timeout.cookie fresh)).refreshing
    (valid round) (clock.trans same.symm) present negative ahead.member unlike here ahead.expired
    filled (by simpa using unused)
  have after : (iterate body windows (begin table iteratorInvalidated now) (round + 1)).Ahead
      (renewed now timeout) := by
    rw [iterate, before]
    simpa only [windows, if_pos, clock] using refreshed
  have unfilled : (renewed now timeout).callback = none := empty
  refine not_ends_of_ahead table iteratorInvalidated now unfilled ?_ after (ends windows)
  intro count less
  exact if_neg (by omega)

/-- `run_once` ends whatever its callbacks do if and only if all timers without a callback are
harmless, and in each single run if and only if it comes to none of them after it has expired. -/
theorem ends_iff :
    ((∀ windows, (begin table iteratorInvalidated now).Ends windows) ↔
      Harmless table.val now) ∧
    ∀ windows, (begin table iteratorInvalidated now).Ends windows ↔
      ∀ rounds, ¬(iterate body windows (begin table iteratorInvalidated now) rounds).Stuck :=
  ⟨⟨harmless_of_ends table iteratorInvalidated now,
    ends_of_harmless table iteratorInvalidated now⟩,
    ends_iff_free table iteratorInvalidated now⟩

end

/-- A timer without a callback that has expired when `run_once` comes to it stays where it is. -/
theorem never_ends : ¬∀ (table : TimeoutMap Unit) (iteratorInvalidated : Bool) (now : Int)
    (windows : Nat → List (DuringCallback Unit)),
    (begin table iteratorInvalidated now).Ends windows := by
  intro ends
  let table : TimeoutMap Unit := ⟨[⟨16, none, 0, 1000⟩], by simp⟩
  have stuck : (iterate body (fun _ => []) (begin table false 1) 0).Stuck :=
    ⟨⟨16, none, 0, 1000⟩, by simp [iterate, begin, table], rfl, by decide, rfl⟩
  exact not_ends_of_stuck table false 1 _ stuck (ends table false 1 _)

end RunOnceLoop
end PilotingMavsdk
