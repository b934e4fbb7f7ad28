import PilotingMavsdk.Proofs.RunOnce

/-! Cookies that outlive their timer. A key is the address of a freed object, so it may come back
for the timer of another owner while the first one still keeps it. -/

namespace PilotingMavsdk
open Library

namespace TimerOwners
variable {Owner : Type}

/-- If the owner now passed its cookie to `remove` or `refresh`, all timers of the others would
stay as they are. -/
def Harmless (owners : TimerOwners Owner) (owner : Owner) : Prop :=
  ∀ timeout ∈ owners.handler.timeouts, timeout.callback ≠ owner →
    timeout ∈ (owners.handler.remove (owners.stored owner)).timeouts ∧
      ∀ now, timeout ∈ (owners.handler.refresh (owners.stored owner) now).timeouts

def AllHarmless (owners : TimerOwners Owner) : Prop :=
  ∀ owner, owners.destroyed owner = false → owners.Harmless owner

private theorem harmless_iff {owners : TimerOwners Owner} {owner : Owner} :
    owners.Harmless owner ↔ ∀ timeout ∈ owners.handler.timeouts, timeout.callback ≠ owner →
      timeout.cookie ≠ owners.stored owner := by
  constructor
  · intro harmless timeout present other
    exact (TimeoutHandler.mem_remove.mp (harmless timeout present other).1).2
  · intro apart timeout present other
    have different := apart timeout present other
    refine ⟨TimeoutHandler.mem_remove.mpr ⟨present, different⟩, ?_⟩
    intro now
    refine List.mem_map.mpr ⟨timeout, present, ?_⟩
    rw [if_neg different]

private theorem Harmless.of_fewer {owners after : TimerOwners Owner} {owner : Owner}
    (harmless : owners.Harmless owner) (same : after.stored owner = owners.stored owner)
    (fewer : ∀ timeout ∈ after.handler.timeouts, ∃ old ∈ owners.handler.timeouts,
      timeout.cookie = old.cookie ∧ timeout.callback = old.callback) : after.Harmless owner := by
  rw [harmless_iff] at harmless ⊢
  intro timeout present other
  obtain ⟨old, inside, cookie, callback⟩ := fewer timeout present
  rw [same, cookie]
  exact harmless old inside (callback ▸ other)

private theorem fewer_remove {cookie : Cookie} {handler : TimeoutHandler Owner} :
    ∀ timeout ∈ (handler.remove cookie).timeouts, ∃ old ∈ handler.timeouts,
      timeout.cookie = old.cookie ∧ timeout.callback = old.callback :=
  fun timeout member => ⟨timeout, (TimeoutHandler.mem_remove.mp member).1, rfl, rfl⟩

private theorem allHarmless_initial : AllHarmless ({} : TimerOwners Owner) := by
  intro owner _ timeout present
  cases present

/-- If the step is an `add`, no other living owner still keeps the key that it gets. -/
def Unstored (taken : Taken (TimerOwners Owner) (OwnerAction Owner) Unit) : Prop :=
  match taken.action with
  | .add owner _ _ cookie => ∀ other, other ≠ owner → taken.before.destroyed other = false →
    taken.before.stored other ≠ cookie
  | _ => True

variable [DecidableEq Owner]

inductive Stepped (owners : TimerOwners Owner) :
    OwnerAction Owner → TimerOwners Owner → Prop where
  | add {owner : Owner} {milliseconds now : Int} {cookie : Cookie}
      (alive : owners.destroyed owner = false) (fresh : cookie ∉ owners.handler.cookies) :
      Stepped owners (.add owner milliseconds now cookie)
        { owners with
          handler := owners.handler.add owner milliseconds now cookie
          stored := Function.update owners.stored owner cookie }
  | refresh {owner : Owner} {now : Int} :
      Stepped owners (.refresh owner now)
        { owners with handler := owners.handler.refresh (owners.stored owner) now }
  | remove {owner : Owner} :
      Stepped owners (.remove owner)
        { owners with handler := owners.handler.remove (owners.stored owner) }
  | fire {cookie : Cookie} :
      Stepped owners (.fire cookie) { owners with handler := owners.handler.remove cookie }
  | destroy {owner : Owner} :
      Stepped owners (.destroy owner)
        { owners with
          handler := owners.handler.remove (owners.stored owner)
          destroyed := Function.update owners.destroyed owner true }

theorem stepped {owners after : TimerOwners Owner} {action : OwnerAction Owner}
    {outputs : List Unit} (legal : machine.Legal ⟨owners, action, after, outputs⟩) :
    Stepped owners action after := by
  simp only [Machine.Legal, machine] at legal
  cases action with
  | add owner milliseconds now cookie =>
    simp only at legal
    split at legal
    next allowed => cases legal; exact .add allowed.1 allowed.2.2
    · cases legal
  | refresh owner now =>
    simp only at legal
    split at legal
    · cases legal; exact .refresh
    · cases legal
  | remove owner =>
    simp only at legal
    split at legal
    · cases legal; exact .remove
    · cases legal
  | fire cookie => cases legal; exact .fire
  | destroy owner =>
    simp only at legal
    split at legal
    · cases legal; exact .destroy
    · cases legal

private theorem allHarmless_add_iff {owners : TimerOwners Owner} {owner : Owner}
    {milliseconds now : Int}
    {cookie : Cookie} (fresh : cookie ∉ owners.handler.cookies) (safe : owners.AllHarmless) :
    AllHarmless { owners with
        handler := owners.handler.add owner milliseconds now cookie
        stored := Function.update owners.stored owner cookie } ↔
      ∀ other, other ≠ owner → owners.destroyed other = false → owners.stored other ≠ cookie := by
  constructor
  · intro harmless other apart alive same
    have apart' := harmless_iff.mp (harmless other alive)
      ⟨cookie, owner, steadyTimeInFuture now milliseconds, milliseconds⟩
      (List.mem_append_right _ (List.mem_singleton.mpr rfl)) (Ne.symm apart)
    simp only [Function.update_of_ne apart] at apart'
    exact apart' same.symm
  · intro unstored other alive
    rw [harmless_iff]
    intro timeout present different
    rcases List.mem_append.mp present with old | new
    · by_cases same : other = owner
      · subst same
        simp only [Function.update_self]
        rintro rfl
        exact fresh (List.mem_map.mpr ⟨timeout, old, rfl⟩)
      · simp only [Function.update_of_ne same]
        exact harmless_iff.mp (safe other alive) timeout old different
    · rw [List.mem_singleton.mp new] at different ⊢
      simp only [Function.update_of_ne (Ne.symm different)]
      exact (unstored other (Ne.symm different) alive).symm

private theorem allHarmless_iff {taken : Taken (TimerOwners Owner) (OwnerAction Owner) Unit}
    (legal : machine.Legal taken) (safe : taken.before.AllHarmless) :
    taken.after.AllHarmless ↔ Unstored taken := by
  obtain ⟨before, action, after, outputs⟩ := taken
  cases stepped legal with
  | add alive fresh => exact allHarmless_add_iff fresh safe
  | @refresh owner now =>
    refine iff_of_true ?_ trivial
    intro other alive
    refine (safe other alive).of_fewer rfl ?_
    intro timeout member
    obtain ⟨old, inside, cookie, callback, _⟩ := TimeoutHandler.mem_refresh member
    exact ⟨old, inside, cookie, callback⟩
  | remove =>
    exact iff_of_true (fun other alive => (safe other alive).of_fewer rfl fewer_remove) trivial
  | fire =>
    exact iff_of_true (fun other alive => (safe other alive).of_fewer rfl fewer_remove) trivial
  | @destroy owner =>
    refine iff_of_true ?_ trivial
    intro other alive
    have living : before.destroyed other = false := by
      by_cases same : other = owner
      · subst same
        simp [Function.update_self] at alive
      · simpa [Function.update_of_ne same] using alive
    exact (safe other living).of_fewer rfl fewer_remove

/-- No call with a stored cookie can touch the timer of another owner, in any state of the run,
exactly if no `add` of the run gets a key that another living owner still keeps. -/
theorem cookies_harmless_iff
    {log : List (Taken (TimerOwners Owner) (OwnerAction Owner) Unit)} {last : TimerOwners Owner}
    (run : machine.Run {} log last) :
    (∀ taken ∈ log, taken.after.AllHarmless) ↔ (∀ taken ∈ log, Unstored taken) := by
  refine run.all_iff ?_ ?_ allHarmless_initial
  · exact fun taken legal safe => allHarmless_iff legal safe
  · exact fun taken _ _ harmless => harmless

/-- The timer of an upload (0) fires, the heartbeat watcher (1) gets the freed address, and the
destructor of the upload removes the watcher's timer. -/
theorem cookies_not_harmless : ¬∀ (Owner : Type) [DecidableEq Owner]
    (log : List (Taken (TimerOwners Owner) (OwnerAction Owner) Unit)) (last : TimerOwners Owner),
      machine.Run {} log last → ∀ taken ∈ log, taken.after.AllHarmless := by
  intro harmless
  let actions : List (OwnerAction Nat) :=
    [.add 0 500 0 16, .fire 16, .add 1 3000 600000000 16, .destroy 0]
  obtain ⟨last, run⟩ := machine.run_log {} actions (by decide)
  let watcher : Timeout Nat := ⟨16, 1, 3600000000, 3000⟩
  obtain ⟨taken, member, alive, present, lost⟩ :
      ∃ taken ∈ machine.log {} actions, taken.after.destroyed 0 = false ∧
        watcher ∈ taken.after.handler.timeouts ∧
        watcher ∉ (taken.after.handler.remove (taken.after.stored 0)).timeouts := by decide
  have kept := harmless Nat _ last run taken member 0 alive watcher present
  exact lost (kept (by decide)).1

/-- Two owners whose timers live at the same time. -/
theorem cookies_harmless_iff_disjoint :
    let log := machine.log ({} : TimerOwners Nat)
      [.add 0 500 0 16, .add 1 3000 0 32, .fire 16, .destroy 0, .refresh 1 700]
    log.length = 5 ∧
      ((∀ taken ∈ log, taken.after.AllHarmless) ↔ (∀ taken ∈ log, Unstored taken)) := by
  intro log
  obtain ⟨last, run⟩ := machine.run_log ({} : TimerOwners Nat)
    [.add 0 500 0 16, .add 1 3000 0 32, .fire 16, .destroy 0, .refresh 1 700] (by decide)
  exact ⟨by decide, cookies_harmless_iff run⟩

end TimerOwners
end PilotingMavsdk
