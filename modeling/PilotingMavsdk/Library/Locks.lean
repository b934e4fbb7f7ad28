import Mathlib.Data.List.Basic
import Mathlib.Logic.Function.Basic

/-! Programs that take and release mutexes, and threads that wait for each other. Where mutexes
are ranked and every thread that waits has only lower ones, no threads can wait in a circle. -/

namespace PilotingMavsdk.Library

universe u v w
variable {Mutex : Type u} {Act : Type v} {Thread : Type w}

inductive LockOp (Mutex : Type u) (Act : Type v) where
  | lock (mutex : Mutex)
  | unlock (mutex : Mutex)
  | act (act : Act)
deriving DecidableEq, Repr

/-- A block that begins with a `std::lock_guard`. -/
def lockGuard (mutex : Mutex) (body : List (LockOp Mutex Act)) : List (LockOp Mutex Act) :=
  .lock mutex :: (body ++ [.unlock mutex])

/-- What the program locks next, if that is what it does next. -/
def nextLock : List (LockOp Mutex Act) → Option Mutex
  | .lock mutex :: _ => some mutex
  | _ => none

section
variable (allowed : List Mutex → Mutex → Prop) (permitted : List Mutex → Act → Prop)

/-- From these mutexes on, innermost first, the program takes only what it is allowed to take,
releases in the reverse order and ends with nothing. -/
def Disciplined : List Mutex → List (LockOp Mutex Act) → Prop
  | held, [] => held = []
  | held, .lock mutex :: rest => allowed held mutex ∧ Disciplined (mutex :: held) rest
  | held, .unlock mutex :: rest => ∃ outer, held = mutex :: outer ∧ Disciplined outer rest
  | held, .act act :: rest => permitted held act ∧ Disciplined held rest

/-- A piece of a disciplined program that leaves the mutexes as they were. -/
def Balanced (held : List Mutex) (program : List (LockOp Mutex Act)) : Prop :=
  ∀ rest, Disciplined allowed permitted held rest →
    Disciplined allowed permitted held (program ++ rest)

variable {allowed permitted} {held : List Mutex}

theorem Balanced.nil : Balanced allowed permitted held [] := fun _ disciplined => disciplined

theorem Balanced.append {first second : List (LockOp Mutex Act)}
    (before : Balanced allowed permitted held first)
    (after : Balanced allowed permitted held second) :
    Balanced allowed permitted held (first ++ second) := by
  intro rest disciplined
  rw [List.append_assoc]
  exact before _ (after rest disciplined)

theorem Balanced.act {act : Act} (may : permitted held act) :
    Balanced allowed permitted held [.act act] :=
  fun _ disciplined => ⟨may, disciplined⟩

theorem Balanced.lockGuard {mutex : Mutex} {body : List (LockOp Mutex Act)}
    (may : allowed held mutex) (inside : Balanced allowed permitted (mutex :: held) body) :
    Balanced allowed permitted held (lockGuard mutex body) := by
  intro rest disciplined
  have unfolded : Library.lockGuard mutex body ++ rest =
      .lock mutex :: (body ++ .unlock mutex :: rest) := by
    simp [Library.lockGuard]
  rw [unfolded]
  exact ⟨may, inside _ ⟨held, rfl, disciplined⟩⟩

theorem Balanced.flatMap {α : Type*} {elements : List α} {program : α → List (LockOp Mutex Act)}
    (each : ∀ element ∈ elements, Balanced allowed permitted held (program element)) :
    Balanced allowed permitted held (elements.flatMap program) := by
  induction elements with
  | nil => exact .nil
  | cons element elements ih =>
    rw [List.flatMap_cons]
    exact (each element (by simp)).append (ih fun other member => each other (by simp [member]))

theorem Balanced.disciplined {program : List (LockOp Mutex Act)}
    (balanced : Balanced allowed permitted [] program) :
    Disciplined allowed permitted [] program := by
  have whole := balanced [] rfl
  rwa [List.append_nil] at whole

end

/-- Each of these threads waits for a mutex that one of them holds. -/
structure Deadlocked (waits holds : Thread → Mutex → Prop) (members : Thread → Prop) : Prop where
  inhabited : ∃ thread, members thread
  stuck : ∀ thread, members thread → ∃ mutex, waits thread mutex ∧
    ∃ other, members other ∧ holds other mutex

/-- The mutex that the owner waits for ranks above the one it holds, and ranks are bounded. -/
theorem not_deadlocked {waits holds : Thread → Mutex → Prop} {members : Thread → Prop}
    (rank : Mutex → Nat) (bound : Nat) (bounded : ∀ mutex, rank mutex < bound)
    (ordered : ∀ thread mutex, waits thread mutex → ∀ other, holds thread other →
      rank other < rank mutex) : ¬Deadlocked waits holds members := by
  intro deadlocked
  have above : ∀ level, ∃ thread mutex, members thread ∧ holds thread mutex ∧
      level ≤ rank mutex := by
    intro level
    induction level with
    | zero =>
      obtain ⟨thread, member⟩ := deadlocked.inhabited
      obtain ⟨mutex, _, owner, inside, holding⟩ := deadlocked.stuck thread member
      exact ⟨owner, mutex, inside, holding, Nat.zero_le _⟩
    | succ level ih =>
      obtain ⟨thread, mutex, member, holding, high⟩ := ih
      obtain ⟨wanted, waiting, owner, inside, taken⟩ := deadlocked.stuck thread member
      have higher := ordered thread wanted waiting mutex holding
      exact ⟨owner, wanted, inside, taken, by omega⟩
  obtain ⟨_, mutex, _, _, high⟩ := above bound
  have low := bounded mutex
  omega

/-- The mutexes of a thread are listed innermost first. -/
structure Holdings (Mutex : Type u) (Thread : Type w) where
  owner : Mutex → Option Thread
  held : Thread → List Mutex
  owned : ∀ thread mutex, owner mutex = some thread ↔ mutex ∈ held thread

namespace Holdings
variable {thread : Thread} {mutex : Mutex}

def none : Holdings Mutex Thread where
  owner := fun _ => .none
  held := fun _ => []
  owned := by simp

@[simp] theorem held_none : (none : Holdings Mutex Thread).held thread = [] := rfl

theorem exclusive (holdings : Holdings Mutex Thread) {other : Thread}
    (first : mutex ∈ holdings.held thread) (second : mutex ∈ holdings.held other) :
    thread = other := by
  have owner := (holdings.owned thread mutex).mpr first
  rw [(holdings.owned other mutex).mpr second] at owner
  exact (Option.some.inj owner).symm

variable [DecidableEq Mutex] [DecidableEq Thread]

/-- The mutex is free, or recursive and the thread's own. -/
def acquire (holdings : Holdings Mutex Thread) (thread : Thread) (mutex : Mutex)
    (available : ∀ owner ∈ holdings.owner mutex, owner = thread) : Holdings Mutex Thread where
  owner := Function.update holdings.owner mutex (some thread)
  held := Function.update holdings.held thread (mutex :: holdings.held thread)
  owned := by
    intro other wanted
    have before := holdings.owned other wanted
    by_cases same : wanted = mutex
    · by_cases mine : other = thread
      · simp [same, mine]
      · -- nobody else had it before
        have absent : mutex ∉ holdings.held other := fun member =>
          mine (available other ((holdings.owned other mutex).mpr member))
        simp [same, mine, absent, Ne.symm mine]
    · by_cases mine : other = thread
      · rw [mine] at before
        simp [same, mine, before]
      · simp [same, mine, before]

/-- A recursive mutex may have been locked more than once. -/
def release (holdings : Holdings Mutex Thread) (thread : Thread) (mutex : Mutex)
    (holding : mutex ∈ holdings.held thread) : Holdings Mutex Thread where
  owner := Function.update holdings.owner mutex
    (if mutex ∈ (holdings.held thread).erase mutex then some thread else .none)
  held := Function.update holdings.held thread ((holdings.held thread).erase mutex)
  owned := by
    intro other wanted
    have before := holdings.owned other wanted
    by_cases mine : other = thread
    · rw [mine] at before
      by_cases same : wanted = mutex
      · simp [mine, same]
      · simp [mine, same, before, List.mem_erase_of_ne same]
    · by_cases same : wanted = mutex
      · -- it was this thread's and not the other's
        have owner := (holdings.owned thread mutex).mpr holding
        have absent : mutex ∉ holdings.held other := by
          intro member
          have owners := (holdings.owned other mutex).mpr member
          rw [owner] at owners
          exact mine (Option.some.inj owners).symm
        simp [mine, same, absent, Ne.symm mine]
      · simp [mine, same, before]

variable {holdings : Holdings Mutex Thread}

@[simp] theorem held_acquire_self (available : ∀ owner ∈ holdings.owner mutex, owner = thread) :
    (holdings.acquire thread mutex available).held thread = mutex :: holdings.held thread := by
  simp [acquire]

theorem held_acquire_of_ne {other : Thread} (different : other ≠ thread)
    (available : ∀ owner ∈ holdings.owner mutex, owner = thread) :
    (holdings.acquire thread mutex available).held other = holdings.held other :=
  Function.update_of_ne different _ _

@[simp] theorem held_release_self (holding : mutex ∈ holdings.held thread) :
    (holdings.release thread mutex holding).held thread =
      (holdings.held thread).erase mutex := by
  simp [release]

theorem held_release_of_ne {other : Thread} (different : other ≠ thread)
    (holding : mutex ∈ holdings.held thread) :
    (holdings.release thread mutex holding).held other = holdings.held other :=
  Function.update_of_ne different _ _

end Holdings

end PilotingMavsdk.Library
