import PilotingMavsdk.Threads

/-! Why the threads of the inspection transfer may block each other, and when they do not. Most
mutexes are taken in one order: the table, the queue, an item, the plugin, the timers. -/

namespace PilotingMavsdk
open Library

namespace Mutex

def rank : Mutex → Nat
  | .table => 0
  | .queue => 1
  | .item _ => 2
  | .plugin => 3
  | .timers => 4

/-- The locks against the order. Handlers are registered and unregistered under the mutex of an
item, and the plugin hands over a new item, or lets go of the last one, under its own. -/
def Exceptional (held : List Mutex) : Mutex → Prop
  | .table => ∃ other ∈ held, other.ofItem
  | .queue | .item _ => .plugin ∈ held
  | .plugin | .timers => False

def InOrder (held : List Mutex) (mutex : Mutex) : Prop := ∀ other ∈ held, other.rank < mutex.rank

def Allowed (held : List Mutex) (mutex : Mutex) : Prop :=
  InOrder held mutex ∨ Exceptional held mutex

instance (held : List Mutex) : (mutex : Mutex) → Decidable (Exceptional held mutex)
  | .table => inferInstanceAs (Decidable (∃ other ∈ held, other.ofItem))
  | .queue | .item _ => inferInstanceAs (Decidable (.plugin ∈ held))
  | .plugin | .timers => .isFalse id

theorem InOrder.nil {mutex : Mutex} : InOrder [] mutex := by simp [InOrder]

theorem InOrder.cons {held : List Mutex} {other mutex : Mutex} (lower : other.rank < mutex.rank)
    (inOrder : InOrder held mutex) : InOrder (other :: held) mutex := by
  intro inner member
  rcases List.mem_cons.mp member with rfl | member
  · exact lower
  · exact inOrder inner member

theorem InOrder.higher {held : List Mutex} {mutex higher : Mutex} (inOrder : InOrder held mutex)
    (above : mutex.rank ≤ higher.rank) : InOrder held higher :=
  fun other member => Nat.lt_of_lt_of_le (inOrder other member) above

end Mutex

/-- The table is touched under its mutex, and messages are dispatched under no other. -/
def TableAct.Permitted (held : List Mutex) : TableAct → Prop
  | .register _ _ | .unregisterAll _ => held.head? = some .table
  | .processMessage _ => held = [.table]

/-- Balanced under the rules of this library. -/
abbrev Nested (held : List Mutex) (program : Program) : Prop :=
  Balanced Mutex.Allowed TableAct.Permitted held program

section
variable {held : List Mutex}

private theorem nested_lockGuard_of_inOrder {mutex : Mutex} {body : Program}
    (inOrder : Mutex.InOrder held mutex) (inside : Nested (mutex :: held) body) :
    Nested held (lockGuard mutex body) :=
  .lockGuard (.inl inOrder) inside

private theorem nested_registerOne (handler : Handler) (id : Nat)
    (may : Mutex.Allowed held .table) :
    Nested held (registerOne handler id) := by
  refine .lockGuard may (.act ?_)
  rfl

private theorem nested_unregisterAll (handler : Handler) (may : Mutex.Allowed held .table) :
    Nested held (unregisterAll handler) := by
  refine .lockGuard may (.act ?_)
  rfl

private theorem nested_effect {Report : Type} (kind : Kind) (effect : Effect Report)
    (below : Mutex.InOrder held .plugin) : Nested held (effect.program kind) := by
  cases effect with
  | sendMessage message sent => exact .nil
  | addTimeout cookie | refreshTimeout cookie | removeTimeout cookie =>
    exact nested_lockGuard_of_inOrder (below.higher (by decide)) .nil
  | callback report =>
    simp only [Effect.program]
    split
    · exact nested_lockGuard_of_inOrder below .nil
    · exact nested_lockGuard_of_inOrder below .nil
    · exact .nil

private theorem allowed_table {item : Nat} : Mutex.Allowed (.item item :: held) .table :=
  .inr ⟨.item item, by simp, rfl⟩

private theorem nested_registers (item : Nat) (handler : Handler) (ids : List Nat) :
    Nested (.item item :: held) (ids.flatMap (registerOne handler)) :=
  .flatMap fun id _ => nested_registerOne handler id allowed_table

private theorem nested_itemCall (called : ItemCall)
    (inOrder : Mutex.InOrder held (.item called.item)) :
    Nested held called.program := by
  have below : Mutex.InOrder (.item called.item :: held) .plugin :=
    .cons (by simp [Mutex.rank]) (inOrder.higher (by simp [Mutex.rank]))
  have effects (list : List (Effect called.kind.Report)) :
      Nested (.item called.item :: held) (list.flatMap (Effect.program called.kind)) :=
    .flatMap fun effect _ => nested_effect called.kind effect below
  apply nested_lockGuard_of_inOrder inOrder
  exact (((nested_registers _ _ _).append (effects _)).append (nested_registers _ _ _)).append
    (effects _)

private theorem nested_readFlag (item : Nat) (inOrder : Mutex.InOrder held (.item item)) :
    Nested held (readFlag item) :=
  nested_lockGuard_of_inOrder inOrder .nil

private theorem nested_destruct (item : Nat) (may : Mutex.Allowed held (.item item))
    (below : Mutex.InOrder held .timers) : Nested held (destruct item) := by
  refine .lockGuard may ((nested_unregisterAll _ allowed_table).append ?_)
  exact nested_lockGuard_of_inOrder (.cons (by simp [Mutex.rank]) below) .nil

private theorem nested_construct (item : Nat) (ids : List Nat) : Nested [] (construct item ids) :=
  nested_lockGuard_of_inOrder .nil (nested_registers _ _ _)

private theorem nested_pushBack (may : Mutex.Allowed held .queue) : Nested held pushBack :=
  .lockGuard may .nil

private theorem nested_doWork (front : Option Front) : Nested [] (doWork front) := by
  have inOrder (item : Nat) : Mutex.InOrder [.queue] (.item item) :=
    .cons (by simp [Mutex.rank]) .nil
  cases front with
  | none => exact nested_lockGuard_of_inOrder .nil .nil
  | some front =>
    apply nested_lockGuard_of_inOrder .nil
    refine (((nested_readFlag _ (inOrder _)).append ?_).append
      (nested_readFlag _ (inOrder _))).append ?_
    · exact .flatMap fun called _ => nested_itemCall called (inOrder _)
    · split
      · exact nested_destruct _ (.inl (inOrder _)) (.cons (by decide) .nil)
      · exact .nil

private theorem nested_runOnce (expired : List ItemCall) : Nested [] (runOnce expired) := by
  have around (called : ItemCall) :
      Nested [.timers] (.unlock .timers :: (called.program ++ [.lock .timers])) := by
    intro rest disciplined
    refine ⟨[], rfl, ?_⟩
    rw [List.append_eq, List.append_assoc]
    exact nested_itemCall called .nil _ ⟨.inl .nil, disciplined⟩
  have inside : Nested [.timers] (expired.flatMap
      fun called => .unlock .timers :: (called.program ++ [.lock .timers])) :=
    .flatMap fun called _ => around called
  exact nested_lockGuard_of_inOrder .nil inside

private theorem nested_callback (callback : Callback) : Nested [.table] callback.program := by
  have plugin : Mutex.InOrder [.table] .plugin := .cons (by decide) .nil
  cases callback with
  | item called => exact nested_itemCall called (.cons (by simp [Mutex.rank]) .nil)
  | busy released =>
    refine nested_lockGuard_of_inOrder plugin (.flatMap fun item _ => ?_)
    refine nested_destruct item (.inr ?_) (.cons (by decide) (.cons (by decide) .nil))
    simp [Mutex.Exceptional]
  | transfer =>
    refine nested_lockGuard_of_inOrder plugin (nested_pushBack (.inr ?_))
    simp [Mutex.Exceptional]
  | setCurrent => exact nested_lockGuard_of_inOrder plugin .nil

private theorem nested_destruct_if (item : Nat) (destroyed : Bool) :
    Nested [] (if destroyed then destruct item else []) := by
  split
  · exact nested_destruct item (.inl .nil) .nil
  · exact .nil

theorem nested_routine (routine : Routine) : Nested [] routine.program := by
  cases routine with
  | processMessage id => exact nested_lockGuard_of_inOrder .nil (.act rfl)
  | doWork front => exact nested_doWork front
  | runOnce expired => exact nested_runOnce expired
  | busy released => exact .flatMap fun item _ => nested_destruct item (.inl .nil) .nil
  | uploadItemsAsync item destroyed | downloadItemsAsync item destroyed =>
    exact ((nested_construct item _).append (nested_pushBack (.inl .nil))).append
      (nested_destruct_if item destroyed)
  | cancel called destroyed =>
    exact (nested_itemCall called .nil).append (nested_destruct_if called.item destroyed)
  | setPlugin => exact nested_lockGuard_of_inOrder .nil .nil
  | init => exact .flatMap fun id _ => nested_registerOne _ id (.inl .nil)
  | deinit => exact nested_unregisterAll _ (.inl .nil)

end

namespace Threads

/-- What a thread has locked and still has to run fit together, the owners are those that have
locked, and who waits does so in order. -/
structure Kept (threads : Threads) : Prop where
  disciplined : ∀ thread, Disciplined Mutex.Allowed TableAct.Permitted (threads.held thread)
    (threads.program thread)
  owned : ∀ thread mutex, threads.owner mutex = some thread ↔ mutex ∈ threads.held thread
  waiting : ∀ thread, threads.waiting thread = true → ∃ mutex,
    nextLock (threads.program thread) = some mutex ∧ Mutex.InOrder (threads.held thread) mutex

/-- The lock that a step comes to is in order, or the mutex is free. -/
def Orderly (threads : Threads) : ThreadAction → Prop
  | .run thread => ∀ mutex ∈ nextLock (threads.program thread), threads.waiting thread = false →
    Mutex.Exceptional (threads.held thread) mutex → threads.Available thread mutex
  | .begin _ _ | .processMessage _ => True

instance (threads : Threads) : (action : ThreadAction) → Decidable (threads.Orderly action)
  | .run thread => inferInstanceAs (Decidable (∀ mutex ∈ nextLock (threads.program thread), _ → _))
  | .begin _ _ | .processMessage _ => .isTrue trivial

/-- A step of one thread leaves the others' own fields as they were. -/
structure Leaves (thread : Thread) (before after : Threads) : Prop where
  held : ∀ other, other ≠ thread → after.held other = before.held other
  program : ∀ other, other ≠ thread → after.program other = before.program other
  waiting : ∀ other, other ≠ thread → after.waiting other = before.waiting other

theorem Kept.step {before after : Threads} (kept : before.Kept) (thread : Thread)
    (leaves : Leaves thread before after)
    (disciplined : Disciplined Mutex.Allowed TableAct.Permitted (after.held thread)
      (after.program thread))
    (owned : ∀ other mutex, after.owner mutex = some other ↔ mutex ∈ after.held other)
    (waiting : after.waiting thread = true → ∃ mutex,
      nextLock (after.program thread) = some mutex ∧ Mutex.InOrder (after.held thread) mutex) :
    after.Kept := by
  refine ⟨?_, owned, ?_⟩
  · intro other
    by_cases same : other = thread
    · rw [same]; exact disciplined
    · rw [leaves.held other same, leaves.program other same]
      exact kept.disciplined other
  · intro other
    by_cases same : other = thread
    · rw [same]; exact waiting
    · rw [leaves.held other same, leaves.program other same, leaves.waiting other same]
      exact kept.waiting other

private theorem Kept.not_waiting {threads : Threads} (kept : threads.Kept) {thread : Thread}
    (other : nextLock (threads.program thread) = none) : threads.waiting thread = false := by
  cases asked : threads.waiting thread with
  | false => rfl
  | true =>
    obtain ⟨mutex, next, _⟩ := kept.waiting thread asked
    rw [other] at next
    cases next

theorem Kept.goOn {threads : Threads} (kept : threads.Kept) {thread : Thread} {rest : Program}
    (other : nextLock (threads.program thread) = none)
    (disciplined : Disciplined Mutex.Allowed TableAct.Permitted (threads.held thread) rest)
    (table : List (Nat × Handler)) : ({ threads with table }.goOn thread rest).Kept := by
  refine kept.step thread ⟨fun _ _ => rfl, ?_, fun _ _ => rfl⟩ ?_ kept.owned ?_
  · intro _ different
    exact Function.update_of_ne different _ _
  · simpa [Threads.goOn] using disciplined
  · intro asked
    have idle := kept.not_waiting other
    simp [Threads.goOn, idle] at asked

theorem Kept.begin {threads : Threads} (kept : threads.Kept) {thread : Thread}
    (idle : threads.program thread = []) (routine : Routine) :
    (threads.goOn thread routine.program).Kept := by
  refine kept.goOn (by rw [idle]; rfl) ?_ threads.table
  have before := kept.disciplined thread
  rw [idle] at before
  have nothing : threads.held thread = [] := before
  rw [nothing]
  exact (nested_routine routine).disciplined

theorem Kept.acquire {threads : Threads} (kept : threads.Kept) {thread : Thread} {mutex : Mutex}
    {rest : Program} (next : threads.program thread = .lock mutex :: rest)
    (available : threads.Available thread mutex) :
    ((threads.acquire thread mutex).goOn thread rest).Kept := by
  have disciplined := kept.disciplined thread
  rw [next] at disciplined
  refine kept.step thread ⟨?_, ?_, ?_⟩ ?_ ?_ ?_
  · intro _ different
    exact Function.update_of_ne different _ _
  · intro _ different
    exact Function.update_of_ne different _ _
  · intro _ different
    exact Function.update_of_ne different _ _
  · simpa [Threads.acquire, Threads.goOn] using disciplined.2
  · intro other wanted
    have before := kept.owned other wanted
    by_cases same : wanted = mutex
    · by_cases mine : other = thread
      · simp [Threads.acquire, Threads.goOn, same, mine]
      · -- nobody else had it before
        have free : threads.owner mutex ≠ some other := by
          rcases available with none | ⟨_, owner⟩
          · simp [none]
          · rw [owner]
            exact fun equal => mine (Option.some.inj equal).symm
        rw [same] at before
        have absent : mutex ∉ threads.held other := fun member => free (before.mpr member)
        simp [Threads.acquire, Threads.goOn, same, mine, absent, Ne.symm mine]
    · by_cases mine : other = thread
      · rw [mine] at before
        simp [Threads.acquire, Threads.goOn, same, mine, before]
      · simp [Threads.acquire, Threads.goOn, same, mine, before]
  · simp [Threads.acquire, Threads.goOn]

theorem Kept.release {threads : Threads} (kept : threads.Kept) {thread : Thread} {mutex : Mutex}
    {rest : Program} (next : threads.program thread = .unlock mutex :: rest) :
    ((threads.release thread mutex).goOn thread rest).Kept := by
  have disciplined := kept.disciplined thread
  rw [next] at disciplined
  obtain ⟨outer, held, following⟩ := disciplined
  have remaining : (threads.held thread).erase mutex = outer := by rw [held, List.erase_cons_head]
  refine kept.step thread ⟨?_, ?_, fun _ _ => rfl⟩ ?_ ?_ ?_
  · intro _ different
    exact Function.update_of_ne different _ _
  · intro _ different
    exact Function.update_of_ne different _ _
  · simpa [Threads.release, Threads.goOn, remaining] using following
  · intro other wanted
    have before := kept.owned other wanted
    by_cases mine : other = thread
    · rw [mine, held] at before
      by_cases same : wanted = mutex
      · simp [Threads.release, Threads.goOn, remaining, mine, same]
      · simp [Threads.release, Threads.goOn, remaining, mine, same, before]
    · by_cases same : wanted = mutex
      · -- it was this thread's and not the other's
        have owner := (kept.owned thread mutex).mpr (by simp [held])
        have absent : mutex ∉ threads.held other := by
          intro member
          have owners := (kept.owned other mutex).mpr member
          rw [owner] at owners
          exact mine (Option.some.inj owners).symm
        simp [Threads.release, Threads.goOn, remaining, mine, same, absent, Ne.symm mine]
      · simp [Threads.release, Threads.goOn, mine, same, before]
  · intro asked
    have idle : threads.waiting thread = false := kept.not_waiting (by rw [next]; rfl)
    simp [Threads.release, Threads.goOn, idle] at asked

private theorem Kept.ask {threads : Threads} (kept : threads.Kept) {thread : Thread} {mutex : Mutex}
    {rest : Program} (next : threads.program thread = .lock mutex :: rest)
    (inOrder : Mutex.InOrder (threads.held thread) mutex) :
    { threads with waiting := Function.update threads.waiting thread true }.Kept := by
  refine kept.step thread ⟨fun _ _ => rfl, fun _ _ => rfl, ?_⟩ (kept.disciplined thread)
    kept.owned ?_
  · intro _ different
    exact Function.update_of_ne different _ _
  · intro _
    exact ⟨mutex, by rw [next]; rfl, inOrder⟩

theorem Kept.processMessage {threads : Threads} (kept : threads.Kept) {id : Nat} {rest : Program}
    (next : threads.program .receive = .act (.processMessage id) :: rest)
    (callbacks : List Callback) :
    (threads.goOn .receive (callbacks.flatMap Callback.program ++ rest)).Kept := by
  refine kept.goOn (by rw [next]; rfl) ?_ threads.table
  have disciplined := kept.disciplined .receive
  rw [next] at disciplined
  obtain ⟨permitted, following⟩ := disciplined
  have locked : threads.held .receive = [.table] := permitted
  rw [locked] at following ⊢
  have called : Nested [.table] (callbacks.flatMap Callback.program) :=
    .flatMap fun callback _ => nested_callback callback
  exact called rest following

private theorem Kept.of_orderly {before after : Threads} {action : ThreadAction}
    {outputs : List Unit} (stepped : machine.step before action = some (after, outputs))
    (orderly : before.Orderly action) (kept : before.Kept) : after.Kept := by
  cases action with
  | begin thread routine =>
    simp only [machine] at stepped
    split at stepped
    next may => cases stepped; exact kept.begin may.1 routine
    · cases stepped
  | processMessage callbacks =>
    simp only [machine] at stepped
    split at stepped
    next id rest next =>
      split at stepped
      · cases stepped; exact kept.processMessage next callbacks
      · cases stepped
    · cases stepped
  | run thread =>
    simp only [machine] at stepped
    have disciplined := kept.disciplined thread
    split at stepped
    next mutex rest next =>
      split at stepped
      next available => cases stepped; exact kept.acquire next available
      next taken =>
        split at stepped
        · cases stepped
        next idle =>
          cases stepped
          rw [next] at disciplined
          rcases disciplined.1 with inOrder | exceptional
          · exact kept.ask next inOrder
          · -- an orderly lock against the order would have succeeded
            have free := orderly mutex (by rw [next]; rfl) (by simpa using idle) exceptional
            exact absurd free taken
    next mutex rest next => cases stepped; exact kept.release next
    next id handler rest next =>
      cases stepped
      rw [next] at disciplined
      exact kept.goOn (by rw [next]; rfl) disciplined.2 _
    next handler rest next =>
      cases stepped
      rw [next] at disciplined
      exact kept.goOn (by rw [next]; rfl) disciplined.2 _
    · cases stepped
    · cases stepped

theorem kept_initial : Kept {} := by
  refine ⟨fun _ => rfl, by simp, by simp⟩

theorem Kept.not_deadlocked {threads : Threads} (kept : threads.Kept) (members : Thread → Prop) :
    ¬Deadlocked threads.Waits threads.Holds members := by
  apply Library.not_deadlocked Mutex.rank 5
  · intro mutex
    cases mutex <;> simp [Mutex.rank]
  · intro thread mutex ⟨asked, next⟩ other holding
    obtain ⟨wanted, same, inOrder⟩ := kept.waiting thread asked
    rw [next] at same
    cases same
    exact inOrder other ((kept.owned thread other).mp holding)

/-- No threads block each other as long as whoever asks for a mutex against the order finds it
free. -/
theorem deadlock_free {log : List (Taken Threads ThreadAction Unit)} {last : Threads}
    (run : machine.Run {} log last) (orderly : ∀ taken ∈ log, taken.before.Orderly taken.action)
    (members : Thread → Prop) : ¬Deadlocked last.Waits last.Holds members := by
  have preserved (taken : Taken Threads ThreadAction Unit) (legal : machine.Legal taken)
      (may : taken.before.Orderly taken.action) (kept : taken.before.Kept) : taken.after.Kept :=
    kept.of_orderly legal may
  have kept : last.Kept := (run.guarded preserved orderly kept_initial).1
  exact kept.not_deadlocked members

def startedUpload : ItemCall where
  item := 0
  kind := .vehicleInspectionUpload
  state := RoboticVehicle.UploadWorkItem.create inspection ⟨⟨1, 1⟩, ⟨245, 190⟩⟩ ⟨{}, [⟨{}, 0⟩]⟩ true
  call := .start
  environment := ⟨true, 1⟩

/-- An acknowledgement that comes while the item is being started. -/
def acknowledgedUpload : ItemCall where
  item := 0
  kind := .vehicleInspectionUpload
  state := (Kind.vehicleInspectionUpload.workItemClass.handle .start ⟨true, 1⟩
    startedUpload.state).item
  call := .processMessage ⟨⟨245, 190⟩, ⟨1, 1⟩, .waypointList (.ack 0)⟩
  environment := ⟨true, 2⟩

def requestedUpload : List ThreadAction :=
  .begin (.user 0) .init :: .replicate 9 (.run (.user 0)) ++
    [.begin .receive (.processMessage 184), .run .receive, .processMessage [.transfer]] ++
    .replicate 5 (.run .receive) ++
    .begin .system (.doWork (some ⟨0, some startedUpload, false⟩)) :: .replicate 9 (.run .system)

theorem deadlock_free_requested :
    (∀ taken ∈ machine.log {} requestedUpload, taken.before.Orderly taken.action) ∧
    ∀ members, ¬Deadlocked (machine.last {} requestedUpload).Waits
      (machine.last {} requestedUpload).Holds members := by
  have orderly : ∀ taken ∈ machine.log {} requestedUpload, taken.before.Orderly taken.action := by
    decide
  exact ⟨orderly, deadlock_free (machine.run_last {} requestedUpload (by decide)) orderly⟩

/-- An acknowledgement for the item is dispatched under the table's mutex while the item still
registers its second handler under its own. -/
theorem start_deadlocks : ¬∀ (log : List (Taken Threads ThreadAction Unit)) (last : Threads),
    machine.Run {} log last → ∀ members, ¬Deadlocked last.Waits last.Holds members := by
  intro free
  let actions : List ThreadAction := requestedUpload ++
    [.begin .receive (.processMessage 183), .run .receive,
      .processMessage [.item acknowledgedUpload], .run .receive, .run .system]
  have run := machine.run_last {} actions (by decide)
  have system : (machine.last {} actions).Waits .system .table := by decide
  have receive : (machine.last {} actions).Waits .receive (.item 0) := by decide
  have table : (machine.last {} actions).Holds .receive .table := by decide
  have item : (machine.last {} actions).Holds .system (.item 0) := by decide
  refine free _ _ run (fun thread => thread = .system ∨ thread = .receive) ⟨⟨.system, .inl rfl⟩, ?_⟩
  intro thread member
  rcases member with rfl | rfl
  · exact ⟨.table, system, .receive, .inr rfl, table⟩
  · exact ⟨.item 0, receive, .system, .inl rfl, item⟩

end Threads
end PilotingMavsdk
