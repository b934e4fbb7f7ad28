import PilotingMavsdk.Discovery

/-! Why the threads that discover systems, subscribe to them and replace the connection may block
each other, and when they do not. A subscription and a replacement of the connection each take
things in an order of their own, and a state is harmless as long as nobody is in the middle of the
opposite order. -/

namespace PilotingMavsdk
open Library

namespace Discovery

/-- A receive thread does everything under `_systems_mutex`. -/
def UnderSystems (thread : Thread) (held : List Mutex) : Prop :=
  ∀ connection, thread = .receive connection → .systems ∈ held

def Allowed (thread : Thread) (held : List Mutex) : Mutex → Prop
  | .systems => ∀ other ∈ held, other = .systems ∨ other = .newSystemCallback
  | .system _ | .connection => UnderSystems thread held ∧ ∀ other ∈ held, other = .systems
  | .newSystemCallback =>
    UnderSystems thread held ∧ ∀ other ∈ held, other = .systems ∨ ∃ id, other = .system id

/-- Connections are replaced by users, under the mutex of the connection or none. -/
def Permitted (thread : Thread) (held : List Mutex) (_ : ConnectionAct) : Prop :=
  (∀ other ∈ held, other = .connection) ∧ ∀ connection, thread ≠ .receive connection

abbrev Nested (thread : Thread) (held : List Mutex) (program : Program) : Prop :=
  Balanced (Allowed thread) (Permitted thread) held program

section
variable {thread : Thread}

private theorem underSystems_of_mem {held : List Mutex} (member : .systems ∈ held) :
    UnderSystems thread held := fun _ _ => member

private theorem nested_systems {held : List Mutex} (may : Allowed thread held .systems) :
    Nested thread held systems :=
  .lockGuard may .nil

private theorem nested_sendMessage {held : List Mutex} (may : Allowed thread held .connection) :
    Nested thread held sendMessage :=
  .lockGuard may .nil

private theorem nested_notify {held : List Mutex} (may : Allowed thread held .newSystemCallback) :
    Nested thread held notifyOnTimeout :=
  .lockGuard may .nil

private theorem nested_setConnected (id : Nat) (discovered : Bool) :
    Nested thread [.systems] (setConnected id discovered) := by
  refine .lockGuard ⟨underSystems_of_mem (by simp), by simp⟩ ?_
  cases discovered with
  | false => exact .nil
  | true => exact nested_notify ⟨underSystems_of_mem (by simp), by simp⟩

private theorem nested_handler (handler : Handler) : Nested thread [.systems] handler.program := by
  cases handler with
  | heartbeat id discovered => exact nested_setConnected id discovered
  | other sent =>
    induction sent with
    | zero => exact .nil
    | succ sent ih =>
      have first : Nested thread [.systems] sendMessage :=
        nested_sendMessage ⟨underSystems_of_mem (by simp), by simp⟩
      exact first.append ih

private theorem nested_receiveMessage (made : Bool) (handlers : List Handler) :
    Nested thread [] (receiveMessage made handlers) := by
  have again : Nested thread [.systems] systems := nested_systems (by simp [Allowed])
  refine .lockGuard (by simp [Allowed]) (((again.append ?_).append again).append ?_)
  · cases made with
    | false => exact .nil
    | true => exact again
  · exact .flatMap fun handler _ => nested_handler handler

private theorem nested_destroy {held : List Mutex} {connection : Nat}
    (may : ∀ act, Permitted thread held act) : Nested thread held (destroy connection) := by
  have stops : Nested thread held [.act (.stop connection)] := .act (may _)
  exact stops.append (.act (may _))

private theorem permitted_user (number : Nat) (act : ConnectionAct) :
    Permitted (.user number) [] act :=
  ⟨by simp, nofun⟩

private theorem nested_subscribe {number : Nat} (callback : Option (List Query))
    (connected : Bool) :
    Nested (.user number) [] (subscribeOnNewSystem callback connected) := by
  have asks : Nested (.user number) [.newSystemCallback] systems :=
    nested_systems (by simp [Allowed])
  refine .lockGuard ⟨nofun, by simp⟩ ?_
  cases callback with
  | none => exact .nil
  | some queries =>
    refine asks.append ?_
    cases connected with
    | false => exact .nil
    | true =>
      refine .flatMap fun query _ => ?_
      cases query <;> exact asks

theorem nested_routine {routine : Routine} (runs : routine.runsOn thread = true) :
    Nested thread [] routine.program := by
  cases routine with
  | receiveMessage made handlers => exact nested_receiveMessage made handlers
  | heartbeatsTimedOut id =>
    cases thread with
    | timer => exact .lockGuard ⟨nofun, by simp⟩ (nested_notify ⟨nofun, by simp⟩)
    | receive connection => cases runs
    | user number => cases runs
  | sendMessage =>
    cases thread with
    | timer => exact nested_sendMessage ⟨nofun, by simp⟩
    | receive connection => cases runs
    | user number => exact nested_sendMessage ⟨nofun, by simp⟩
  | systems => exact nested_systems (by simp [Allowed])
  | isConnected => exact nested_systems (by simp [Allowed])
  | subscribeOnNewSystem callback connected =>
    cases thread with
    | timer => cases runs
    | receive connection => cases runs
    | user number => exact nested_subscribe callback connected
  | setupUdpConnection connection =>
    cases thread with
    | timer => cases runs
    | receive connection => cases runs
    | user number =>
      have replaces : Nested (.user number) []
          (lockGuard .connection [.act (.setConnection connection)]) := by
        refine .lockGuard ⟨nofun, by simp⟩ (.act ⟨by simp, nofun⟩)
      exact replaces.append (.act (permitted_user number _))

end

/-- What a thread has locked and still has to run fit together, and nobody waits for
`_systems_mutex` who has it. -/
structure Kept (discovery : Discovery) : Prop where
  disciplined : ∀ thread, Disciplined (Allowed thread) (Permitted thread)
    (discovery.holdings.held thread) (discovery.program thread)
  waiting : ∀ thread, discovery.waiting thread = true →
    (discovery.program thread).head? = some (.lock .systems) →
    .systems ∉ discovery.holdings.held thread

theorem kept_initial : Kept {} := ⟨fun _ => rfl, by simp⟩

theorem Kept.goOn {before after : Discovery} (kept : before.Kept) {thread : Thread}
    {rest : Program} (program : after.program = before.program)
    (waiting : after.waiting = before.waiting)
    (others : ∀ other, other ≠ thread → after.holdings.held other = before.holdings.held other)
    (disciplined : Disciplined (Allowed thread) (Permitted thread) (after.holdings.held thread)
      rest) : (after.goOn thread rest).Kept := by
  constructor
  · intro other
    by_cases same : other = thread
    · rw [same]
      simpa [Discovery.goOn] using disciplined
    · have still := kept.disciplined other
      rw [← others other same, ← program] at still
      simpa [Discovery.goOn, same] using still
  · intro other
    by_cases same : other = thread
    · simp [Discovery.goOn, same]
    · have still := kept.waiting other
      rw [← others other same, ← program, ← waiting] at still
      simpa [Discovery.goOn, same] using still

theorem Kept.wait {discovery : Discovery} (kept : discovery.Kept) {thread : Thread}
    (unowned : (discovery.program thread).head? = some (.lock .systems) →
      .systems ∉ discovery.holdings.held thread) : (discovery.wait thread).Kept := by
  refine ⟨kept.disciplined, ?_⟩
  intro other
  by_cases same : other = thread
  · rw [same]
    exact fun _ => unowned
  · have still := kept.waiting other
    simpa [Discovery.wait, same] using still

theorem Kept.acquire {discovery : Discovery} (kept : discovery.Kept) {thread : Thread}
    {mutex : Mutex} {rest : Program} (next : discovery.program thread = .lock mutex :: rest)
    (free : ∀ owner ∈ discovery.holdings.owner mutex, owner = thread) :
    ({ discovery with
      holdings := discovery.holdings.acquire thread mutex free }.goOn thread rest).Kept := by
  have disciplined := kept.disciplined thread
  rw [next] at disciplined
  refine kept.goOn rfl rfl ?_ ?_
  · intro other different
    exact Holdings.held_acquire_of_ne different free
  · simpa using disciplined.2

theorem Kept.release {discovery : Discovery} (kept : discovery.Kept) {thread : Thread}
    {mutex : Mutex} {rest : Program} (next : discovery.program thread = .unlock mutex :: rest)
    (holding : mutex ∈ discovery.holdings.held thread) :
    ({ discovery with
      holdings := discovery.holdings.release thread mutex holding }.goOn thread rest).Kept := by
  have disciplined := kept.disciplined thread
  rw [next] at disciplined
  obtain ⟨outer, held, following⟩ := disciplined
  refine kept.goOn rfl rfl ?_ ?_
  · intro other different
    exact Holdings.held_release_of_ne different holding
  · simpa [held] using following

theorem Kept.act {before after : Discovery} (kept : before.Kept) {thread : Thread}
    {rest : Program} {act : ConnectionAct} (next : before.program thread = .act act :: rest)
    (acted : before.act thread rest act = some after) : after.Kept := by
  have disciplined := kept.disciplined thread
  rw [next] at disciplined
  obtain ⟨permitted, following⟩ := disciplined
  have destroys (connection : Nat) : Disciplined (Allowed thread) (Permitted thread)
      (before.holdings.held thread) (destroy connection ++ rest) :=
    nested_destroy (fun _ => permitted) rest following
  cases act with
  | setConnection connection =>
    cases acted
    refine kept.goOn rfl rfl (fun _ _ => rfl) ?_
    split
    · exact following
    · split
      · exact following
      · exact destroys _
  | leaveScope connection =>
    cases acted
    refine kept.goOn rfl rfl (fun _ _ => rfl) ?_
    split
    · exact following
    · exact destroys connection
  | stop connection =>
    cases acted
    exact kept.goOn rfl rfl (fun _ _ => rfl) following
  | join connection =>
    simp only [Discovery.act] at acted
    split at acted
    · cases acted
      exact kept.goOn rfl rfl (fun _ _ => rfl) following
    · split at acted
      · cases acted
      · cases acted
        apply kept.wait
        rw [next]
        nofun

private theorem held_started (discovery : Discovery) (routine : Routine) :
    (discovery.started routine).holdings = discovery.holdings ∧
      (discovery.started routine).program = discovery.program ∧
      (discovery.started routine).waiting = discovery.waiting := by
  cases routine <;> exact ⟨rfl, rfl, rfl⟩

inductive Stepped (before : Discovery) : Action → Discovery → Prop where
  | begin {thread : Thread} {routine : Routine} (idle : before.program thread = [])
      (runs : routine.runsOn thread = true) (may : before.MayBegin thread routine) :
      Stepped before (.begin thread routine)
        ((before.started routine).goOn thread routine.program)
  | endReceiver {connection : Nat} (idle : before.program (.receive connection) = [])
      (stopped : before.receiver connection = .stopped) :
      Stepped before (.endReceiver connection)
        { before with receiver := Function.update before.receiver connection .ended }
  | acquire {thread : Thread} {mutex : Mutex} {rest : Program}
      (next : before.program thread = .lock mutex :: rest)
      (available : before.Available thread mutex) :
      Stepped before (.run thread)
        ({ before with
          holdings := before.holdings.acquire thread mutex
            (fun owner owned => (available owner owned).1) }.goOn thread rest)
  | wait {thread : Thread} {mutex : Mutex} {rest : Program}
      (next : before.program thread = .lock mutex :: rest)
      (taken : ¬before.Available thread mutex) (waiting : ¬before.waiting thread = true) :
      Stepped before (.run thread) (before.wait thread)
  | release {thread : Thread} {mutex : Mutex} {rest : Program}
      (next : before.program thread = .unlock mutex :: rest)
      (holding : mutex ∈ before.holdings.held thread) :
      Stepped before (.run thread)
        ({ before with
          holdings := before.holdings.release thread mutex holding }.goOn thread rest)
  | act {after : Discovery} {thread : Thread} {act : ConnectionAct} {rest : Program}
      (next : before.program thread = .act act :: rest)
      (acted : before.act thread rest act = some after) : Stepped before (.run thread) after

theorem stepped {before after : Discovery} {action : Action} {outputs : List Unit}
    (legal : machine.step before action = some (after, outputs)) : before.Stepped action after := by
  cases action with
  | begin thread routine =>
    simp only [machine] at legal
    split at legal
    next may => cases legal; exact .begin may.1 may.2.1 may.2.2
    · cases legal
  | endReceiver connection =>
    simp only [machine] at legal
    split at legal
    next may => cases legal; exact .endReceiver may.1 may.2
    · cases legal
  | run thread =>
    simp only [machine] at legal
    split at legal
    · cases legal
    next mutex rest next =>
      split at legal
      next available => cases legal; exact .acquire next available
      next taken =>
        split at legal
        · cases legal
        next waiting => cases legal; exact .wait next taken waiting
    next mutex rest next =>
      split at legal
      next holding => cases legal; exact .release next holding
      · cases legal
    next act rest next =>
      rw [Option.map_eq_some_iff] at legal
      obtain ⟨_, acted, same⟩ := legal
      cases same
      exact .act next acted

theorem Kept.step {before after : Discovery} {action : Action}
    (step : before.Stepped action after) (kept : before.Kept) : after.Kept := by
  cases step with
  | @begin thread routine idle runs may =>
    obtain ⟨holdings, program, waiting⟩ := held_started before routine
    have disciplined := kept.disciplined thread
    rw [idle] at disciplined
    have nothing : before.holdings.held thread = [] := disciplined
    refine kept.goOn program waiting (fun _ _ => by rw [holdings]) ?_
    rw [holdings, nothing]
    exact (nested_routine runs).disciplined
  | endReceiver idle stopped => exact ⟨kept.disciplined, kept.waiting⟩
  | acquire next available => exact kept.acquire next _
  | @wait thread mutex rest next taken waiting =>
    apply kept.wait
    rw [next]
    intro same holding
    cases same
    refine taken fun owner owned => ?_
    rw [(before.holdings.owned thread .systems).mpr holding] at owned
    exact ⟨(Option.some.inj owned).symm, rfl⟩
  | release next holding => exact kept.release next holding
  | act next acted => exact kept.act next acted

variable (discovery : Discovery)

/-- In `subscribe_on_new_system`, before it asks for the systems. -/
def Subscribing (thread : Thread) : Prop :=
  .newSystemCallback ∈ discovery.holdings.held thread ∧ .lock .systems ∈ discovery.program thread

/-- In `set_connected` or `set_disconnected`, before the notification. -/
def Notifying (id : Nat) (thread : Thread) : Prop :=
  .system id ∈ discovery.holdings.held thread ∧
    .lock .newSystemCallback ∈ discovery.program thread

/-- In `receive_message`, before the notification of a discovery, or before it asks for a system
that another thread is about to report as lost. -/
def Discovering (thread : Thread) : Prop :=
  .systems ∈ discovery.holdings.held thread ∧
    (.lock .newSystemCallback ∈ discovery.program thread ∨
      ∃ id, .lock (.system id) ∈ discovery.program thread ∧
        ∃ other, discovery.Notifying id other)

/-- In `receive_message`, before it sends something. -/
def Sending (thread : Thread) : Prop :=
  .systems ∈ discovery.holdings.held thread ∧ .lock .connection ∈ discovery.program thread

/-- In `set_connection`, before the old connection's receive thread has been joined. -/
def Replacing (thread : Thread) (connection : Nat) : Prop :=
  .connection ∈ discovery.holdings.held thread ∧
    .act (.join connection) ∈ discovery.program thread

/-- The receive thread of a connection will not end before the connection's mutex is released. -/
def Busy (connection : Nat) : Prop :=
  .lock .connection ∈ discovery.program (.receive connection) ∨
    .lock .systems ∈ discovery.program (.receive connection) ∧
      ∃ thread, discovery.Sending thread

/-- Two threads have come into the middle of opposite orders. -/
def Overlap : Prop :=
  (∃ thread, discovery.Subscribing thread ∧ ∃ other, discovery.Discovering other) ∨
    ∃ thread connection, discovery.Replacing thread connection ∧ discovery.Busy connection

open Classical in
/-- An order of what can be waited for that fits a state without an overlap. -/
noncomputable def rank : Resource → Nat
  | .mutex .connection => if ∃ thread, discovery.Sending thread then 8 else 1
  | .ended connection =>
    if (∃ thread, discovery.Sending thread) ∧
      ∃ thread, discovery.Replacing thread connection then 9 else 2
  | .mutex .systems => if ∃ thread, discovery.Subscribing thread then 6 else 3
  | .mutex (.system id) =>
    if (∃ thread, discovery.Subscribing thread) ∧
      ¬∃ thread, discovery.Notifying id thread then 7 else 4
  | .mutex .newSystemCallback => 5

variable {discovery}

private theorem rank_lt (resource : Resource) : discovery.rank resource < 10 := by
  rcases resource with mutex | connection
  · cases mutex <;> simp only [rank] <;> (try split) <;> decide
  · simp only [rank]
    split <;> decide

theorem Kept.allowed (kept : discovery.Kept) {thread : Thread} {mutex : Mutex}
    (next : (discovery.program thread).head? = some (.lock mutex)) :
    Allowed thread (discovery.holdings.held thread) mutex := by
  obtain ⟨rest, whole⟩ := List.head?_eq_some_iff.mp next
  have disciplined := kept.disciplined thread
  rw [whole] at disciplined
  exact disciplined.1

theorem Kept.permitted (kept : discovery.Kept) {thread : Thread} {act : ConnectionAct}
    (next : (discovery.program thread).head? = some (.act act)) :
    Permitted thread (discovery.holdings.held thread) act := by
  obtain ⟨rest, whole⟩ := List.head?_eq_some_iff.mp next
  have disciplined := kept.disciplined thread
  rw [whole] at disciplined
  exact disciplined.1

private theorem rank_ended (apart : ¬discovery.Overlap) {connection : Nat}
    (busy : ∀ thread, discovery.Sending thread → discovery.Busy connection) :
    discovery.rank (.ended connection) = 2 := by
  apply if_neg
  rintro ⟨⟨sender, sending⟩, thread, replacing⟩
  exact apart (.inr ⟨thread, connection, replacing, busy sender sending⟩)

/-- Only one thread is inside `receive_message`, so if any sends, this one does. -/
private theorem busy_of_holding {connection : Nat}
    (holding : .systems ∈ discovery.holdings.held (.receive connection)) :
    ∀ thread, discovery.Sending thread → discovery.Busy connection := by
  intro thread sending
  have same := discovery.holdings.exclusive sending.1 holding
  subst same
  exact .inl sending.2

section
variable (kept : discovery.Kept) (apart : ¬discovery.Overlap) {thread : Thread}
include kept apart

private theorem rank_lt_systems (waits : discovery.Waits thread (.mutex .systems)) {held : Resource}
    (holds : discovery.Holds thread held) :
    discovery.rank held < discovery.rank (.mutex .systems) := by
  obtain ⟨waiting, next⟩ := waits
  have least : 3 ≤ discovery.rank (.mutex .systems) := by
    simp only [rank]
    split <;> decide
  rcases held with mutex | connection
  · have member := (discovery.holdings.owned thread mutex).mp holds
    rcases kept.allowed next mutex member with rfl | rfl
    · exact absurd member (kept.waiting thread waiting next)
    · have subscribing : discovery.Subscribing thread := ⟨member, List.mem_of_head? next⟩
      simp only [rank]
      rw [if_pos ⟨thread, subscribing⟩]
      decide
  · obtain ⟨rfl, _⟩ := holds
    rw [rank_ended apart fun sender sending => .inr ⟨List.mem_of_head? next, sender, sending⟩]
    exact least

private theorem rank_lt_newSystemCallback
    (waits : discovery.Waits thread (.mutex .newSystemCallback))
    {held : Resource} (holds : discovery.Holds thread held) :
    discovery.rank held < discovery.rank (.mutex .newSystemCallback) := by
  obtain ⟨_, next⟩ := waits
  obtain ⟨under, outer⟩ := kept.allowed next
  have coming := List.mem_of_head? next
  rcases held with mutex | connection
  · have member := (discovery.holdings.owned thread mutex).mp holds
    rcases outer mutex member with rfl | ⟨id, rfl⟩
    · have alone : ¬∃ other, discovery.Subscribing other := by
        rintro ⟨other, subscribing⟩
        exact apart (.inl ⟨other, subscribing, thread, member, .inl coming⟩)
      simp only [rank]
      rw [if_neg alone]
      decide
    · have notifying : ∃ other, discovery.Notifying id other := ⟨thread, member, coming⟩
      simp only [rank]
      rw [if_neg (fun both => both.2 notifying)]
      decide
  · obtain ⟨rfl, _⟩ := holds
    rw [rank_ended apart (busy_of_holding (under connection rfl))]
    show 2 < 5
    decide

private theorem rank_lt_system {id : Nat} (waits : discovery.Waits thread (.mutex (.system id)))
    {held : Resource} (holds : discovery.Holds thread held) :
    discovery.rank held < discovery.rank (.mutex (.system id)) := by
  obtain ⟨_, next⟩ := waits
  obtain ⟨under, outer⟩ := kept.allowed next
  rcases held with mutex | connection
  · have member := (discovery.holdings.owned thread mutex).mp holds
    have same := outer mutex member
    subst same
    simp only [rank]
    by_cases subscribed : ∃ other, discovery.Subscribing other
    · have unnotified : ¬∃ other, discovery.Notifying id other := by
        rintro ⟨other, notifying⟩
        obtain ⟨subscriber, subscribing⟩ := subscribed
        exact apart (.inl ⟨subscriber, subscribing, thread, member,
          .inr ⟨id, List.mem_of_head? next, other, notifying⟩⟩)
      rw [if_pos subscribed, if_pos ⟨subscribed, unnotified⟩]
      decide
    · rw [if_neg subscribed, if_neg (fun both => subscribed both.1)]
      decide
  · obtain ⟨rfl, _⟩ := holds
    rw [rank_ended apart (busy_of_holding (under connection rfl))]
    simp only [rank]
    split <;> decide

private theorem rank_lt_connection (waits : discovery.Waits thread (.mutex .connection))
    {held : Resource} (holds : discovery.Holds thread held) :
    discovery.rank held < discovery.rank (.mutex .connection) := by
  obtain ⟨_, next⟩ := waits
  obtain ⟨under, outer⟩ := kept.allowed next
  have coming := List.mem_of_head? next
  rcases held with mutex | connection
  · have member := (discovery.holdings.owned thread mutex).mp holds
    have same := outer mutex member
    subst same
    have sending : discovery.Sending thread := ⟨member, coming⟩
    simp only [rank]
    rw [if_pos (⟨thread, sending⟩ : ∃ thread, discovery.Sending thread)]
    split <;> decide
  · obtain ⟨rfl, _⟩ := holds
    have sending : discovery.Sending (.receive connection) := ⟨under connection rfl, coming⟩
    rw [rank_ended apart fun _ _ => .inl coming]
    simp only [rank]
    rw [if_pos ⟨_, sending⟩]
    decide

omit apart in
private theorem rank_lt_ended {connection : Nat}
    (waits : discovery.Waits thread (.ended connection))
    {held : Resource} (holds : discovery.Holds thread held) :
    discovery.rank held < discovery.rank (.ended connection) := by
  obtain ⟨_, next⟩ := waits
  obtain ⟨outer, user⟩ := kept.permitted next
  rcases held with mutex | other
  · have member := (discovery.holdings.owned thread mutex).mp holds
    have same := outer mutex member
    subst same
    have replacing : ∃ thread, discovery.Replacing thread connection :=
      ⟨thread, member, List.mem_of_head? next⟩
    simp only [rank]
    by_cases sent : ∃ other, discovery.Sending other
    · rw [if_pos sent, if_pos ⟨sent, replacing⟩]
      decide
    · rw [if_neg sent, if_neg (fun both => sent both.1)]
      decide
  · exact absurd holds.1 (user other)

/-- Without an overlap, what a thread waits for ranks above what it holds. -/
private theorem not_deadlocked_of_apart (members : Thread → Prop) :
    ¬Deadlocked discovery.Waits discovery.Holds members := by
  apply Library.not_deadlocked discovery.rank 10 rank_lt
  intro thread wanted waits held holds
  rcases wanted with mutex | connection
  · cases mutex with
    | systems => exact rank_lt_systems kept apart waits holds
    | newSystemCallback => exact rank_lt_newSystemCallback kept apart waits holds
    | connection => exact rank_lt_connection kept apart waits holds
    | system id => exact rank_lt_system kept apart waits holds
  · exact rank_lt_ended kept waits holds

end

/-- One thread has got further; the others are where they were. -/
structure Advances (thread : Thread) (before after : Discovery) : Prop where
  idle : after.waiting thread = false ∨ after.program thread = []
  held : ∀ other, other ≠ thread → after.holdings.held other = before.holdings.held other
  program : ∀ other, other ≠ thread → after.program other = before.program other
  waiting : ∀ other, other ≠ thread → after.waiting other = before.waiting other
  receiver : ∀ connection, after.receiver connection ≠ .ended →
    before.receiver connection ≠ .ended

private theorem advances_goOn {before after : Discovery} {thread : Thread} {rest : Program}
    (program : after.program = before.program) (waiting : after.waiting = before.waiting)
    (held : ∀ other, other ≠ thread → after.holdings.held other = before.holdings.held other)
    (receiver : ∀ connection, after.receiver connection ≠ .ended →
      before.receiver connection ≠ .ended) : Advances thread before (after.goOn thread rest) := by
  refine ⟨.inl (by simp [Discovery.goOn]), held, ?_, ?_, receiver⟩
  · intro other different
    simp [Discovery.goOn, different, program]
  · intro other different
    simp [Discovery.goOn, different, waiting]

private theorem advances_act {before after : Discovery} {thread : Thread} {rest : Program}
    {act : ConnectionAct} (acted : before.act thread rest act = some after) :
    after = before.wait thread ∨ Advances thread before after := by
  cases act with
  | setConnection connection | leaveScope connection =>
    cases acted
    exact .inr (advances_goOn rfl rfl (fun _ _ => rfl) fun _ alive => alive)
  | stop connection =>
    cases acted
    refine .inr (advances_goOn rfl rfl (fun _ _ => rfl) ?_)
    intro other alive
    by_cases same : other = connection
    · subst same
      intro ended
      simp [ended] at alive
    · simpa [same] using alive
  | join connection =>
    simp only [Discovery.act] at acted
    split at acted
    · cases acted
      exact .inr (advances_goOn rfl rfl (fun _ _ => rfl) fun _ alive => alive)
    · split at acted
      · cases acted
      · cases acted
        exact .inl rfl

def Action.actor : Action → Thread
  | .begin thread _ | .run thread => thread
  | .endReceiver connection => .receive connection

private theorem advances_started {before : Discovery} {thread : Thread} {routine : Routine}
    (runs : routine.runsOn thread = true) (may : before.MayBegin thread routine) :
    Advances thread before ((before.started routine).goOn thread routine.program) := by
  obtain ⟨holdings, program, waiting⟩ := held_started before routine
  refine advances_goOn program waiting (fun _ _ => by rw [holdings]) ?_
  intro connection alive
  cases routine with
  | setupUdpConnection new =>
    have absent : before.receiver new = .absent := by
      cases thread with
      | receive other => exact absurd runs (by simp [Routine.runsOn])
      | timer => exact may
      | user number => exact may
    by_cases same : connection = new
    · rw [same, absent]
      decide
    · simpa [started, same] using alive
  | _ => exact alive

private theorem advances_step {before after : Discovery} {action : Action}
    (step : before.Stepped action after) :
    after = before.wait action.actor ∨ Advances action.actor before after := by
  cases step with
  | begin idle runs may => exact .inr (advances_started runs may)
  | @endReceiver connection idle stopped =>
    refine .inr ⟨.inr idle, fun _ _ => rfl, fun _ _ => rfl, fun _ _ => rfl, ?_⟩
    intro other alive
    by_cases same : other = connection
    · simp [same] at alive
    · simpa [same] using alive
  | acquire next available =>
    exact .inr (advances_goOn rfl rfl
      (fun _ different => Holdings.held_acquire_of_ne different
        (fun owner owned => (available owner owned).1)) fun _ alive => alive)
  | wait next taken waiting => exact .inl rfl
  | release next holding =>
    exact .inr (advances_goOn rfl rfl
      (fun _ different => Holdings.held_release_of_ne different holding) fun _ alive => alive)
  | act next acted => exact advances_act acted

private theorem deadlocked_before {before after : Discovery} {thread : Thread}
    (advances : Advances thread before after) {members : Thread → Prop}
    (deadlocked : Deadlocked after.Waits after.Holds members) :
    Deadlocked before.Waits before.Holds members := by
  have apart : ∀ member, members member → member ≠ thread := by
    rintro member inside rfl
    obtain ⟨resource, waits, _⟩ := deadlocked.stuck member inside
    rcases advances.idle with running | done
    · cases resource <;> simp [Waits, running] at waits
    · cases resource <;> simp [Waits, done] at waits
  refine ⟨deadlocked.inhabited, ?_⟩
  intro member inside
  obtain ⟨resource, waits, other, among, holds⟩ := deadlocked.stuck member inside
  refine ⟨resource, ?_, other, among, ?_⟩
  · cases resource with
    | mutex mutex | ended connection =>
      simpa only [Waits, advances.waiting member (apart member inside),
        advances.program member (apart member inside)] using waits
  · cases resource with
    | mutex mutex =>
      have member := (after.holdings.owned other mutex).mp holds
      rw [advances.held other (apart other among)] at member
      exact (before.holdings.owned other mutex).mpr member
    | ended connection => exact ⟨holds.1, advances.receiver connection holds.2⟩

private theorem not_overlap_initial : ¬Overlap {} := by
  rintro (⟨_, subscribing, _⟩ | ⟨_, _, replacing, _⟩)
  · exact absurd subscribing.1 (by simp)
  · exact absurd replacing.1 (by simp)

/-- In every run whose steps are all taken from states without an overlap, whatever messages arrive
and whatever users call, no threads ever block each other. -/
theorem never_deadlocked {log : List (Taken Discovery Action Unit)} {last : Discovery}
    (run : machine.Run {} log last) (apart : ∀ taken ∈ log, ¬taken.before.Overlap)
    (members : Thread → Prop) : ¬Deadlocked last.Waits last.Holds members := by
  have kept := run.invariant (fun _ legal before => Kept.step (stepped legal) before) kept_initial
  cases run with
  | nil => exact not_deadlocked_of_apart kept_initial not_overlap_initial members
  | @snoc log taken earlier legal =>
    have free : ¬taken.before.Overlap := apart taken (by simp)
    have before : taken.before.Kept := (kept.2 taken (by simp)).1
    have after : taken.after.Kept := (kept.2 taken (by simp)).2
    rcases advances_step (stepped legal) with waited | advances
    · -- the step has only made the thread wait
      have still : ¬taken.after.Overlap := by
        rw [waited]
        exact free
      exact not_deadlocked_of_apart after still members
    · intro deadlocked
      exact not_deadlocked_of_apart before free members (deadlocked_before advances deadlocked)

def Confined (threads : List Thread) (discovery : Discovery) : Prop :=
  ∀ thread, thread ∉ threads → discovery.program thread = []

private theorem confined_step {threads : List Thread} {before after : Discovery} {action : Action}
    (step : before.Stepped action after) (inside : action.actor ∈ threads)
    (confined : before.Confined threads) : after.Confined threads := by
  intro thread outside
  rcases advances_step step with rfl | advances
  · exact confined thread outside
  · have different : thread ≠ action.actor := by
      rintro rfl
      exact outside inside
    rw [advances.program thread different]
    exact confined thread outside

def joins : LockOp Mutex ConnectionAct → Bool
  | .act (.join _) => true
  | _ => false

/-- Nobody has yet to take anything in the order of subscriptions or replacements. -/
def Settled (threads : List Thread) (discovery : Discovery) : Prop :=
  ∀ thread ∈ threads,
    (.lock .systems ∈ discovery.program thread →
      .newSystemCallback ∉ discovery.holdings.held thread) ∧
    (.connection ∈ discovery.holdings.held thread →
      ∀ operation ∈ discovery.program thread, joins operation = false)

instance (threads : List Thread) (discovery : Discovery) : Decidable (discovery.Settled threads) :=
  inferInstanceAs (Decidable (∀ thread ∈ threads, (_ → _) ∧ (_ → _)))

private theorem apart_of_settled {threads : List Thread} {discovery : Discovery}
    (confined : discovery.Confined threads) (settled : discovery.Settled threads) :
    ¬discovery.Overlap := by
  have active {thread : Thread} {operation : LockOp Mutex ConnectionAct}
      (coming : operation ∈ discovery.program thread) : thread ∈ threads := by
    by_contra outside
    rw [confined thread outside] at coming
    cases coming
  rintro (⟨thread, ⟨holding, coming⟩, _⟩ | ⟨thread, connection, ⟨holding, coming⟩, _⟩)
  · exact (settled thread (active coming)).1 coming holding
  · have free := (settled thread (active coming)).2 holding _ coming
    cases free

/-- A system is discovered and lost again while users subscribe to it before, and ask for it. -/
def discovers : List Action :=
  [.begin (.user 0) (.setupUdpConnection 0)] ++ List.replicate 4 (.run (.user 0)) ++
  [.begin (.receive 0) (.receiveMessage true [.heartbeat 1 true, .other 1]),
    .begin (.user 0) .isConnected, .run (.receive 0), .run (.user 0)] ++
  List.replicate 8 (.run (.receive 0)) ++ [.begin .timer (.heartbeatsTimedOut 1), .run .timer] ++
  List.replicate 2 (.run (.receive 0)) ++ [.run .timer, .run (.receive 0), .run .timer]

theorem never_deadlocked_discovers :
    ¬Deadlocked (machine.last {} discovers).Waits (machine.last {} discovers).Holds
      fun thread => thread ∈ [.user 0, .receive 0, .timer] := by
  have run := machine.run_last {} discovers (by decide)
  have inside : ∀ taken ∈ machine.log {} discovers,
      taken.action.actor ∈ [.user 0, .receive 0, .timer] := by decide
  have settled : ∀ taken ∈ machine.log {} discovers,
      taken.before.Settled [.user 0, .receive 0, .timer] := by decide
  have confined := (run.guarded
    (fun _ legal acts before => confined_step (stepped legal) acts before) inside
    (fun _ _ => rfl)).2
  exact never_deadlocked run
    (fun taken member => apart_of_settled (confined taken member).1 (settled taken member)) _

/-- A system is discovered while a user subscribes: each waits for the mutex of the other. -/
def subscribesDuringDiscovery : List Action :=
  [.begin (.user 0) (.setupUdpConnection 0),
    .begin (.receive 0) (.receiveMessage false [.heartbeat 1 true]), .run (.receive 0),
    .begin (.user 1) (.subscribeOnNewSystem (some []) false), .run (.user 1), .run (.user 1)] ++
  List.replicate 6 (.run (.receive 0))

/-- A subscription during a discovery blocks both threads. -/
theorem subscription_deadlocks : ¬∀ (log : List (Taken Discovery Action Unit)) (last : Discovery),
    machine.Run {} log last → ∀ members, ¬Deadlocked last.Waits last.Holds members := by
  intro free
  have run := machine.run_last {} subscribesDuringDiscovery (by decide)
  apply free _ _ run fun thread => thread = .receive 0 ∨ thread = .user 1
  refine ⟨⟨.receive 0, .inl rfl⟩, ?_⟩
  rintro thread (rfl | rfl)
  · exact ⟨.mutex .newSystemCallback, ⟨by decide, by decide⟩, .user 1, .inr rfl,
      (by decide : (machine.last {} subscribesDuringDiscovery).holdings.owner
        .newSystemCallback = some (.user 1))⟩
  · exact ⟨.mutex .systems, ⟨by decide, by decide⟩, .receive 0, .inl rfl,
      (by decide : (machine.last {} subscribesDuringDiscovery).holdings.owner
        .systems = some (.receive 0))⟩

/-- The connection is replaced while its receive thread is about to send. -/
def replacesDuringReception : List Action :=
  [.begin (.user 0) (.setupUdpConnection 0)] ++ List.replicate 4 (.run (.user 0)) ++
  [.begin (.user 0) (.setupUdpConnection 1),
    .begin (.receive 0) (.receiveMessage false [.other 1]), .run (.receive 0)] ++
  List.replicate 4 (.run (.user 0)) ++ List.replicate 5 (.run (.receive 0))

theorem replacement_deadlocks : ∃ log last, machine.Run {} log last ∧
    Deadlocked last.Waits last.Holds fun thread => thread = .receive 0 ∨ thread = .user 0 := by
  refine ⟨_, _, machine.run_last {} replacesDuringReception (by decide), ?_⟩
  refine ⟨⟨.receive 0, .inl rfl⟩, ?_⟩
  rintro thread (rfl | rfl)
  · exact ⟨.mutex .connection, ⟨by decide, by decide⟩, .user 0, .inr rfl,
      (by decide : (machine.last {} replacesDuringReception).holdings.owner
        .connection = some (.user 0))⟩
  · exact ⟨.ended 0, ⟨by decide, by decide⟩, .receive 0, .inl rfl, rfl, by decide⟩

end Discovery
end PilotingMavsdk
