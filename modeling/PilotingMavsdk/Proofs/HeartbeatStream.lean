import PilotingMavsdk.CallEveryHandler
import PilotingMavsdk.Proofs.LinkLoss

/-! The stream of own heartbeats. Each call of `start_sending_heartbeat` adds an entry and stores
its key in place of the last one, so a second call leaves an entry that nobody can remove. -/

namespace PilotingMavsdk
open Library

namespace CallEveryHandler
variable {Callback : Type}

def entriesOf [DecidableEq Callback] (callback : Callback) (handler : CallEveryHandler Callback) :
    List (Entry Callback) :=
  handler.entries.filter (·.callback = callback)

section
variable [DecidableEq Callback] (callback : Callback) (handler : CallEveryHandler Callback)

private theorem entriesOf_add (interval : ℚ) (now : Int) (cookie : Cookie) :
    (handler.add callback interval now cookie).entriesOf callback = handler.entriesOf callback ++
      [⟨cookie, callback, shiftSteadyTimeBy now (-interval - 1 / 1000), interval⟩] := by
  simp [entriesOf, add]

private theorem entriesOf_add_other {other : Callback} (different : other ≠ callback) (interval : ℚ)
    (now : Int) (cookie : Cookie) :
    (handler.add other interval now cookie).entriesOf callback = handler.entriesOf callback := by
  simp [entriesOf, add, different]

theorem cookies_onEntry (cookie : Cookie) (change : Entry Callback → Entry Callback)
    (keepsCookie : ∀ entry, (change entry).cookie = entry.cookie)
    (keepsCallback : ∀ entry, (change entry).callback = entry.callback) :
    ((handler.onEntry cookie change).entriesOf callback).map Entry.cookie =
      (handler.entriesOf callback).map Entry.cookie := by
  simp only [entriesOf, onEntry]
  induction handler.entries with
  | nil => rfl
  | cons entry entries ih =>
    have callback_eq : (if entry.cookie = cookie then change entry else entry).callback =
        entry.callback := by
      split
      · exact keepsCallback entry
      · rfl
    have cookie_eq : (if entry.cookie = cookie then change entry else entry).cookie =
        entry.cookie := by
      split
      · exact keepsCookie entry
      · rfl
    rw [List.map_cons, List.filter_cons, List.filter_cons, callback_eq]
    split
    · rw [List.map_cons, List.map_cons, cookie_eq, ih]
    · exact ih

private theorem entriesOf_remove (cookie : Cookie) :
    ((handler.remove cookie).entriesOf callback).map Entry.cookie =
      ((handler.entriesOf callback).map Entry.cookie).filter (· ≠ cookie) := by
  simp only [entriesOf, remove]
  induction handler.entries with
  | nil => rfl
  | cons entry entries ih =>
    by_cases removed : entry.cookie = cookie <;> by_cases own : entry.callback = callback <;>
      simp_all

end
end CallEveryHandler

namespace MavsdkImpl

/-- The keys of the entries that send heartbeats. -/
def streams (mavsdk : MavsdkImpl) : List Cookie :=
  (mavsdk.callEveryHandler.entriesOf .sendHeartbeat).map Entry.cookie

/-- At most one entry sends heartbeats, and its key is the stored one. -/
structure OneStream (mavsdk : MavsdkImpl) : Prop where
  single : mavsdk.streams.length ≤ 1
  stored : ∀ cookie ∈ mavsdk.streams, cookie = mavsdk.heartbeatSendCookie

theorem OneStream.removed {mavsdk : MavsdkImpl} (one : mavsdk.OneStream) :
    { mavsdk with callEveryHandler :=
      mavsdk.callEveryHandler.remove mavsdk.heartbeatSendCookie }.streams = [] := by
  simp only [streams, CallEveryHandler.entriesOf_remove]
  apply List.filter_eq_nil_iff.mpr
  intro cookie member
  simpa using one.stored cookie member

private theorem OneStream.of_sublist {before after : MavsdkImpl} (one : before.OneStream)
    (streams : after.streams.Sublist before.streams)
    (cookie : after.heartbeatSendCookie = before.heartbeatSendCookie) : after.OneStream := by
  constructor
  · exact Nat.le_trans streams.length_le one.single
  · intro other member
    rw [cookie]
    exact one.stored other (streams.subset member)

private theorem streams_start (entry : Cookie) (mavsdk : MavsdkImpl) :
    (mavsdk.startSendingHeartbeat entry).streams = mavsdk.streams ++ [entry] := by
  simp only [streams, startSendingHeartbeat, CallEveryHandler.entriesOf_add, List.map_append]
  rfl

private theorem oneStream_start (entry : Cookie) (mavsdk : MavsdkImpl) :
    (mavsdk.startSendingHeartbeat entry).OneStream ↔ mavsdk.streams = [] := by
  constructor
  · intro one
    have length := one.single
    rw [streams_start, List.length_append, List.length_singleton] at length
    exact List.eq_nil_of_length_eq_zero (by omega)
  · intro none
    constructor
    · rw [streams_start, none]
      exact Nat.le_refl 1
    · intro cookie member
      rw [streams_start, none] at member
      exact List.mem_singleton.mp member

/-- The message makes a system connected that was not: a heartbeat, or the first message of the
only system. -/
def Discovers (systems : MavsdkSystems) : SystemsAction → Prop
  | .receiveMessage systemId heartbeat _ =>
    systemId ≠ 0 ∧ systems.connected systemId = false ∧
      (heartbeat = true ∨ systems.systems systemId = none ∧ systems.isSingleSystem = true)
  | _ => False

private theorem discovery_setConnected (system sysid : UInt8) (cookie : Cookie)
    (systems : MavsdkSystems) :
    (systems.setConnected system sysid cookie).2.any isDiscovery = true ↔
      (systems.systems system).isSome = true ∧ systems.connected system = false := by
  simp only [MavsdkSystems.setConnected, MavsdkSystems.connected]
  cases systems.systems system with
  | none => simp
  | some impl =>
    obtain ⟨connected, alwaysConnected, stored⟩ := impl
    cases connected <;> cases alwaysConnected <;> simp [isDiscovery]

private theorem discovery_receiveMessage (systemId : UInt8) (heartbeat : Bool) (cookie : Cookie)
    (systems : MavsdkSystems) :
    (systems.receiveMessage systemId heartbeat cookie).2.any isDiscovery = true ↔
      Discovers systems (.receiveMessage systemId heartbeat cookie) := by
  simp only [MavsdkSystems.receiveMessage, Discovers]
  by_cases null : systemId = 0
  · simp [null]
  · rw [if_neg null]
    cases present : systems.systems systemId with
    | some impl =>
      have here := discovery_setConnected systemId systemId cookie systems
      rw [present] at here
      cases heartbeat
      · simp
      · simpa [null] using here
    | none =>
      have unknown : systems.connected systemId = false := by
        rw [MavsdkSystems.connected, present]
      cases single : systems.isSingleSystem
      · have here := discovery_setConnected systemId systemId cookie
          (systems.makeSystemWithComponent systemId cookie).1
        simp only [MavsdkSystems.makeSystemWithComponent, single, MavsdkSystems.connected] at here
        cases heartbeat
        · simp [MavsdkSystems.makeSystemWithComponent, single]
        · simpa [MavsdkSystems.makeSystemWithComponent, single, null, unknown] using here
      · cases heartbeat <;>
          simp [MavsdkSystems.makeSystemWithComponent, single, MavsdkSystems.setConnected,
            isDiscovery, null, unknown]

private theorem discovery_step {before after : MavsdkSystems} {action : SystemsAction}
    {notifications : List Notification}
    (stepped : MavsdkSystems.machine.step before action = some (after, notifications)) :
    notifications.any isDiscovery = true ↔ Discovers before action := by
  cases MavsdkSystems.stepped stepped with
  | setupUdpConnection | tick | select => simp [Discovers]
  | @receiveMessage systemId heartbeat cookie fresh =>
    exact discovery_receiveMessage systemId heartbeat cookie before
  | heartbeatsTimedOut =>
    simp only [MavsdkSystems.heartbeatsTimedOut, MavsdkSystems.setDisconnected]
    split <;> simp [Discovers, isDiscovery]

def Starts (before : MavsdkImpl) : MavsdkAction → Prop
  | .setConnection _ => before.alwaysSendHeartbeats = true
  | .onSystems action _ => Discovers before.systems action
  | _ => False

abbrev Step := Taken MavsdkImpl MavsdkAction MavsdkOutput

/-- `start_sending_heartbeat` is called only while no entry sends heartbeats. -/
def StartsOnce (taken : Step) : Prop :=
  Starts taken.before taken.action → taken.before.streams = []

/-- What a step does to the streams: it starts one more, or it adds none and leaves the stored key
alone. -/
inductive Streaming (before after : MavsdkImpl) (action : MavsdkAction) : Prop where
  | starts (called : Starts before action) (entry : Cookie) (middle : MavsdkImpl)
      (streams : middle.streams = before.streams)
      (started : after = middle.startSendingHeartbeat entry)
  | keeps (quiet : ¬Starts before action) (streams : after.streams.Sublist before.streams)
      (cookie : after.heartbeatSendCookie = before.heartbeatSendCookie)

private theorem keeps_onEntry {before : MavsdkImpl} {action : MavsdkAction}
    (quiet : ¬Starts before action) (cookie : Cookie)
    {change : Entry CalledEvery → Entry CalledEvery}
    (keepsCookie : ∀ entry, (change entry).cookie = entry.cookie)
    (keepsCallback : ∀ entry, (change entry).callback = entry.callback) :
    Streaming before
      { before with callEveryHandler := before.callEveryHandler.onEntry cookie change }
      action := by
  refine .keeps quiet ?_ rfl
  simp only [streams]
  rw [CallEveryHandler.cookies_onEntry _ _ cookie change keepsCookie keepsCallback]

private theorem streaming {taken : Step} (legal : machine.Legal taken) :
    Streaming taken.before taken.after taken.action := by
  obtain ⟨before, action, after, outputs⟩ := taken
  simp only [Machine.Legal, machine] at legal
  cases action with
  | setConfiguration alwaysSendHeartbeats =>
    cases legal
    exact .keeps (by simp [Starts]) (List.Sublist.refl _) rfl
  | setConnection entry =>
    simp only at legal
    split at legal
    · cases legal
      simp only [setConnection]
      split
      next always => exact .starts always entry before rfl rfl
      next never => exact .keeps never (List.Sublist.refl _) rfl
    · cases legal
  | onSystems action entry =>
    simp only at legal
    split at legal
    · cases legal
    next systems notifications stepped =>
      split at legal
      · cases legal
        have announced := discovery_step stepped
        simp only [afterNotifications]
        split
        next told =>
          exact .starts (announced.mp told) entry { before with systems := systems } rfl rfl
        next quiet =>
          exact .keeps (fun called => quiet (announced.mpr called)) (List.Sublist.refl _) rfl
      · cases legal
  | addCallEvery interval entry =>
    simp only at legal
    split at legal
    · cases legal
      refine .keeps (by simp [Starts]) ?_ rfl
      simp only [streams]
      rw [CallEveryHandler.entriesOf_add_other _ _ (by decide)]
    · cases legal
  | changeCallEvery interval cookie =>
    cases legal
    exact keeps_onEntry (by simp [Starts]) cookie (fun _ => rfl) fun _ => rfl
  | resetCallEvery cookie =>
    cases legal
    exact keeps_onEntry (by simp [Starts]) cookie (fun _ => rfl) fun _ => rfl
  | removeCallEvery cookie =>
    cases legal
    refine .keeps (by simp [Starts]) ?_ rfl
    simp only [streams, CallEveryHandler.entriesOf_remove]
    exact List.filter_sublist
  | callBack cookie =>
    simp only at legal
    split at legal
    · cases legal
    · split at legal
      · cases legal
        exact keeps_onEntry (by simp [Starts]) cookie (fun _ => rfl) fun _ => rfl
      · cases legal

private theorem oneStream_step_iff {taken : Step} (legal : machine.Legal taken)
    (one : taken.before.OneStream) : taken.after.OneStream ↔ StartsOnce taken := by
  obtain ⟨called, entry, middle, streams, started⟩ | ⟨quiet, streams, cookie⟩ := streaming legal
  · rw [started, oneStream_start, streams]
    exact ⟨fun none _ => none, fun once => once called⟩
  · exact ⟨fun _ called => absurd called quiet, fun _ => one.of_sublist streams cookie⟩

/-- For every configuration and every run, of connections, discoveries, losses and rediscoveries of
any systems: there is at most one stream of heartbeats at any time, and its key is stored, if and
only if `start_sending_heartbeat` is only called while there is none. -/
theorem oneStream_iff {single always : Bool} {log : List Step} {last : MavsdkImpl}
    (run : machine.Run
      { systems := { isSingleSystem := single }, alwaysSendHeartbeats := always } log last) :
    (∀ taken ∈ log, taken.after.OneStream) ↔ ∀ taken ∈ log, StartsOnce taken := by
  apply Machine.Run.all_iff (fun taken => oneStream_step_iff) _ run
  · exact ⟨Nat.zero_le 1, fun _ member => nomatch member⟩
  · exact fun _ _ _ one => one

/-- Systems 1 and 2 are discovered. -/
theorem streams_grow : ¬∀ (single always : Bool) (log : List Step) (last : MavsdkImpl),
    machine.Run { systems := { isSingleSystem := single }, alwaysSendHeartbeats := always }
      log last → ∀ taken ∈ log, taken.after.OneStream := by
  intro one
  let actions : List MavsdkAction := [.onSystems (.receiveMessage 1 true 16) 64,
    .onSystems (.receiveMessage 2 true 32) 80]
  have run := machine.run_last { systems := { isSingleSystem := false } } actions (by decide)
  obtain ⟨last, member, two⟩ : ∃ taken ∈ machine.log {} actions,
    taken.after.streams.length = 2 := by decide
  have atMost := (one _ _ _ _ run last member).single
  omega

/-- One system is discovered, and its heartbeats go on. -/
theorem oneStream_iff_first :
    let actions : List MavsdkAction := [.setConnection 64, .onSystems (.receiveMessage 1 true 16) 64,
      .onSystems (.tick 1000000000) 80, .callBack 64, .onSystems (.receiveMessage 1 true 32) 80]
    let log := machine.log {} actions
    log.length = 5 ∧ ((∀ taken ∈ log, taken.after.OneStream) ↔ ∀ taken ∈ log, StartsOnce taken) := by
  intro actions log
  have run := machine.run_last {} actions (by decide +kernel)
  exact ⟨by decide +kernel, oneStream_iff run⟩

end MavsdkImpl
end PilotingMavsdk
