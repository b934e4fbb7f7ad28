import Mathlib.Data.List.Nodup
import PilotingMavsdk.SystemConnections

/-! Which system a link-loss notification names. Discoveries carry the id of the message that
caused them; losses carry the id 1, whichever system it is whose watcher has expired. -/

namespace PilotingMavsdk
open Library

namespace Notification

/-- The notifications of one system as an automaton: only what is connected can be lost. -/
def next : Bool → Notification → Option Bool
  | false, .onDiscover _ => some true
  | true, .onTimeout _ => some false
  | _, _ => none

/-- Discoveries and losses take turns, and a discovery comes first. -/
def Alternating (notifications : List Notification) : Prop :=
  (notifications.foldlM next false).isSome = true

instance (notifications : List Notification) : Decidable (Alternating notifications) :=
  inferInstanceAs (Decidable ((notifications.foldlM next false).isSome = true))

def about (systemId : UInt8) (notifications : List Notification) : List Notification :=
  notifications.filter (·.systemId = systemId)

end Notification

namespace MavsdkSystems

def connected (mavsdk : MavsdkSystems) (system : UInt8) : Bool :=
  match mavsdk.systems system with
  | some impl => impl.connected
  | none => false

def watchers (mavsdk : MavsdkSystems) : List UInt8 :=
  mavsdk.selected.toList ++ mavsdk.timeoutHandler.timeouts.map Timeout.callback

/-- Each system has at most one watcher, and only while it is connected. -/
structure Watched (mavsdk : MavsdkSystems) : Prop where
  distinct : mavsdk.watchers.Nodup
  connected : ∀ system ∈ mavsdk.watchers, mavsdk.connected system = true

/-- The notifications fit what is connected before and after. -/
def Follows (before after : MavsdkSystems) (notifications : List Notification) : Prop :=
  ∀ systemId, (Notification.about systemId notifications).foldlM Notification.next
    (before.connected systemId) = some (after.connected systemId)

theorem Follows.refl {before after : MavsdkSystems}
    (same : ∀ systemId, after.connected systemId = before.connected systemId) :
    Follows before after [] := by
  intro systemId
  rw [same]
  rfl

theorem Follows.append {before middle after : MavsdkSystems} {first second : List Notification}
    (start : Follows before middle first) (rest : Follows middle after second) :
    Follows before after (first ++ second) := by
  intro systemId
  rw [Notification.about, List.filter_append, List.foldlM_append]
  have here := start systemId
  rw [Notification.about] at here
  rw [here]
  exact rest systemId

/-- What `set_connected` does: it discovers a system that was not connected, and may add a
watcher for it, or it changes nothing that can be seen here. -/
inductive Connecting (system : UInt8) (before after : MavsdkSystems) :
    List Notification → Prop where
  | discovered (unknown : before.connected system = false)
      (connected : ∀ other, after.connected other =
        if other = system then true else before.connected other)
      (watchers : after.watchers = before.watchers ∨
        after.watchers = before.watchers ++ [system]) :
      Connecting system before after [.onDiscover system]
  | known (connected : ∀ other, after.connected other = before.connected other)
      (watchers : after.watchers = before.watchers) : Connecting system before after []

theorem connected_update (mavsdk : MavsdkSystems) {after : MavsdkSystems} {system : UInt8}
    (impl : SystemImpl)
    (updated : after.systems = Function.update mavsdk.systems system (some impl))
    (other : UInt8) : after.connected other =
      if other = system then impl.connected else mavsdk.connected other := by
  by_cases same : other = system
  · rw [connected, updated, same, Function.update_self, if_pos rfl]
  · rw [connected, updated, Function.update_of_ne same, if_neg same]
    rfl

theorem watchers_refresh (cookie : Cookie) (mavsdk : MavsdkSystems) :
    { mavsdk with timeoutHandler :=
      mavsdk.timeoutHandler.refresh cookie mavsdk.clock }.watchers = mavsdk.watchers := by
  simp only [watchers, TimeoutHandler.refresh, List.map_map]
  congr 1
  apply List.map_congr_left
  intro timeout _
  simp only [Function.comp_apply]
  split <;> rfl

private theorem connecting (system : UInt8) (cookie : Cookie) (mavsdk : MavsdkSystems) :
    Connecting system mavsdk (mavsdk.setConnected system system cookie).1
      (mavsdk.setConnected system system cookie).2 := by
  simp only [setConnected]
  split
  · exact .known (fun _ => rfl) rfl
  next impl present =>
    have known : mavsdk.connected system = impl.connected := by rw [connected, present]
    split
    next unknown =>
      split
      · apply Connecting.discovered (known.trans unknown)
        · exact connected_update mavsdk
            { impl with connected := true, heartbeatTimeoutCookie := cookie } rfl
        · right
          simp [watchers, TimeoutHandler.add]
      · apply Connecting.discovered (known.trans unknown)
        · exact connected_update mavsdk { impl with connected := true } rfl
        · exact .inl rfl
    · split
      · exact .known (fun _ => rfl) (watchers_refresh _ mavsdk)
      · exact .known (fun _ => rfl) rfl

theorem Connecting.follows {system : UInt8} {before after : MavsdkSystems}
    {notifications : List Notification}
    (connecting : Connecting system before after notifications) :
    Follows before after notifications := by
  cases connecting with
  | known connected => exact .refl connected
  | discovered unknown connected =>
    intro systemId
    rw [connected]
    by_cases same : systemId = system
    · subst systemId
      simp [Notification.about, Notification.systemId, unknown, Notification.next]
    · have other : system ≠ systemId := fun equal => same equal.symm
      simp [Notification.about, Notification.systemId, same, other]

theorem Connecting.watched {system : UInt8} {before after : MavsdkSystems}
    {notifications : List Notification}
    (connecting : Connecting system before after notifications) (watched : before.Watched) :
    after.Watched := by
  cases connecting with
  | known connected watchers =>
    constructor
    · rw [watchers]
      exact watched.distinct
    · intro other member
      rw [watchers] at member
      rw [connected]
      exact watched.connected other member
  | discovered unknown connected watchers =>
    have unwatched : system ∉ before.watchers := by
      intro member
      have lively := watched.connected system member
      rw [unknown] at lively
      cases lively
    rcases watchers with same | added
    · constructor
      · rw [same]
        exact watched.distinct
      · intro other member
        rw [same] at member
        rw [connected, watched.connected other member]
        split <;> rfl
    · constructor
      · rw [added]
        apply List.nodup_append.mpr
        refine ⟨watched.distinct, by simp, ?_⟩
        intro other member single alone same
        rw [List.mem_singleton.mp alone] at same
        exact unwatched (same ▸ member)
      · intro other member
        rw [connected]
        split
        · rfl
        next different =>
          rw [added] at member
          rcases List.mem_append.mp member with member | alone
          · exact watched.connected other member
          · exact absurd (List.mem_singleton.mp alone) different

theorem Connecting.of_same {system : UInt8} {before made after : MavsdkSystems}
    {notifications : List Notification}
    (connecting : Connecting system made after notifications)
    (connected : ∀ other, made.connected other = before.connected other)
    (watchers : made.watchers = before.watchers) :
    Connecting system before after notifications := by
  cases connecting with
  | discovered unknown changed added =>
    rw [connected] at unknown
    rw [watchers] at added
    apply Connecting.discovered unknown _ added
    intro other
    rw [changed, connected]
  | known kept same =>
    apply Connecting.known
    · intro other
      rw [kept, connected]
    · rw [same, watchers]

/-- A new system is not connected, but the only one is connected at once. -/
private theorem making (systemId : UInt8) (cookie : Cookie) {mavsdk : MavsdkSystems}
    (absent : mavsdk.systems systemId = none) :
    Connecting systemId mavsdk (mavsdk.makeSystemWithComponent systemId cookie).1
      (mavsdk.makeSystemWithComponent systemId cookie).2 := by
  have unknown : mavsdk.connected systemId = false := by rw [connected, absent]
  let impl : SystemImpl := { alwaysConnected := mavsdk.isSingleSystem }
  let made := { mavsdk with systems := Function.update mavsdk.systems systemId (some impl) }
  have same (other : UInt8) : made.connected other = mavsdk.connected other := by
    rw [connected_update mavsdk impl rfl]
    split
    next own => rw [own, unknown]
    · rfl
  simp only [makeSystemWithComponent]
  split
  · exact (connecting systemId cookie made).of_same same rfl
  · exact .known same rfl

theorem receiving (systemId : UInt8) (heartbeat : Bool) (cookie : Cookie) {mavsdk : MavsdkSystems}
    (watched : mavsdk.Watched) :
    (mavsdk.receiveMessage systemId heartbeat cookie).1.Watched ∧
      Follows mavsdk (mavsdk.receiveMessage systemId heartbeat cookie).1
        (mavsdk.receiveMessage systemId heartbeat cookie).2 := by
  simp only [receiveMessage]
  split
  · exact ⟨watched, .refl fun _ => rfl⟩
  · generalize found : (if (mavsdk.systems systemId).isSome then (mavsdk, [])
      else mavsdk.makeSystemWithComponent systemId cookie) = made
    have first : made.1.Watched ∧ Follows mavsdk made.1 made.2 := by
      subst found
      split
      · exact ⟨watched, .refl fun _ => rfl⟩
      next absent =>
        have joined := making systemId cookie (by simpa using absent)
        exact ⟨joined.watched watched, joined.follows⟩
    split
    · have second := connecting systemId cookie made.1
      exact ⟨second.watched first.1, first.2.append second.follows⟩
    · exact first

theorem selecting {mavsdk : MavsdkSystems} (watched : mavsdk.Watched) {timeout : Timeout UInt8}
    (idle : mavsdk.selected = none) (member : timeout ∈ mavsdk.timeoutHandler.timeouts) :
    { mavsdk with
      timeoutHandler := mavsdk.timeoutHandler.remove timeout.cookie
      selected := some timeout.callback }.Watched := by
  have distinct : (mavsdk.timeoutHandler.timeouts.map Timeout.callback).Nodup := by
    have all := watched.distinct
    rw [watchers, idle] at all
    exact all
  constructor
  · apply List.nodup_cons.mpr
    constructor
    · intro still
      obtain ⟨other, kept, same⟩ := List.mem_map.mp still
      obtain ⟨inside, different⟩ := List.mem_filter.mp kept
      have equal := List.inj_on_of_nodup_map distinct inside member same
      simp [equal] at different
    · exact distinct.sublist (List.filter_sublist.map Timeout.callback)
  · intro system present
    apply watched.connected
    rw [watchers, idle]
    rcases List.mem_cons.mp present with rfl | present
    · exact List.mem_map_of_mem member
    · obtain ⟨other, kept, rfl⟩ := List.mem_map.mp present
      exact List.mem_map_of_mem (List.mem_filter.mp kept).1

theorem present_of_connected {mavsdk : MavsdkSystems} {system : UInt8}
    (lively : mavsdk.connected system = true) : ∃ impl, mavsdk.systems system = some impl := by
  unfold connected at lively
  split at lively
  next impl present => exact ⟨impl, present⟩
  · cases lively

private theorem connected_setDisconnected {mavsdk : MavsdkSystems} {system : UInt8} (sysid : UInt8)
    (lively : mavsdk.connected system = true) (other : UInt8) :
    (mavsdk.setDisconnected system sysid).1.connected other =
      if other = system then false else mavsdk.connected other := by
  obtain ⟨impl, present⟩ := present_of_connected lively
  apply connected_update mavsdk { impl with connected := false }
  simp only [setDisconnected, present]

private theorem notifications_setDisconnected {mavsdk : MavsdkSystems} {system : UInt8}
    (sysid : UInt8) (lively : mavsdk.connected system = true) :
    (mavsdk.setDisconnected system sysid).2 = [.onTimeout sysid] := by
  obtain ⟨impl, present⟩ := present_of_connected lively
  simp only [setDisconnected, present]

private theorem watchers_setDisconnected (system sysid : UInt8) (mavsdk : MavsdkSystems) :
    (mavsdk.setDisconnected system sysid).1.watchers = mavsdk.watchers := by
  simp only [setDisconnected]
  split <;> rfl

theorem watched_timingOut {mavsdk : MavsdkSystems} (watched : mavsdk.Watched) {system : UInt8}
    (fired : mavsdk.selected = some system) :
    ({ mavsdk with selected := none }.heartbeatsTimedOut system).1.Watched := by
  have watchers_eq : mavsdk.watchers =
      system :: mavsdk.timeoutHandler.timeouts.map Timeout.callback := by
    rw [watchers, fired]
    rfl
  have distinct := watched.distinct
  rw [watchers_eq, List.nodup_cons] at distinct
  have lively : { mavsdk with selected := none }.connected system = true :=
    watched.connected system (by simp [watchers_eq])
  constructor
  · rw [heartbeatsTimedOut, watchers_setDisconnected]
    exact distinct.2
  · intro other member
    rw [heartbeatsTimedOut, watchers_setDisconnected] at member
    rw [heartbeatsTimedOut, connected_setDisconnected 1 lively]
    split
    next same => exact absurd (same ▸ member) distinct.1
    · exact watched.connected other (watchers_eq ▸ List.mem_cons_of_mem _ member)

private theorem follows_timingOut {mavsdk : MavsdkSystems} (lively : mavsdk.connected 1 = true) :
    Follows mavsdk (mavsdk.heartbeatsTimedOut 1).1 (mavsdk.heartbeatsTimedOut 1).2 := by
  intro systemId
  rw [heartbeatsTimedOut, connected_setDisconnected 1 lively,
    notifications_setDisconnected 1 lively]
  by_cases same : systemId = 1
  · subst systemId
    simp [Notification.about, Notification.systemId, lively, Notification.next]
  · have other : 1 ≠ systemId := fun equal => same equal.symm
    simp [Notification.about, Notification.systemId, same, other]

inductive Stepped (mavsdk : MavsdkSystems) :
    SystemsAction → MavsdkSystems → List Notification → Prop where
  | setupUdpConnection :
      Stepped mavsdk .setupUdpConnection { mavsdk with isSingleSystem := false } []
  | receiveMessage {systemId : UInt8} {heartbeat : Bool} {cookie : Cookie}
      (fresh : cookie ∉ mavsdk.timeoutHandler.cookies) :
      Stepped mavsdk (.receiveMessage systemId heartbeat cookie)
        (mavsdk.receiveMessage systemId heartbeat cookie).1
        (mavsdk.receiveMessage systemId heartbeat cookie).2
  | tick {nanoseconds : Nat} :
      Stepped mavsdk (.tick nanoseconds) { mavsdk with clock := mavsdk.clock + nanoseconds } []
  | select {timeout : Timeout UInt8} (idle : mavsdk.selected = none)
      (member : timeout ∈ mavsdk.timeoutHandler.timeouts) :
      Stepped mavsdk (.select timeout.cookie)
        { mavsdk with
          timeoutHandler := mavsdk.timeoutHandler.remove timeout.cookie
          selected := some timeout.callback } []
  | heartbeatsTimedOut {system : UInt8} (fired : mavsdk.selected = some system) :
      Stepped mavsdk .heartbeatsTimedOut
        ({ mavsdk with selected := none }.heartbeatsTimedOut system).1
        ({ mavsdk with selected := none }.heartbeatsTimedOut system).2

theorem stepped {before after : MavsdkSystems} {action : SystemsAction}
    {notifications : List Notification}
    (step : machine.step before action = some (after, notifications)) :
    Stepped before action after notifications := by
  simp only [machine] at step
  cases action with
  | setupUdpConnection =>
    cases step
    exact .setupUdpConnection
  | receiveMessage systemId heartbeat cookie =>
    simp only at step
    split at step
    next free =>
      obtain ⟨rfl, rfl⟩ := Prod.mk.inj (Option.some.inj step)
      exact .receiveMessage free.2
    · cases step
  | tick nanoseconds =>
    cases step
    exact .tick
  | select cookie =>
    simp only at step
    split at step
    next timeout idle found =>
      split at step
      · cases step
        have same : timeout.cookie = cookie := by simpa using List.find?_some found
        subst same
        exact .select idle (List.mem_of_find?_eq_some found)
      · cases step
    · cases step
  | heartbeatsTimedOut =>
    simp only at step
    split at step
    next system fired =>
      obtain ⟨rfl, rfl⟩ := Prod.mk.inj (Option.some.inj step)
      exact .heartbeatsTimedOut fired
    · cases step

abbrev Step := Taken MavsdkSystems SystemsAction Notification

/-- The callback of a watcher tells the loss of its own system, and nothing else. -/
def NamesOwn (taken : Step) : Prop :=
  taken.action = .heartbeatsTimedOut → ∀ system, taken.before.selected = some system →
    taken.outputs = [.onTimeout system]

/-- If a watcher goes off, it is the one of the system with the id 1. -/
def FirstOnly (taken : Step) : Prop :=
  taken.action = .heartbeatsTimedOut → taken.before.selected = some 1

private theorem step_tracks {taken : Step} (legal : machine.Legal taken)
    (watched : taken.before.Watched) (first : FirstOnly taken) :
    taken.after.Watched ∧ Follows taken.before taken.after taken.outputs ∧ NamesOwn taken := by
  obtain ⟨before, action, after, notifications⟩ := taken
  have step : machine.step before action = some (after, notifications) := legal
  cases stepped step with
  | setupUdpConnection =>
    exact ⟨⟨watched.distinct, watched.connected⟩, .refl fun _ => rfl, nofun⟩
  | @receiveMessage systemId heartbeat cookie fresh =>
    obtain ⟨still, follows⟩ := receiving systemId heartbeat cookie watched
    exact ⟨still, follows, nofun⟩
  | tick => exact ⟨⟨watched.distinct, watched.connected⟩, .refl fun _ => rfl, nofun⟩
  | select idle member => exact ⟨selecting watched idle member, .refl fun _ => rfl, nofun⟩
  | @heartbeatsTimedOut system fired =>
    have one : system = 1 := Option.some_inj.mp (fired.symm.trans (first rfl))
    subst one
    have lively : { before with selected := none }.connected 1 = true := by
      apply watched.connected
      rw [watchers, fired]
      exact List.mem_cons_self
    refine ⟨watched_timingOut watched fired, follows_timingOut lively, ?_⟩
    intro _ system own
    cases fired.symm.trans own
    exact notifications_setDisconnected 1 lively

private theorem firstOnly_of_namesOwn {taken : Step} (legal : machine.Legal taken)
    (named : NamesOwn taken) : FirstOnly taken := by
  obtain ⟨before, action, after, notifications⟩ := taken
  rintro rfl
  have step : machine.step before .heartbeatsTimedOut = some (after, notifications) := legal
  cases stepped step with
  | @heartbeatsTimedOut system fired =>
    have told : ({ before with selected := none }.heartbeatsTimedOut system).2 =
        [.onTimeout system] := named rfl system fired
    simp only [heartbeatsTimedOut, setDisconnected] at told
    split at told
    · cases told
    · cases told
      exact fired

private theorem run_tracks {first last : MavsdkSystems} {log : List Step}
    (run : machine.Run first log last) (watched : first.Watched)
    (allowed : ∀ taken ∈ log, FirstOnly taken) :
    last.Watched ∧ Follows first last (log.flatMap Taken.outputs) ∧
      ∀ taken ∈ log, NamesOwn taken := by
  induction run with
  | nil => exact ⟨watched, .refl fun _ => rfl, by simp⟩
  | @snoc log taken run legal ih =>
    obtain ⟨before, follows, named⟩ := ih fun other member => allowed other (by simp [member])
    obtain ⟨after, here, names⟩ := step_tracks legal before (allowed taken (by simp))
    refine ⟨after, ?_, ?_⟩
    · rw [List.flatMap_append]
      apply follows.append
      simpa using here
    · intro other member
      rcases List.mem_append.mp member with member | member
      · exact named other member
      · rwa [List.mem_singleton.mp member]

/-- In every run from the start, for any systems and any order of their heartbeats and timers:
the notifications of each system alternate and each watcher tells the loss of its own system
exactly if no watcher but that of the system with the id 1 ever goes off. -/
theorem losses_named_iff {single : Bool} {log : List Step} {last : MavsdkSystems}
    (run : machine.Run { isSingleSystem := single } log last) :
    ((∀ systemId, Notification.Alternating
        (Notification.about systemId (log.flatMap Taken.outputs))) ∧
      ∀ taken ∈ log, NamesOwn taken) ↔ ∀ taken ∈ log, FirstOnly taken := by
  constructor
  · intro ⟨_, named⟩ taken member
    exact firstOnly_of_namesOwn (run.legal taken member) (named taken member)
  · intro allowed
    obtain ⟨_, follows, named⟩ := run_tracks run ⟨by simp [watchers], by simp [watchers]⟩ allowed
    refine ⟨?_, named⟩
    intro systemId
    have ended := follows systemId
    rw [Notification.Alternating]
    simp only [connected] at ended
    rw [ended]
    rfl

/-- A heartbeat of system 2, and then none for more than three seconds. -/
theorem losses_misnamed : ¬∀ (log : List Step) (last : MavsdkSystems),
    machine.Run {} log last → (∀ systemId, Notification.Alternating
        (Notification.about systemId (log.flatMap Taken.outputs))) ∧
      ∀ taken ∈ log, NamesOwn taken := by
  intro named
  let actions : List SystemsAction := [.receiveMessage 2 true 16, .tick 3000000001, .select 16,
    .heartbeatsTimedOut]
  have run := machine.run_last {} actions (by decide)
  have alternating := (named _ _ run).1 1
  revert alternating
  decide

/-- Systems 1 and 2 are discovered, and only the first is lost. -/
theorem losses_named_iff_first :
    let actions : List SystemsAction := [.receiveMessage 1 true 16, .receiveMessage 2 true 32,
      .tick 2000000000, .receiveMessage 2 true 48, .tick 1000000001, .select 16,
      .heartbeatsTimedOut]
    let log := machine.log {} actions
    log.length = 7 ∧ (((∀ systemId, Notification.Alternating
        (Notification.about systemId (log.flatMap Taken.outputs))) ∧
      ∀ taken ∈ log, NamesOwn taken) ↔ ∀ taken ∈ log, FirstOnly taken) := by
  intro actions log
  have run := machine.run_last {} actions (by decide)
  exact ⟨by decide, losses_named_iff run⟩

end MavsdkSystems
end PilotingMavsdk
