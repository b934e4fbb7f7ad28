import PilotingMavsdk.Proofs.LinkLoss
import PilotingMavsdk.Proofs.RunOnce

/-! A system that is not always connected is watched exactly while it is connected: by one timer,
which is in the table or has just been taken out of it by `run_once`. -/

namespace PilotingMavsdk
open Library

namespace MavsdkSystems

/-- Whoever is connected and may be lost has a watcher. -/
def Attended (mavsdk : MavsdkSystems) : Prop :=
  ∀ system impl, mavsdk.systems system = some impl → impl.alwaysConnected = false →
    impl.connected = true → system ∈ mavsdk.watchers

private theorem attended_of_same {before after : MavsdkSystems} (attended : before.Attended)
    (systems : after.systems = before.systems) (watchers : after.watchers = before.watchers) :
    after.Attended := by
  intro system impl present
  rw [systems] at present
  rw [watchers]
  exact attended system impl present

/-- One system changes. It must be watched if it is now connected. -/
private theorem attended_of_update {before after : MavsdkSystems} {system : UInt8}
    {impl : SystemImpl} (attended : before.Attended)
    (updated : after.systems = Function.update before.systems system (some impl))
    (watchers : ∀ other ∈ before.watchers, other ≠ system → other ∈ after.watchers)
    (own : impl.alwaysConnected = false → impl.connected = true → system ∈ after.watchers) :
    after.Attended := by
  intro other found present
  rw [updated] at present
  by_cases same : other = system
  · subst other
    rw [Function.update_self] at present
    cases present
    exact own
  · rw [Function.update_of_ne same] at present
    intro losable lively
    exact watchers other (attended other found present losable lively) same

private theorem attended_setConnected (system sysid : UInt8) (cookie : Cookie)
    {mavsdk : MavsdkSystems}
    (attended : mavsdk.Attended) : (mavsdk.setConnected system sysid cookie).1.Attended := by
  simp only [setConnected]
  split
  · exact attended
  next impl present =>
    split
    · split
      · apply attended_of_update attended rfl
        · intro other member _
          simp only [watchers, TimeoutHandler.add, List.map_append, ← List.append_assoc]
          exact List.mem_append_left _ member
        · intro _ _
          simp [watchers, TimeoutHandler.add]
      next always =>
        apply attended_of_update attended rfl
        · exact fun _ member _ => member
        · exact fun losable _ => absurd losable always
    · split
      · exact attended_of_same attended rfl (watchers_refresh _ mavsdk)
      · exact attended

private theorem attended_receiveMessage (systemId : UInt8) (heartbeat : Bool) (cookie : Cookie)
    {mavsdk : MavsdkSystems} (attended : mavsdk.Attended) :
    (mavsdk.receiveMessage systemId heartbeat cookie).1.Attended := by
  have made : (if (mavsdk.systems systemId).isSome then (mavsdk, [])
      else mavsdk.makeSystemWithComponent systemId cookie).1.Attended := by
    split
    · exact attended
    · simp only [makeSystemWithComponent]
      let impl : SystemImpl := { alwaysConnected := mavsdk.isSingleSystem }
      have added : { mavsdk with
          systems := Function.update mavsdk.systems systemId (some impl) }.Attended := by
        apply attended_of_update attended rfl
        · exact fun _ member _ => member
        · intro _ lively
          cases lively
      split
      · exact attended_setConnected systemId systemId cookie added
      · exact added
  simp only [receiveMessage]
  split
  · exact attended
  · split
    · exact attended_setConnected systemId systemId cookie made
    · exact made

/-- A system that is made connected at once needs no timer. -/
private theorem cookies_makeSystemWithComponent (systemId : UInt8) (cookie : Cookie)
    (mavsdk : MavsdkSystems) :
    (mavsdk.makeSystemWithComponent systemId cookie).1.timeoutHandler = mavsdk.timeoutHandler := by
  simp only [makeSystemWithComponent]
  split
  next single => simp [setConnected, single]
  · rfl

private theorem keys_setConnected (system sysid : UInt8) {cookie : Cookie} {mavsdk : MavsdkSystems}
    (fresh : cookie ∉ mavsdk.timeoutHandler.cookies)
    (distinct : mavsdk.timeoutHandler.cookies.Nodup) :
    (mavsdk.setConnected system sysid cookie).1.timeoutHandler.cookies.Nodup := by
  simp only [setConnected]
  split
  · exact distinct
  · split
    · split
      · rw [TimeoutHandler.cookies_add]
        apply List.nodup_append.mpr
        refine ⟨distinct, by simp, ?_⟩
        intro other member single alone same
        rw [List.mem_singleton.mp alone] at same
        exact fresh (same ▸ member)
      · exact distinct
    · split
      · rw [TimeoutHandler.cookies_refresh]
        exact distinct
      · exact distinct

private theorem keys_receiveMessage (systemId : UInt8) (heartbeat : Bool) {cookie : Cookie}
    {mavsdk : MavsdkSystems} (fresh : cookie ∉ mavsdk.timeoutHandler.cookies)
    (distinct : mavsdk.timeoutHandler.cookies.Nodup) :
    (mavsdk.receiveMessage systemId heartbeat cookie).1.timeoutHandler.cookies.Nodup := by
  have made : (if (mavsdk.systems systemId).isSome then (mavsdk, [])
      else mavsdk.makeSystemWithComponent systemId cookie).1.timeoutHandler =
        mavsdk.timeoutHandler := by
    split
    · rfl
    · exact cookies_makeSystemWithComponent systemId cookie mavsdk
  simp only [receiveMessage]
  split
  · exact distinct
  · split
    · apply keys_setConnected
      · rw [made]
        exact fresh
      · rw [made]
        exact distinct
    · rw [made]
      exact distinct

/-- The timer that is taken out of the table is still a watcher. -/
private theorem attended_select {mavsdk : MavsdkSystems} (attended : mavsdk.Attended)
    {timeout : Timeout UInt8} (distinct : mavsdk.timeoutHandler.cookies.Nodup)
    (idle : mavsdk.selected = none) (member : timeout ∈ mavsdk.timeoutHandler.timeouts) :
    { mavsdk with
      timeoutHandler := mavsdk.timeoutHandler.remove timeout.cookie
      selected := some timeout.callback }.Attended := by
  intro system impl present losable lively
  have watching := attended system impl present losable lively
  rw [watchers, idle] at watching
  obtain ⟨other, inside, rfl⟩ := List.mem_map.mp watching
  by_cases same : other.cookie = timeout.cookie
  · have equal := List.inj_on_of_nodup_map distinct inside member same
    rw [equal]
    exact List.mem_cons_self
  · apply List.mem_cons_of_mem
    apply List.mem_map_of_mem
    exact List.mem_filter.mpr ⟨inside, by simpa using same⟩

private theorem handler_timingOut (system : UInt8) (mavsdk : MavsdkSystems) :
    ({ mavsdk with selected := none }.heartbeatsTimedOut system).1.timeoutHandler =
      mavsdk.timeoutHandler := by
  simp only [heartbeatsTimedOut, setDisconnected]
  split <;> rfl

private theorem attended_timingOut {mavsdk : MavsdkSystems} (attended : mavsdk.Attended)
    {system : UInt8} (fired : mavsdk.selected = some system) :
    ({ mavsdk with selected := none }.heartbeatsTimedOut system).1.Attended := by
  have others : ∀ other ∈ mavsdk.watchers, other ≠ system →
      other ∈ { mavsdk with selected := none }.watchers := by
    intro other member different
    rw [watchers, fired] at member
    rcases List.mem_cons.mp member with same | member
    · exact absurd same different
    · exact member
  simp only [heartbeatsTimedOut, setDisconnected]
  split
  next absent =>
    intro other impl present losable lively
    apply others other (attended other impl present losable lively)
    intro same
    subst same
    cases absent.symm.trans present
  · apply attended_of_update attended rfl
    · exact others
    · intro _ lively
      cases lively

/-- Watchers are told apart by the keys of their timers, at most one watches each system, and
whoever is connected and may be lost has one. -/
structure Watching (mavsdk : MavsdkSystems) : Prop where
  keys : mavsdk.timeoutHandler.cookies.Nodup
  watched : mavsdk.Watched
  attended : mavsdk.Attended

private theorem step_watching {taken : Step} (legal : machine.Legal taken)
    (watching : taken.before.Watching) : taken.after.Watching := by
  obtain ⟨before, action, after, notifications⟩ := taken
  obtain ⟨keys, watched, attended⟩ := watching
  have step : machine.step before action = some (after, notifications) := legal
  cases stepped step with
  | setupUdpConnection => exact ⟨keys, ⟨watched.distinct, watched.connected⟩, attended⟩
  | @receiveMessage systemId heartbeat cookie fresh =>
    exact ⟨keys_receiveMessage systemId heartbeat fresh keys,
      (receiving systemId heartbeat cookie watched).1,
      attended_receiveMessage systemId heartbeat cookie attended⟩
  | tick => exact ⟨keys, ⟨watched.distinct, watched.connected⟩, attended⟩
  | select idle member =>
    exact ⟨keys.sublist (TimeoutHandler.cookies_remove _ _), selecting watched idle member,
      attended_select attended keys idle member⟩
  | @heartbeatsTimedOut system fired =>
    exact ⟨(handler_timingOut system before).symm ▸ keys, watched_timingOut watched fired,
      attended_timingOut attended fired⟩

/-- In every state that heartbeats, the clock and the timer thread can lead to, for any systems
and any order of their steps: a system that was created unconnected has never more than one
watcher, in the table or in the hands of `run_once`, and it has one exactly while it is
connected. -/
theorem connected_iff_watched {single : Bool} {log : List Step} {last : MavsdkSystems}
    (run : machine.Run { isSingleSystem := single } log last) {system : UInt8} {impl : SystemImpl}
    (present : last.systems system = some impl) (losable : impl.alwaysConnected = false) :
    (impl.connected = true ↔ last.watchers.count system = 1) ∧
      last.watchers.count system ≤ 1 := by
  have start : ({ isSingleSystem := single } : MavsdkSystems).Watching :=
    ⟨List.nodup_nil, ⟨List.nodup_nil, fun _ member => nomatch member⟩,
      fun _ _ present => nomatch present⟩
  obtain ⟨⟨_, watched, attended⟩, _⟩ := run.invariant (fun _ => step_watching) start
  refine ⟨?_, List.nodup_iff_count_le_one.mp watched.distinct system⟩
  constructor
  · intro lively
    exact List.count_eq_one_of_mem watched.distinct (attended system impl present losable lively)
  · intro once
    have member : system ∈ last.watchers := List.count_pos_iff.mp (by omega)
    have lively := watched.connected system member
    rwa [connected, present] at lively

/-- System 7 sends a heartbeat, goes quiet, and sends the next one when its timer has just been
taken out of the table: it is still connected, and still watched. -/
theorem connected_iff_watched_late :
    let actions : List SystemsAction := [.receiveMessage 7 true 16, .tick 3000000001, .select 16,
      .receiveMessage 7 true 32]
    let last := machine.last {} actions
    ∃ impl, last.systems 7 = some impl ∧ impl.connected = true ∧
      ((impl.connected = true ↔ last.watchers.count 7 = 1) ∧ last.watchers.count 7 ≤ 1) := by
  intro actions last
  have run := machine.run_last {} actions (by decide)
  have present : last.systems 7 = some ⟨true, false, 16⟩ := by decide
  exact ⟨_, present, rfl, connected_iff_watched run present rfl⟩

end MavsdkSystems
end PilotingMavsdk
