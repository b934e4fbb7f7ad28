import PilotingMavsdk.Timesync

/-! Whether two endpoints of this library can synchronise. Only an endpoint that has acquired the
time answers a request, so somebody else has to give it to one of them first. -/

namespace PilotingMavsdk
open Library

/-- The endpoint has not acquired the time and has sent requests only. -/
structure Timesync.Waiting (timesync : Timesync) (sent : List TimesyncMessage) : Prop where
  unacquired : timesync.autopilotTimesyncAcquired = false
  requests : ∀ message ∈ sent, message.tc1 = 0

namespace Timesync

theorem Waiting.doWork {timesync : Timesync} {sent : List TimesyncMessage}
    (waiting : timesync.Waiting sent) (steadyTime systemTime : Int) (connected : Bool) :
    (timesync.doWork steadyTime systemTime connected).1.Waiting
      (sent ++ (timesync.doWork steadyTime systemTime connected).2) := by
  simp only [Timesync.doWork]
  split
  · simpa using waiting
  · split
    · split
      · refine ⟨waiting.unacquired, ?_⟩
        intro message member
        rcases List.mem_append.mp member with member | member
        · exact waiting.requests message member
        · rw [List.mem_singleton.mp member]
      · exact ⟨rfl, by simpa using waiting.requests⟩
    · simpa using waiting

theorem Waiting.processTimesync {timesync : Timesync} {sent : List TimesyncMessage}
    (waiting : timesync.Waiting sent) (systemTime laterTime : Int) {message : TimesyncMessage}
    (request : message.tc1 = 0) :
    timesync.processTimesync systemTime laterTime message = (timesync, []) := by
  simp [Timesync.processTimesync, request, waiting.unacquired]

end Timesync

namespace TimesyncLink

def Waiting (link : TimesyncLink) : Prop :=
  ∀ endpoint, (link.timesync endpoint).Waiting (link.sent endpoint)

theorem Waiting.update {link : TimesyncLink} (waiting : link.Waiting) {endpoint : Endpoint}
    {result : Timesync × List TimesyncMessage}
    (here : result.1.Waiting (link.sent endpoint ++ result.2)) :
    (link.update endpoint result).Waiting := by
  intro other
  simp only [TimesyncLink.update]
  by_cases same : other = endpoint
  · subst other
    rw [Function.update_self, Function.update_self]
    exact here
  · rw [Function.update_of_ne same, Function.update_of_ne same]
    exact waiting other

abbrev Step := Taken TimesyncLink TimesyncAction TimesyncMessage

private theorem waiting_step {taken : Step} (legal : machine.Legal taken)
    (waiting : taken.before.Waiting) : taken.after.Waiting := by
  obtain ⟨before, action, after, messages⟩ := taken
  simp only [Machine.Legal, machine] at legal
  cases action with
  | enable endpoint =>
    cases legal
    apply waiting.update
    rw [List.append_nil]
    exact ⟨(waiting endpoint).unacquired, (waiting endpoint).requests⟩
  | doWork endpoint steadyTime systemTime connected =>
    cases legal
    exact waiting.update ((waiting endpoint).doWork steadyTime systemTime connected)
  | deliver endpoint message systemTime laterTime =>
    simp only at legal
    split at legal
    next arrives =>
      cases legal
      have request := (waiting endpoint.peer).requests message arrives.1
      apply waiting.update
      rw [(waiting endpoint).processTimesync systemTime laterTime request, List.append_nil]
      exact waiting endpoint
    · cases legal

private theorem waiting_run {first last : TimesyncLink} {log : List Step}
    (run : machine.Run first log last) (waiting : first.Waiting) : last.Waiting :=
  (run.invariant (fun _ => waiting_step) waiting).1

private theorem Endpoint.peer_ne (endpoint : Endpoint) : endpoint.peer ≠ endpoint := by
  cases endpoint <;> decide

/-- An endpoint that has acquired the time, and is enabled. -/
def Synchronised (link : TimesyncLink) (endpoint : Endpoint) : Prop :=
  (link.timesync endpoint).isEnabled = true ∧
    (link.timesync endpoint).autopilotTimesyncAcquired = true

end TimesyncLink

namespace Timesync

private theorem doWork_due {timesync : Timesync} {steadyTime : Int}
    (enabled : timesync.isEnabled = true)
    (due : timesyncSendInterval ≤ steadyTime - timesync.lastTime) (systemTime : Int) :
    timesync.doWork steadyTime systemTime true =
      ({ timesync with lastTime := steadyTime }, [⟨0, timesync.autopilotNow systemTime⟩]) := by
  have elapsed : steadyTime - timesync.lastTime ≥ timesyncSendInterval := due
  simp [doWork, enabled, elapsed]

private theorem processTimesync_request {timesync : Timesync}
    (acquired : timesync.autopilotTimesyncAcquired = true) (systemTime laterTime ts1 : Int) :
    timesync.processTimesync systemTime laterTime ⟨0, ts1⟩ =
      (timesync, [⟨timesync.autopilotNow systemTime, ts1⟩]) := by
  simp [processTimesync, acquired]

private theorem acquired_setTimesyncOffset {timesync : Timesync} {startTime systemTime : Int}
    (begun : startTime ≤ timesync.autopilotNow systemTime)
    (quick : timesync.autopilotNow systemTime - startTime < maxRttSample) (offset : Int) :
    (timesync.setTimesyncOffset offset startTime systemTime).autopilotTimesyncAcquired = true := by
  have low : (timesync.autopilotNow systemTime - startTime) % 2 ^ 64 < maxRttSample := by
    rw [maxRttSample] at quick ⊢
    omega
  simp only [setTimesyncOffset, if_pos low]

theorem processTimesync_answer {timesync : Timesync} {message : TimesyncMessage}
    (answer : 0 < message.tc1) (systemTime laterTime : Int) :
    timesync.processTimesync systemTime laterTime message =
      (timesync.setTimesyncOffset
        ((message.tc1 * 2 - (message.ts1 + timesync.autopilotNow systemTime)).tdiv 2)
        message.ts1 laterTime, []) := by
  have unasked : ¬(message.tc1 = 0 ∧ timesync.autopilotTimesyncAcquired = true) := by omega
  rw [processTimesync, if_neg unasked, if_pos answer]

private theorem acquired_processTimesync {timesync : Timesync} {message : TimesyncMessage}
    {time : Int} (answer : 0 < message.tc1) (begun : message.ts1 ≤ timesync.autopilotNow time)
    (quick : timesync.autopilotNow time - message.ts1 < maxRttSample) :
    (timesync.processTimesync time time message).1.autopilotTimesyncAcquired = true := by
  rw [processTimesync_answer answer]
  exact acquired_setTimesyncOffset begun quick _

end Timesync

namespace TimesyncLink

@[simp] private theorem timesync_update (link : TimesyncLink) (endpoint : Endpoint)
    (result : Timesync × List TimesyncMessage) :
    (link.update endpoint result).timesync endpoint = result.1 := Function.update_self ..

@[simp] private theorem sent_update (link : TimesyncLink) (endpoint : Endpoint)
    (result : Timesync × List TimesyncMessage) :
    (link.update endpoint result).sent endpoint = link.sent endpoint ++ result.2 :=
  Function.update_self ..

@[simp] private theorem timesync_update_peer (link : TimesyncLink) (endpoint : Endpoint)
    (result : Timesync × List TimesyncMessage) :
    (link.update endpoint result).timesync endpoint.peer = link.timesync endpoint.peer :=
  Function.update_of_ne (Endpoint.peer_ne endpoint) ..

@[simp] private theorem timesync_update_of_peer (link : TimesyncLink) (endpoint : Endpoint)
    (result : Timesync × List TimesyncMessage) :
    (link.update endpoint.peer result).timesync endpoint = link.timesync endpoint :=
  Function.update_of_ne (Endpoint.peer_ne endpoint).symm ..

private theorem legal_deliver {link : TimesyncLink} {endpoint : Endpoint}
    {message : TimesyncMessage} (arrives : message ∈ link.sent endpoint.peer)
    (enabled : (link.timesync endpoint).isEnabled = true) (systemTime laterTime : Int) :
    let result := (link.timesync endpoint).processTimesync systemTime laterTime message
    machine.Legal ⟨link, .deliver endpoint message systemTime laterTime,
      link.update endpoint result, result.2⟩ := by
  simp only [Machine.Legal, machine, arrives, enabled, and_self, if_true]

/-- One endpoint asks, and the other answers. -/
def exchange (link : TimesyncLink) (endpoint : Endpoint)
    (steadyTime askTime answerTime arrivalTime : Int) : List TimesyncAction :=
  let request : TimesyncMessage := ⟨0, (link.timesync endpoint.peer).autopilotNow askTime⟩
  let answer : TimesyncMessage :=
    ⟨(link.timesync endpoint).autopilotNow answerTime, request.ts1⟩
  [.doWork endpoint.peer steadyTime askTime true,
    .deliver endpoint request answerTime answerTime,
    .deliver endpoint.peer answer arrivalTime arrivalTime]

private theorem exchange_synchronises {link : TimesyncLink} {endpoint : Endpoint}
    (source : link.Synchronised endpoint)
    (enabled : (link.timesync endpoint.peer).isEnabled = true) {steadyTime : Int}
    (due : timesyncSendInterval ≤ steadyTime - (link.timesync endpoint.peer).lastTime)
    {askTime answerTime arrivalTime : Int}
    (positive : 0 < (link.timesync endpoint).autopilotNow answerTime)
    (begun : (link.timesync endpoint.peer).autopilotNow askTime ≤
      (link.timesync endpoint.peer).autopilotNow arrivalTime)
    (quick : (link.timesync endpoint.peer).autopilotNow arrivalTime -
      (link.timesync endpoint.peer).autopilotNow askTime < maxRttSample) :
    ∃ log last, machine.Run link log last ∧
      log.map Taken.action = link.exchange endpoint steadyTime askTime answerTime arrivalTime ∧
      (last.timesync endpoint).autopilotTimesyncAcquired = true ∧
      (last.timesync endpoint.peer).autopilotTimesyncAcquired = true := by
  let request : TimesyncMessage := ⟨0, (link.timesync endpoint.peer).autopilotNow askTime⟩
  let answer : TimesyncMessage :=
    ⟨(link.timesync endpoint).autopilotNow answerTime, request.ts1⟩
  obtain ⟨running, acquired⟩ := source
  -- the peer asks
  let asking := (link.timesync endpoint.peer).doWork steadyTime askTime true
  have asks : asking = ({ link.timesync endpoint.peer with lastTime := steadyTime }, [request]) :=
    Timesync.doWork_due enabled due askTime
  let asked := link.update endpoint.peer asking
  have first : machine.Legal ⟨link, .doWork endpoint.peer steadyTime askTime true, asked,
    asking.2⟩ := rfl
  have same : asked.timesync endpoint = link.timesync endpoint := timesync_update_of_peer ..
  -- its request is answered
  let answering := (asked.timesync endpoint).processTimesync answerTime answerTime request
  have answers : answering = (link.timesync endpoint, [answer]) := by
    simp only [answering, same]
    exact Timesync.processTimesync_request acquired answerTime answerTime request.ts1
  let answered := asked.update endpoint answering
  have second := legal_deliver (show request ∈ asked.sent endpoint.peer by simp [asked, asks])
    ((congrArg Timesync.isEnabled same).trans running) answerTime answerTime
  have waits : answered.timesync endpoint.peer =
      { link.timesync endpoint.peer with lastTime := steadyTime } := by
    rw [timesync_update_peer, timesync_update, asks]
  -- the answer comes back, and the peer's clock has not been changed in between
  have clock : (answered.timesync endpoint.peer).autopilotNow arrivalTime =
      (link.timesync endpoint.peer).autopilotNow arrivalTime := by
    rw [waits]
    rfl
  have arrives : answer ∈ answered.sent endpoint.peer.peer := by
    have back : endpoint.peer.peer = endpoint := by cases endpoint <;> rfl
    rw [back, sent_update, answers]
    simp
  have third := legal_deliver arrives
    ((congrArg Timesync.isEnabled waits).trans enabled) arrivalTime arrivalTime
  refine ⟨_, _, ((Machine.Run.nil.snoc first).snoc second).snoc third, rfl, ?_, ?_⟩
  · rw [timesync_update_of_peer, timesync_update]
    exact (congrArg (fun result => result.1.autopilotTimesyncAcquired) answers).trans acquired
  · rw [timesync_update]
    rw [← clock] at begun quick
    exact Timesync.acquired_processTimesync positive begun quick

def enabledLink : TimesyncLink := { timesync := fun _ => Timesync.enable {} }

private theorem waiting_enabledLink : enabledLink.Waiting :=
  fun _ => ⟨rfl, fun _ member => nomatch member⟩

/-- In every order and any number of exchanges, whatever the clocks show and whichever messages
are lost or copied, no endpoint acquires the time as long as none has it. If one of them has got
it from elsewhere, one exchange gives it to the other. -/
theorem time_comes_from_outside :
    (∀ (first : TimesyncLink) (log : List Step) (last : TimesyncLink), first.Waiting →
      machine.Run first log last →
        ∀ endpoint, (last.timesync endpoint).autopilotTimesyncAcquired = false) ∧
    (∀ (link : TimesyncLink) (endpoint : Endpoint)
        (steadyTime askTime answerTime arrivalTime : Int), link.Synchronised endpoint →
      (link.timesync endpoint.peer).isEnabled = true →
      timesyncSendInterval ≤ steadyTime - (link.timesync endpoint.peer).lastTime →
      0 < (link.timesync endpoint).autopilotNow answerTime →
      (link.timesync endpoint.peer).autopilotNow askTime ≤
        (link.timesync endpoint.peer).autopilotNow arrivalTime →
      (link.timesync endpoint.peer).autopilotNow arrivalTime -
        (link.timesync endpoint.peer).autopilotNow askTime < maxRttSample →
      ∃ log last, machine.Run link log last ∧
        log.map Taken.action = link.exchange endpoint steadyTime askTime answerTime arrivalTime ∧
        ∀ endpoint, (last.timesync endpoint).autopilotTimesyncAcquired = true) := by
  constructor
  · intro first log last waiting run endpoint
    exact (waiting_run run waiting endpoint).unacquired
  · intro link endpoint steadyTime askTime answerTime arrivalTime source enabled due positive
      begun quick
    obtain ⟨log, last, run, actions, here, there⟩ :=
      exchange_synchronises source enabled due positive begun quick
    refine ⟨log, last, run, actions, ?_⟩
    intro other
    cases endpoint <;> cases other <;> first | exact here | exact there

/-- There is no way to synchronise from the start. -/
theorem never_synchronised : ¬∃ log last, machine.Run enabledLink log last ∧
    ∃ endpoint, (last.timesync endpoint).autopilotTimesyncAcquired = true := by
  rintro ⟨log, last, run, endpoint, acquired⟩
  have waiting := (waiting_run run waiting_enabledLink endpoint).unacquired
  rw [acquired] at waiting
  cases waiting

def suppliedLink : TimesyncLink :=
  { timesync := Function.update enabledLink.timesync .roboticVehicle
      { isEnabled := true, autopilotTimesyncAcquired := true } }

theorem time_comes_from_outside_example :
    (∀ endpoint, ((machine.last enabledLink [.doWork .groundStation 5000000000 1000000 true,
      .deliver .roboticVehicle ⟨0, 1000000⟩ 1000000 1000000]).timesync
        endpoint).autopilotTimesyncAcquired = false) ∧
    ∃ log last, machine.Run suppliedLink log last ∧
      log.map Taken.action = [.doWork .groundStation 5000000000 1000000 true,
        .deliver .roboticVehicle ⟨0, 1000000⟩ 2000000 2000000,
        .deliver .groundStation ⟨2000000, 1000000⟩ 3000000 3000000] ∧
      ∀ endpoint, (last.timesync endpoint).autopilotTimesyncAcquired = true := by
  constructor
  · exact time_comes_from_outside.1 _ _ _ waiting_enabledLink
      (machine.run_last enabledLink _ (by decide))
  · exact time_comes_from_outside.2 suppliedLink .roboticVehicle 5000000000 1000000 2000000 3000000
      ⟨rfl, rfl⟩ rfl (by decide) (by decide) (by decide) (by decide)

end TimesyncLink
end PilotingMavsdk
