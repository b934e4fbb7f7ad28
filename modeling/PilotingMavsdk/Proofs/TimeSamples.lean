import PilotingMavsdk.RemoteClock
import PilotingMavsdk.Proofs.TimesyncRange

/-! How accurate the autopilot's time is after a sample. The round trip is measured on the clock
that samples shift: it is too short if the clock has been set back since the request. -/

namespace PilotingMavsdk
open Library

/-- The request carries the autopilot's time of when it was sent. -/
structure SentRequest.Timely (now : Int) (request : SentRequest) : Prop where
  sent : request.sentAt ≤ now
  stamp : request.sentAt + request.offset - 999 ≤ request.ts1 ∧
    request.ts1 ≤ request.sentAt + request.offset + 999

/-- The answer was given by the remote clock some time after the request. -/
structure SentAnswer.Timely (difference now : Int) (answer : SentAnswer) : Prop where
  request : answer.request.Timely now
  echoed : answer.message.ts1 = answer.request.ts1
  answered : answer.request.sentAt + difference ≤ answer.message.tc1 ∧
    answer.message.tc1 ≤ now + difference

private theorem SentRequest.Timely.mono {request : SentRequest} {now later : Int}
    (forward : now ≤ later) (timely : request.Timely now) : request.Timely later :=
  ⟨Int.le_trans timely.sent forward, timely.stamp⟩

private theorem SentAnswer.Timely.mono {answer : SentAnswer} {difference now later : Int}
    (forward : now ≤ later) (timely : answer.Timely difference now) :
    answer.Timely difference later :=
  ⟨timely.request.mono forward, timely.echoed, timely.answered.1,
    Int.le_trans timely.answered.2 (Int.add_le_add_right forward difference)⟩

namespace RemoteClock
variable {difference : Int}

structure Consistent (difference : Int) (clock : RemoteClock) : Prop where
  requests : ∀ request ∈ clock.requests, request.Timely clock.systemTime
  answers : ∀ answer ∈ clock.answers, answer.Timely difference clock.systemTime

/-- `set_timesync_offset` is called, and the round trip time is below the limit. -/
def Accepts (clock : RemoteClock) (answer : SentAnswer) (duration : Nat) : Prop :=
  0 < answer.message.tc1 ∧
    (clock.timesync.autopilotNow (clock.systemTime + duration) - answer.message.ts1) % 2 ^ 64 <
      maxRttSample

instance (clock : RemoteClock) (answer : SentAnswer) (duration : Nat) :
    Decidable (clock.Accepts answer duration) := inferInstanceAs (Decidable (_ ∧ _))

/-- The values are small enough for the round trip time to be a signed number. -/
def SmallValues (clock : RemoteClock) : RemoteClockAction → Prop
  | .elapse _ | .enable | .doWork _ _ | .answer _ => True
  | .processTimesync answer duration =>
    InInt64 (clock.timesync.autopilotNow (clock.systemTime + duration) - answer.message.ts1)

/-- The autopilot's clock has not been set back since the request of an answer that counts. -/
def NotSetBack (clock : RemoteClock) : RemoteClockAction → Prop
  | .elapse _ | .enable | .doWork _ _ | .answer _ => True
  | .processTimesync answer duration =>
    clock.Accepts answer duration → answer.request.offset ≤ clock.timesync.offset

def error (difference : Int) (clock : RemoteClock) : Int :=
  clock.timesync.autopilotNow clock.systemTime - (clock.systemTime + difference)

/-- After an answer that counts the two clocks are 5.005 ms apart at most. -/
def Accurate (difference : Int)
    (taken : Taken RemoteClock RemoteClockAction TimesyncMessage) : Prop :=
  ∀ answer duration, taken.action = .processTimesync answer duration →
    taken.before.Accepts answer duration → (taken.after.error difference).natAbs ≤ 5005000

theorem Consistent.elapsed {clock : RemoteClock} (consistent : clock.Consistent difference)
    (duration : Nat) (timesync : Timesync) :
    Consistent difference
      { clock with timesync, systemTime := clock.systemTime + duration } := by
  have forward : clock.systemTime ≤ clock.systemTime + duration := by omega
  constructor
  · intro request member
    exact (consistent.requests request member).mono forward
  · intro answer member
    exact (consistent.answers answer member).mono forward

private theorem timely_of_doWork {timesync : Timesync} {steadyTime systemTime : Int}
    {connected : Bool} {message : TimesyncMessage}
    (sent : message ∈ (timesync.doWork steadyTime systemTime connected).2) :
    SentRequest.Timely systemTime
      { ts1 := message.ts1, sentAt := systemTime, offset := timesync.offset } := by
  have now : message = ⟨0, timesync.autopilotNow systemTime⟩ := by
    simp only [Timesync.doWork] at sent
    split at sent
    · cases sent
    · split at sent
      · split at sent
        · exact List.mem_singleton.mp sent
        · cases sent
      · cases sent
  rw [now]
  exact ⟨Int.le_refl _, timesync.autopilotNow_near systemTime⟩

private theorem consistent_step {before after : RemoteClock} {action : RemoteClockAction}
    {messages : List TimesyncMessage}
    (stepped : (machine difference).step before action = some (after, messages))
    (consistent : before.Consistent difference) : after.Consistent difference := by
  cases action with
  | elapse duration =>
    cases stepped
    exact consistent.elapsed duration before.timesync
  | enable =>
    cases stepped
    exact ⟨consistent.requests, consistent.answers⟩
  | doWork steadyTime connected =>
    cases stepped
    refine ⟨?_, consistent.answers⟩
    intro request member
    rcases List.mem_append.mp member with old | new
    · exact consistent.requests request old
    · obtain ⟨message, sent, rfl⟩ := List.mem_map.mp new
      exact timely_of_doWork sent
  | answer request =>
    simp only [machine] at stepped
    split at stepped
    next known =>
      cases stepped
      refine ⟨consistent.requests, ?_⟩
      intro answer member
      rcases List.mem_append.mp member with old | new
      · exact consistent.answers answer old
      · rw [List.mem_singleton.mp new]
        have timely := consistent.requests request known
        exact ⟨timely, rfl, Int.add_le_add_right timely.sent difference, Int.le_refl _⟩
    · cases stepped
  | processTimesync answer duration =>
    simp only [machine] at stepped
    split at stepped
    · cases stepped
      exact consistent.elapsed duration _
    · cases stepped

structure Shifted (before after : RemoteClock) (answer : SentAnswer) (duration : Nat) : Prop where
  known : answer ∈ before.answers
  systemTime : after.systemTime = before.systemTime + duration
  offset : after.timesync.offset = before.timesync.offset +
    (answer.message.tc1 * 2 -
      (answer.message.ts1 + before.timesync.autopilotNow before.systemTime)).tdiv 2

private theorem shifted_of_accepts {before after : RemoteClock} {answer : SentAnswer}
    {duration : Nat} {messages : List TimesyncMessage}
    (stepped : (machine difference).step before (.processTimesync answer duration) =
      some (after, messages))
    (accepted : before.Accepts answer duration) : Shifted before after answer duration := by
  simp only [machine] at stepped
  split at stepped
  next possible =>
    cases stepped
    refine ⟨possible.2, rfl, ?_⟩
    simp only [Timesync.processTimesync_answer accepted.1, Timesync.setTimesyncOffset,
      if_pos accepted.2]
  · cases stepped

/-- What is accepted has come back within the limit by the system's clock as well, if the
autopilot's clock has not been set back since the request: then half of it is the error. -/
private theorem error_of_shifted {before after : RemoteClock} {answer : SentAnswer} {duration : Nat}
    (shifted : Shifted before after answer duration) (consistent : before.Consistent difference)
    (small : before.SmallValues (.processTimesync answer duration))
    (notSetBack : before.NotSetBack (.processTimesync answer duration))
    (accepted : before.Accepts answer duration) : (after.error difference).natAbs ≤ 5005000 := by
  obtain ⟨request, echoed, answered⟩ := consistent.answers answer shifted.known
  have back := notSetBack accepted
  have now := before.timesync.autopilotNow_near before.systemTime
  have later := before.timesync.autopilotNow_near (before.systemTime + duration)
  have ends := after.timesync.autopilotNow_near after.systemTime
  rw [shifted.systemTime, shifted.offset, Timesync.tdiv_eq_ite] at ends
  have quick : before.timesync.autopilotNow (before.systemTime + duration) <
      answer.message.ts1 + 10000000 := by
    have roundTrip := accepted.2
    simp only [SmallValues, InInt64] at small
    rw [maxRttSample] at roundTrip
    omega
  rw [error, shifted.systemTime]
  obtain ⟨sent, stamp⟩ := request
  split at ends <;> omega

abbrev Step := Taken RemoteClock RemoteClockAction TimesyncMessage

private theorem consistent_before {start : Int} {log : List Step} {last : RemoteClock}
    (run : (machine difference).Run { systemTime := start } log last) :
    ∀ taken ∈ log, taken.before.Consistent difference := by
  have initial : Consistent difference { systemTime := start } := by
    constructor <;> intro _ member <;> cases member
  have preserved (taken : Step) (legal : (machine difference).Legal taken)
      (consistent : taken.before.Consistent difference) : taken.after.Consistent difference :=
    consistent_step legal consistent
  intro taken member
  exact ((run.invariant preserved initial).2 taken member).1

/-- Whatever the clocks differ by at the start, and however answers are delayed and repeated: each
of those that count brings the clocks together, unless the autopilot's clock has been set back
since its request. -/
theorem accurate_of_notSetBack {start : Int} {log : List Step} {last : RemoteClock}
    (run : (machine difference).Run { systemTime := start } log last)
    (small : ∀ taken ∈ log, taken.before.SmallValues taken.action)
    (notSetBack : ∀ taken ∈ log, taken.before.NotSetBack taken.action) :
    ∀ taken ∈ log, Accurate difference taken := by
  intro taken member answer duration processed accepted
  have legal := run.legal taken member
  have smallHere := small taken member
  have here := notSetBack taken member
  rw [processed] at smallHere here
  rw [Machine.Legal, processed] at legal
  exact error_of_shifted (shifted_of_accepts legal accepted) (consistent_before run taken member)
    smallHere here accepted

instance (clock : RemoteClock) : (action : RemoteClockAction) → Decidable (clock.SmallValues action)
  | .elapse _ | .enable | .doWork _ _ | .answer _ => .isTrue trivial
  | .processTimesync _ _ => inferInstanceAs (Decidable (InInt64 _))

instance (clock : RemoteClock) : (action : RemoteClockAction) → Decidable (clock.NotSetBack action)
  | .elapse _ | .enable | .doWork _ _ | .answer _ => .isTrue trivial
  | .processTimesync _ _ => inferInstanceAs (Decidable (_ → _))

/-- A request, and its answer by a clock that is ahead, which arrives twice. -/
def repeated : List RemoteClockAction :=
  let request := { ts1 := 10000000000, sentAt := 10000000000, offset := 0 }
  let answer := { request, message := { tc1 := 11002000000, ts1 := 10000000000 } }
  [.enable, .doWork 5000000000 true, .elapse 2000000, .answer request, .elapse 3000000,
    .processTimesync answer 1000, .elapse 1000000, .processTimesync answer 1000]

theorem accurate_repeated :
    let log := (machine 1000000000).log { systemTime := 10000000000 } repeated
    log.length = repeated.length ∧ ∀ taken ∈ log, Accurate 1000000000 taken := by
  intro log
  obtain ⟨last, run⟩ := (machine 1000000000).run_log { systemTime := 10000000000 } repeated
    (by decide)
  exact ⟨by decide, accurate_of_notSetBack run (by decide) (by decide)⟩

/-- The remote clock is one second behind, and its answer arrives again a second later: by the
clock that was set back by the first copy it has come at once. -/
def lateCopy : List RemoteClockAction :=
  let request := { ts1 := 10000000000, sentAt := 10000000000, offset := 0 }
  let answer := { request, message := { tc1 := 9000000000, ts1 := 10000000000 } }
  [.enable, .doWork 5000000000 true, .answer request, .processTimesync answer 0,
    .elapse 1000000000, .processTimesync answer 0]

theorem lateCopy_inaccurate :
    ¬∀ difference start log last,
      (machine difference).Run { systemTime := start } log last →
      (∀ taken ∈ log, taken.before.SmallValues taken.action) →
      ∀ taken ∈ log, Accurate difference taken := by
  intro all
  obtain ⟨last, run⟩ := (machine (-1000000000)).run_log { systemTime := 10000000000 } lateCopy
    (by decide)
  have accurate := all (-1000000000) 10000000000 _ _ run (by decide) _
    (List.getElem_mem (show 5 < _ by decide)) _ 0 rfl (by decide)
  exact absurd accurate (by decide)

end RemoteClock
end PilotingMavsdk
