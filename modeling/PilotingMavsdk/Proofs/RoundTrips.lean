import PilotingMavsdk.Ping

/-! Which messages set the ping time. The sequence number is the same for all pings and the target
is not looked at, so an answer counts whoever it is for and however old it is. -/

namespace PilotingMavsdk
open Library

namespace PingLink
variable {own : MAVLinkAddress}

/-- The message gets past all tests of `process_ping`. -/
def TakenAsAnswer (link : PingLink) (message : PingMessage) : Prop :=
  ¬(message.targetSystem = 0 ∧ message.targetComponent = 0) ∧
    message.seq = link.ping.pingSequence ∧ message.compid = mavCompIdAutopilot1

/-- An answer that is addressed to this system, to the ping that it has sent last. -/
def IsAnswer (own : MAVLinkAddress) (link : PingLink) (message : PingMessage) : Prop :=
  message.targetSystem = own.systemId ∧
    ∃ ping ∈ link.lastPing, message.timeUsec = ping.timeUsec ∧ message.seq = ping.seq

instance (link : PingLink) (message : PingMessage) : Decidable (link.TakenAsAnswer message) :=
  inferInstanceAs (Decidable (_ ∧ _))

instance (link : PingLink) (message : PingMessage) : Decidable (link.IsAnswer own message) :=
  inferInstanceAs (Decidable (_ ∧ _))

/-- If the ping time changes, then with an answer, and to the time since the ping was sent. -/
def SetByAnswer (own : MAVLinkAddress) (taken : Taken PingLink PingAction PingOutput) : Prop :=
  taken.after.ping.lastPingTimeUs ≠ taken.before.ping.lastPingTimeUs →
    ∃ message ping, taken.action = .processPing message ∧
      taken.before.IsAnswer own message ∧ taken.before.lastPing = some ping ∧
      ping.timeUsec ≤ taken.before.nowUs ∧
      taken.after.ping.lastPingTimeUs.toNat = taken.before.nowUs.toNat - ping.timeUsec.toNat

/-- What is taken as an answer is one, or makes no difference. -/
def AnswersOnly (own : MAVLinkAddress) (link : PingLink) : PingAction → Prop
  | .elapse _ | .runOnce => True
  | .processPing message => link.TakenAsAnswer message →
      link.IsAnswer own message ∨ link.nowUs - message.timeUsec = link.ping.lastPingTimeUs

instance (link : PingLink) : (action : PingAction) → Decidable (link.AnswersOnly own action)
  | .elapse _ | .runOnce => .isTrue trivial
  | .processPing _ => inferInstanceAs (Decidable (_ → _))

private theorem processPing_eq (nowUs : UInt64) (link : PingLink) (message : PingMessage) :
    (link.ping.processPing own nowUs message).1.lastPingTimeUs =
      if link.TakenAsAnswer message then nowUs - message.timeUsec
      else link.ping.lastPingTimeUs := by
  unfold Ping.processPing TakenAsAnswer
  split
  · simp_all
  · split
    · simp_all
    · split <;> simp_all

/-- The ping that was sent last was not sent later than now. -/
def Timely (link : PingLink) : Prop :=
  ∀ ping, link.lastPing = some ping → ping.timeUsec ≤ link.nowUs

private theorem lastPingTimeUs_step {before after : PingLink} {action : PingAction}
    {outputs : List PingOutput} (stepped : (machine own).step before action = some (after, outputs)) :
    after.ping.lastPingTimeUs = before.ping.lastPingTimeUs ∨
      ∃ message, action = .processPing message ∧ before.TakenAsAnswer message := by
  cases action with
  | elapse later =>
    simp only [machine] at stepped
    split at stepped
    · cases stepped
      exact .inl rfl
    · cases stepped
  | runOnce =>
    cases stepped
    exact .inl rfl
  | processPing message =>
    cases stepped
    by_cases answer : before.TakenAsAnswer message
    · exact .inr ⟨message, rfl, answer⟩
    · left
      exact (processPing_eq before.nowUs before message).trans (if_neg answer)

private theorem lastPingTimeUs_answer {before after : PingLink} {message : PingMessage}
    {outputs : List PingOutput}
    (stepped : (machine own).step before (.processPing message) = some (after, outputs))
    (answer : before.TakenAsAnswer message) :
    after.ping.lastPingTimeUs = before.nowUs - message.timeUsec := by
  cases stepped
  exact (processPing_eq before.nowUs before message).trans (if_pos answer)

private theorem timely_step {before after : PingLink} {action : PingAction}
    {outputs : List PingOutput}
    (stepped : (machine own).step before action = some (after, outputs)) (timely : before.Timely) :
    after.Timely := by
  cases action with
  | elapse later =>
    simp only [machine] at stepped
    split at stepped
    next forward =>
      cases stepped
      intro ping last
      exact UInt64.le_trans (timely ping last) forward
    · cases stepped
  | runOnce =>
    cases stepped
    rintro ping ⟨⟩
    exact UInt64.le_refl _
  | processPing message =>
    cases stepped
    exact timely

private theorem toNat_elapsed {link : PingLink} (timely : link.Timely) {ping : PingMessage}
    (last : link.lastPing = some ping) :
    (link.nowUs - ping.timeUsec).toNat = link.nowUs.toNat - ping.timeUsec.toNat :=
  UInt64.toNat_sub_of_le _ _ (timely ping last)

private theorem setByAnswer_iff_answersOnly (taken : Taken PingLink PingAction PingOutput)
    (legal : (machine own).Legal taken) (timely : taken.before.Timely) :
    SetByAnswer own taken ↔ taken.before.AnswersOnly own taken.action := by
  constructor
  · intro setByAnswer
    cases same : taken.action with
    | elapse | runOnce => trivial
    | processPing message =>
      intro answer
      rw [Machine.Legal, same] at legal
      have stored := lastPingTimeUs_answer legal answer
      by_cases changed : taken.after.ping.lastPingTimeUs = taken.before.ping.lastPingTimeUs
      · exact .inr (stored.symm.trans changed)
      · obtain ⟨other, ping, taking, isAnswer, -⟩ := setByAnswer changed
        rw [same] at taking
        cases taking
        exact .inl isAnswer
  · intro answersOnly changed
    rcases lastPingTimeUs_step legal with unchanged | ⟨message, taking, answer⟩
    · exact absurd unchanged changed
    · rw [Machine.Legal, taking] at legal
      rw [taking] at answersOnly
      have stored := lastPingTimeUs_answer legal answer
      rcases answersOnly answer with isAnswer | same
      · obtain ⟨ping, last, echoed, -⟩ := isAnswer.2
        refine ⟨message, ping, taking, isAnswer, last, timely ping last, ?_⟩
        rw [stored, echoed, toNat_elapsed timely last]
      · exact absurd (stored.trans same) changed

private theorem timely_of_setByAnswer (taken : Taken PingLink PingAction PingOutput)
    (legal : (machine own).Legal taken) (timely : taken.before.Timely)
    (_ : SetByAnswer own taken) : taken.after.Timely :=
  timely_step legal timely

/-- The ping time is a round trip time all along a run if and only if nothing is ever taken as an
answer to the last ping that is none. -/
theorem setByAnswer_iff {log : List (Taken PingLink PingAction PingOutput)} {last : PingLink}
    (run : (machine own).Run {} log last) : (∀ taken ∈ log, SetByAnswer own taken) ↔
      ∀ taken ∈ log, taken.before.AnswersOnly own taken.action :=
  run.all_iff setByAnswer_iff_answersOnly timely_of_setByAnswer (by rintro ping ⟨⟩)

/-- A ground station whose ping comes back after 20 ms, and which answers a ping in between. -/
def pinged : List PingAction :=
  [.elapse 1000000, .runOnce, .elapse 1010000, .processPing ⟨1, 1, 77, 5, 0, 0⟩, .elapse 1020000,
    .processPing ⟨1, 1, 1000000, 0, 245, 190⟩]

theorem setByAnswer_pinged :
    ((machine ⟨245, 190⟩).log {} pinged).length = pinged.length ∧
      ∀ taken ∈ (machine ⟨245, 190⟩).log {} pinged, SetByAnswer ⟨245, 190⟩ taken := by
  obtain ⟨last, run⟩ := (machine ⟨245, 190⟩).run_log {} pinged (by decide)
  exact ⟨by decide, (setByAnswer_iff run).mpr (by decide)⟩

/-- The vehicle answers another ground station, whose clock is six seconds ahead. -/
theorem foreign_answer_taken :
    ¬∀ log last, (machine ⟨245, 190⟩).Run {} log last →
      ∀ taken ∈ log, SetByAnswer ⟨245, 190⟩ taken := by
  intro all
  let actions : List PingAction :=
    [.elapse 1000000, .runOnce, .processPing ⟨1, 1, 7000000, 0, 255, 190⟩]
  obtain ⟨last, run⟩ := (machine ⟨245, 190⟩).run_log {} actions (by decide)
  obtain ⟨message, ping, taking, isAnswer, -⟩ := all _ _ run _
    (List.mem_cons_of_mem _ (List.mem_cons_of_mem _ List.mem_cons_self)) (by decide)
  cases taking
  exact absurd isAnswer.1 (by decide)

end PingLink
end PilotingMavsdk
