import PilotingMavsdk.Proofs.Life
import PilotingMavsdk.UdpCommands

/-! What one call of a `SendWorkItem` sends and reports: the command with the number of the attempt, and
acknowledgements as they came. -/

namespace PilotingMavsdk
open Library

namespace CommandBase.CommandLong

/-- What the vehicle converts into this command. -/
def raw (command : CommandBase.CommandLong) : PilotingMavsdk.CommandLong where
  command := command.command
  confirmation := command.confirmation
  param1 := command.param1
  param2 := command.param2
  param3 := command.param3
  param4 := command.param4
  param5 := command.param5
  param6 := command.param6
  param7 := command.param7

def numbered (command : CommandBase.CommandLong) (number : Nat) : CommandBase.CommandLong :=
  { command with confirmation := UInt8.ofNat number }

end CommandBase.CommandLong

namespace SendWorkItem

def packed (sender : Sender) (command : CommandBase.CommandLong) : Message :=
  sender.pack (.commandLong command.raw)

/-- What a call sends, and how the item counts it. -/
inductive Attempts (item after : SendWorkItem) : List Message → Prop where
  | none (started : after.started = item.started) (done : after.retriesDone = item.retriesDone) :
      Attempts item after []
  | unsent (idle : item.started = false) (started : after.started = true)
      (done : after.retriesDone = 0) : Attempts item after []
  | first (idle : item.started = false) (started : after.started = true)
      (done : after.retriesDone = 1) :
      Attempts item after [packed item.sender (item.command.numbered 0)]
  | next (few : item.retriesDone < retries) (started : after.started = item.started)
      (done : after.retriesDone = item.retriesDone + 1) :
      Attempts item after [packed item.sender (item.command.numbered item.retriesDone)]

/-- Acknowledgements are reported with these results only. -/
def acked : Report → Option CommandAck
  | (.success, ack) | (.inProgress, ack) => some ack
  | (.connectionError, _) | (.busy, _) | (.timeout, _) | (.cancelled, _) => none

structure Kept (item after : SendWorkItem) : Prop where
  sender : after.sender = item.sender
  command : after.command = item.command

private theorem sent_report (result : CommandBase.Result) (item : SendWorkItem) :
    (item.report result).filterMap Effect.sent = [] := by
  rw [report]
  split <;> rfl

private theorem eventOf_report (result : CommandBase.Result) (item : SendWorkItem) :
    (item.report result).filterMap CommandImpl.eventOf =
      if item.callback then [.told (result, item.ack)] else [] := by
  rw [report]
  split <;> rfl

private theorem sendCommand_sent {environment : Environment} (sent : environment.sent = true)
    (item : SendWorkItem) : item.sendCommand environment =
      ⟨{ item with retriesDone := item.retriesDone + 1 },
        [.sendMessage (packed item.sender (item.command.numbered item.retriesDone)) true]⟩ := by
  rw [sendCommand, Outcome.sending_sent _ _ _ _ sent]
  rfl

private theorem sendCommand_unsent {environment : Environment} (unsent : environment.sent = false)
    (item : SendWorkItem) : item.sendCommand environment =
      ⟨{ item with callback := false, done := true },
        .sendMessage (packed item.sender (item.command.numbered item.retriesDone)) false ::
          .removeTimeout item.cookie :: item.report .connectionError⟩ := by
  rw [sendCommand, Outcome.sending, unsent]
  rfl

/-- The item goes on with its command, and reports no acknowledgement. -/
structure Went (item : SendWorkItem) (outcome : After) : Prop where
  kept : Kept item outcome.item
  attempts : Attempts item outcome.item (outcome.effects.filterMap Effect.sent)
  plain : ∀ event ∈ outcome.effects.filterMap CommandImpl.eventOf,
    ∃ report, event = .told report ∧ acked report = none

private theorem plain_report {result : CommandBase.Result}
    (other : ∀ ack, acked (result, ack) = none)
    (item : SendWorkItem) : ∀ event ∈ (item.report result).filterMap CommandImpl.eventOf,
      ∃ report, event = .told report ∧ acked report = none := by
  intro event member
  rw [eventOf_report] at member
  split at member
  · exact ⟨_, List.mem_singleton.mp member, other _⟩
  · cases member

private theorem went_start (environment : Environment) {item : SendWorkItem}
    (idle : item.started = false) :
    Went item (item.start environment) := by
  cases sent : environment.sent with
  | true =>
    rw [start, sendCommand_sent sent]
    exact ⟨⟨rfl, rfl⟩, .first idle rfl rfl, by simp [CommandImpl.eventOf]⟩
  | false =>
    rw [start, sendCommand_unsent sent]
    refine ⟨⟨rfl, rfl⟩, ?_, ?_⟩
    · have silent := sent_report .connectionError
        { item with started := true, retriesDone := 0, cookie := environment.cookie }
      simp only [Outcome.after_effects, List.cons_append, List.nil_append, List.filterMap_cons,
        Effect.sent, silent]
      exact .unsent idle rfl rfl
    · simpa [List.filterMap_cons, CommandImpl.eventOf] using plain_report (fun _ => rfl) _

private theorem went_cancel (item : SendWorkItem) : Went item item.cancel := by
  refine ⟨⟨rfl, rfl⟩, ?_, ?_⟩
  · simp only [cancel, callbackAndReset, Outcome.after_effects, List.cons_append, List.nil_append,
      List.filterMap_cons, Effect.sent, sent_report]
    exact .none rfl rfl
  · simpa [cancel, callbackAndReset, List.filterMap_cons, CommandImpl.eventOf] using
      plain_report (fun _ => rfl) item

private theorem went_processTimeout (environment : Environment) (item : SendWorkItem) :
    Went item (item.processTimeout environment) := by
  rw [processTimeout]
  split
  next =>
    refine ⟨⟨rfl, rfl⟩, ?_, ?_⟩
    · simp only [callbackAndReset, sent_report]
      exact .none rfl rfl
    · exact plain_report (fun _ => rfl) item
  next few =>
    cases sent : environment.sent with
    | true =>
      simp only [sendCommand_sent sent]
      exact ⟨⟨rfl, rfl⟩, .next (Nat.lt_of_not_le few) rfl rfl, by simp [CommandImpl.eventOf]⟩
    | false =>
      simp only [sendCommand_unsent sent]
      refine ⟨⟨rfl, rfl⟩, ?_, ?_⟩
      · simp only [Outcome.after_effects, List.cons_append, List.nil_append, List.filterMap_cons,
          Effect.sent, sent_report]
        exact .none rfl rfl
      · simpa [List.filterMap_cons, CommandImpl.eventOf] using plain_report (fun _ => rfl) _

theorem went_handle {call : Call} (environment : Environment) {item : SendWorkItem}
    (own : ∀ message, call ≠ .processMessage message)
    (callable : call = .start → item.started = false) :
    Went item (workItemClass.handle call environment item) := by
  cases call with
  | start => exact went_start environment (callable rfl)
  | cancel => exact went_cancel item
  | processTimeout => exact went_processTimeout environment item
  | processMessage message => exact (own message rfl).elim

/-- An acknowledgement of the command is reported, if there is anyone to report to. -/
inductive Hears (item : SendWorkItem) (message : Message) : List CommandEvent → Prop where
  | nothing : Hears item message []
  | acknowledged {ack : CommandAck} {result : CommandBase.Result}
      (content : message.payload = .commandAck ack) (own : item.command.command = ack.command)
      (told : acked (result, ack) = some ack) : Hears item message [.told (result, ack)]

/-- A message changes nothing in what is sent. -/
structure Heard (item : SendWorkItem) (message : Message) (outcome : After) : Prop where
  kept : Kept item outcome.item
  started : outcome.item.started = item.started
  retriesDone : outcome.item.retriesDone = item.retriesDone
  silent : outcome.effects.filterMap Effect.sent = []
  hears : Hears item message (outcome.effects.filterMap CommandImpl.eventOf)

private theorem payload_of_dispatched {item : WorkItem} {message : Message} {ack : CommandAck}
    (found : dispatched item message = some ack) : message.payload = .commandAck ack := by
  simp only [dispatched] at found
  split at found
  next =>
    split at found
    next payload => rw [payload, Option.some.inj found]
    · cases found
  · cases found

theorem heard_processMessage (environment : Environment) (message : Message) (item : SendWorkItem) :
    Heard item message (item.processMessage environment message) := by
  rw [processMessage]
  split
  next ack found =>
    have content := payload_of_dispatched found
    rw [processCommandAck]
    split
    next => exact ⟨⟨rfl, rfl⟩, rfl, rfl, rfl, .nothing⟩
    next own =>
      have same : item.command.command = ack.command := not_not.mp own
      split
      next =>
        refine ⟨⟨rfl, rfl⟩, rfl, rfl, ?_, ?_⟩
        · simp [List.filterMap_cons, Effect.sent, sent_report]
        · simp only [Outcome.after_effects, List.filterMap_append, List.filterMap_cons,
            List.filterMap_nil, CommandImpl.eventOf, eventOf_report, List.nil_append]
          split
          · exact .acknowledged content same rfl
          · exact .nothing
      next =>
        refine ⟨⟨rfl, rfl⟩, rfl, rfl, ?_, ?_⟩
        · simp [callbackAndReset, List.filterMap_cons, Effect.sent, sent_report]
        · simp only [Outcome.after_effects, callbackAndReset, List.filterMap_append,
            List.filterMap_cons, List.filterMap_nil, CommandImpl.eventOf, eventOf_report,
            List.nil_append]
          split
          · exact .acknowledged content same rfl
          · exact .nothing
  next => exact ⟨⟨rfl, rfl⟩, rfl, rfl, rfl, .nothing⟩

end SendWorkItem
end PilotingMavsdk
