import PilotingMavsdk.Proofs.CommandAttempts

/-! Single steps of the two command plugins, and which command the ground station's is about. -/

namespace PilotingMavsdk
open Library

namespace CommandImpl

/-- What the plugin does by itself. -/
inductive Acted (plugin : CommandImpl) :
    CommandImpl → List Message → List CommandEvent → Prop where
  | busy {life : Life SendWorkItem} (alive : plugin.lastSend = some life) :
      Acted plugin plugin [] [.told (.busy, {})]
  | given {command : CommandBase.CommandLong} (free : plugin.lastSend = none) :
      Acted plugin { plugin with
        lastSend := some { item := SendWorkItem.create plugin.sender command true } }
        [] [.given command]
  | dropped : Acted plugin { plugin with lastSend := none } [] []
  | went {life after : Life SendWorkItem} {effects : List (Effect SendWorkItem.Report)}
      (current : plugin.lastSend = some life) (went : life.item.Went ⟨after.item, effects⟩) :
      Acted plugin { plugin with lastSend := some after } (effects.filterMap Effect.sent)
        (effects.filterMap eventOf)

/-- What a message does to it. -/
inductive Hears (message : Message) (plugin : CommandImpl) : CommandImpl → List CommandEvent → Prop where
  | nobody (free : plugin.lastSend = none) : Hears message plugin plugin []
  | heard {life after : Life SendWorkItem} {effects : List (Effect SendWorkItem.Report)}
      (current : plugin.lastSend = some life)
      (heard : life.item.Heard message ⟨after.item, effects⟩) :
      Hears message plugin { plugin with lastSend := some after } (effects.filterMap eventOf)

variable {plugin after : CommandImpl} {sent : List Message} {events : List CommandEvent}

private theorem acted_advance {event : LifeEvent} {lastSend : Option (Life SendWorkItem)}
    {effects : List (Effect SendWorkItem.Report)}
    (advanced : SendWorkItem.workItemClass.advance event plugin.lastSend =
      some (lastSend, effects)) :
    plugin.Acted { plugin with lastSend := lastSend } (effects.filterMap Effect.sent)
      (effects.filterMap eventOf) := by
  cases current : plugin.lastSend with
  | none =>
    rw [current] at advanced
    cases advanced
  | some life =>
    rw [current, WorkItemClass.advance] at advanced
    split at advanced
    next allowed =>
      split at advanced
      next stepped =>
        cases advanced
        have lived := (WorkItemClass.lived stepped).2
        cases lived with
        | @call call environment callable fresh =>
          rw [if_neg (by simp)]
          refine .went current (SendWorkItem.went_handle environment ?_ ?_)
          · rintro message rfl
            cases allowed.1
          · rintro rfl
            simpa [WorkItemClass.callable, SendWorkItem.workItemClass] using callable
        | select =>
          rw [if_neg (by simp)]
          exact .went current ⟨⟨rfl, rfl⟩, .none rfl rfl, by simp⟩
        | destroy =>
          rw [if_pos rfl]
          exact .dropped
      · cases advanced
    · cases advanced

theorem acted {act : Act} (step : party.act act plugin = some (after, sent, events)) :
    plugin.Acted after sent events := by
  simp only [party] at step
  cases act with
  | sendCommandAsync command =>
    simp only at step
    split at step
    next alive =>
      obtain ⟨life, current⟩ := Option.isSome_iff_exists.mp alive
      cases step
      exact .busy current
    next free =>
      cases step
      exact .given (by simpa using free)
  | item event =>
    simp only at step
    split at step
    next advanced =>
      cases step
      exact acted_advance advanced
    · cases step

theorem hears {message : Message} {environment : Environment}
    (step : party.hear message environment plugin = some (after, sent, events)) :
    sent = [] ∧ plugin.Hears message after events := by
  simp only [party] at step
  split at step
  next delivered =>
    cases step
    cases current : plugin.lastSend with
    | none =>
      rw [current] at delivered
      cases delivered
      have same : { plugin with lastSend := none } = plugin := by rw [← current]
      rw [same]
      exact ⟨rfl, .nobody current⟩
    | some life =>
      rw [current, WorkItemClass.deliver] at delivered
      split at delivered
      next stepped =>
        cases delivered
        have lived := (WorkItemClass.lived stepped).2
        cases lived with
        | call =>
          have heard := SendWorkItem.heard_processMessage environment message life.item
          exact ⟨heard.silent, .heard current heard⟩
      · cases delivered
  · cases step

end CommandImpl

namespace CommandVehicle
variable {vehicle after : CommandVehicle} {sent : List Message} {events : List CommandEvent}

inductive Acted (vehicle : CommandVehicle) :
    CommandVehicle → List Message → List CommandEvent → Prop where
  | subscribed (callback : Bool) :
      Acted vehicle { vehicle with plugin := { vehicle.plugin with commandCallback := callback } }
        [] []
  | acknowledged (ack : CommandAck) :
      Acted vehicle vehicle [vehicle.sender.pack (.commandAck ack)] [.acknowledged ack]

theorem acted {act : Act} (step : party.act act vehicle = some (after, sent, events)) :
    vehicle.Acted after sent events := by
  cases act with
  | subscribeCommand callback => cases step; exact .subscribed callback
  | sendAck ack => cases step; exact .acknowledged ack

theorem hears_packed {environment : Environment} {ground : Sender}
    {command : CommandBase.CommandLong}
    (step : party.hear (SendWorkItem.packed ground command) environment vehicle =
      some (after, sent, events)) :
    after = vehicle ∧ sent = [] ∧ (events = [] ∨ events = [.handed command]) := by
  simp only [party, CommandRoboticVehicleImpl.processMessage, SendWorkItem.packed, Sender.pack] at step
  split at step
  next =>
    cases step
    refine ⟨rfl, rfl, ?_⟩
    cases vehicle.plugin.commandCallback
    · exact .inl rfl
    · exact .inr rfl
  next =>
    cases step
    exact ⟨rfl, rfl, .inl rfl⟩

end CommandVehicle

namespace CommandEvent

@[simp] def givenCommand : CommandEvent → Option CommandBase.CommandLong
  | .given command => some command
  | .told _ | .handed _ | .acknowledged _ => none

@[simp] def handedCommand : CommandEvent → Option CommandBase.CommandLong
  | .handed command => some command
  | .given _ | .told _ | .acknowledged _ => none

@[simp] def sentAck : CommandEvent → Option CommandAck
  | .acknowledged ack => some ack
  | .given _ | .told _ | .handed _ => none

@[simp] def toldAck : CommandEvent → Option CommandAck
  | .told report => SendWorkItem.acked report
  | .given _ | .handed _ | .acknowledged _ => none

end CommandEvent
open CommandEvent

namespace Commands
variable {ground vehicle : Sender} {trace events : List CommandEvent}

def lastGiven (trace : List CommandEvent) : Option CommandBase.CommandLong :=
  (trace.filterMap givenCommand).getLast?

theorem mem_of_lastGiven {command : CommandBase.CommandLong}
    (given : lastGiven trace = some command) : .given command ∈ trace := by
  obtain ⟨event, member, same⟩ := List.mem_filterMap.mp (List.mem_of_getLast? given)
  cases event with
  | given => cases same; exact member
  | told | handed | acknowledged => cases same

private theorem lastGiven_append (others : ∀ event ∈ events, event.givenCommand = none) :
    lastGiven (trace ++ events) = lastGiven trace := by
  rw [lastGiven, List.filterMap_append, List.filterMap_eq_nil_iff.mpr others, List.append_nil]
  rfl

private theorem lastGiven_append_given (command : CommandBase.CommandLong) :
    lastGiven (trace ++ [.given command]) = some command := by
  simp [lastGiven]

def Plain (events : List CommandEvent) : Prop :=
  ∀ event ∈ events, ∃ report, event = .told report ∧ SendWorkItem.acked report = none

namespace Plain
variable (plain : Plain events)
include plain

theorem givenCommand : ∀ event ∈ events, event.givenCommand = none := by
  intro event member
  obtain ⟨report, rfl, _⟩ := plain event member
  rfl

theorem handedCommand : ∀ event ∈ events, event.handedCommand = none := by
  intro event member
  obtain ⟨report, rfl, _⟩ := plain event member
  rfl

theorem sentAck : ∀ event ∈ events, event.sentAck = none := by
  intro event member
  obtain ⟨report, rfl, _⟩ := plain event member
  rfl

theorem toldAck : ∀ event ∈ events, event.toldAck = none := by
  intro event member
  obtain ⟨report, rfl, none⟩ := plain event member
  exact none

end Plain

abbrev Ends := Link CommandImpl CommandVehicle Message

/-- The plugin sends in its own name, for the command that was given last. -/
structure Current (ground : Sender) (trace : List CommandEvent) (plugin : CommandImpl) : Prop where
  sender : plugin.sender = ground
  item : ∀ life, plugin.lastSend = some life →
    life.item.sender = ground ∧ lastGiven trace = some life.item.command

theorem Current.append {plugin : CommandImpl} (current : Current ground trace plugin)
    (others : ∀ event ∈ events, event.givenCommand = none) :
    Current ground (trace ++ events) plugin := by
  refine ⟨current.sender, ?_⟩
  intro life sending
  rw [lastGiven_append others]
  exact current.item life sending

theorem Current.acted {plugin after : CommandImpl} {sent : List Message}
    (current : Current ground trace plugin) (acted : plugin.Acted after sent events) :
    Current ground (trace ++ events) after := by
  cases acted with
  | busy alive => exact current.append (by simp)
  | given free =>
    refine ⟨current.sender, ?_⟩
    rintro life sending
    cases sending
    exact ⟨current.sender, lastGiven_append_given _⟩
  | dropped =>
    refine ⟨current.sender, ?_⟩
    intro life sending
    cases sending
  | went sending went =>
    obtain ⟨sender, given⟩ := current.item _ sending
    refine ⟨current.sender, ?_⟩
    rintro life same
    cases same
    rw [lastGiven_append (Plain.givenCommand went.plain), went.kept.sender, went.kept.command]
    exact ⟨sender, given⟩

theorem Current.hears {message : Message} {plugin after : CommandImpl}
    (current : Current ground trace plugin) (hears : plugin.Hears message after events) :
    Current ground (trace ++ events) after := by
  cases hears with
  | nobody => simpa using current
  | @heard life _ effects sending heard =>
    obtain ⟨sender, given⟩ := current.item _ sending
    have others : ∀ event ∈ effects.filterMap CommandImpl.eventOf, event.givenCommand = none := by
      have told := heard.hears
      generalize effects.filterMap CommandImpl.eventOf = reported at told
      cases told <;> simp
    refine ⟨current.sender, ?_⟩
    rintro life same
    cases same
    rw [lastGiven_append others, heard.kept.sender, heard.kept.command]
    exact ⟨sender, given⟩

end Commands
end PilotingMavsdk
