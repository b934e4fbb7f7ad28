import PilotingMavsdk.Library.Traces
import PilotingMavsdk.Proofs.CommandSteps
import PilotingMavsdk.Proofs.UdpTransfers

/-! What the two users of the command plugins can rely on: nobody is handed a command that was not
given, nor told an acknowledgement that was not sent. On a network without faults both also come in
order, and no more often than they were sent. -/

namespace PilotingMavsdk
open Library CommandEvent

namespace Commands
variable {ground vehicle : Sender} {trace events : List CommandEvent} {ends after : Ends}

def initial (ground vehicle : Sender) (plugin : CommandRoboticVehicleImpl) : Ends where
  first := { sender := ground }
  second := { sender := vehicle, plugin := plugin }

/-- What comes to a user comes from the other one. -/
def Justified (before : List CommandEvent) : CommandEvent → Prop
  | .handed command => ∃ original number, .given original ∈ before ∧ number < retries ∧
    command = original.numbered number
  | .told report => ∀ ack, SendWorkItem.acked report = some ack →
    .acknowledged ack ∈ before ∧
      ∃ command, lastGiven before = some command ∧ command.command = ack.command
  | .given _ | .acknowledged _ => True

structure Answered (ground vehicle : Sender) (trace : List CommandEvent) (ends : Ends) : Prop where
  current : Current ground trace ends.first
  address : ends.second.sender = vehicle
  toSecond : ∀ message ∈ ends.toSecond, ∃ command number, .given command ∈ trace ∧
    number < retries ∧ message = SendWorkItem.packed ground (command.numbered number)
  toFirst : ∀ message ∈ ends.toFirst, ∃ ack, .acknowledged ack ∈ trace ∧
    message = vehicle.pack (.commandAck ack)
  justified : Accounted Justified trace

namespace Answered
variable (answered : Answered ground vehicle trace ends)
include answered

private theorem toSecond_append (events : List CommandEvent) : ∀ message ∈ ends.toSecond,
    ∃ command number, .given command ∈ trace ++ events ∧ number < retries ∧
      message = SendWorkItem.packed ground (command.numbered number) := by
  intro message member
  obtain ⟨command, number, given, few, same⟩ := answered.toSecond message member
  exact ⟨command, number, List.mem_append_left _ given, few, same⟩

private theorem toFirst_append (events : List CommandEvent) : ∀ message ∈ ends.toFirst,
    ∃ ack, .acknowledged ack ∈ trace ++ events ∧ message = vehicle.pack (.commandAck ack) := by
  intro message member
  obtain ⟨ack, sent, same⟩ := answered.toFirst message member
  exact ⟨ack, List.mem_append_left _ sent, same⟩

private theorem justified_plain (plain : Plain events) : Accounted Justified (trace ++ events) := by
  apply answered.justified.append
  intro before event later split
  obtain ⟨report, rfl, none⟩ := plain event (by rw [split]; simp)
  intro ack acked
  rw [none] at acked
  cases acked

theorem acted {plugin : CommandImpl} {sent : List Message}
    (acted : ends.first.Acted plugin sent events) :
    Answered ground vehicle (trace ++ events)
      { ends with first := plugin, toSecond := ends.toSecond ++ sent } := by
  have current := answered.current.acted acted
  cases acted with
  | busy alive =>
    refine ⟨current, answered.address, ?_, answered.toFirst_append _, ?_⟩
    · rw [List.append_nil]
      exact answered.toSecond_append _
    · exact answered.justified_plain (by simp [Plain, SendWorkItem.acked])
  | given free =>
    refine ⟨current, answered.address, ?_, answered.toFirst_append _, ?_⟩
    · rw [List.append_nil]
      exact answered.toSecond_append _
    · exact answered.justified.append_singleton trivial
  | dropped =>
    refine ⟨current, answered.address, ?_, answered.toFirst_append _, ?_⟩
    · simpa using answered.toSecond_append []
    · simpa using answered.justified
  | @went life next effects sending went =>
    obtain ⟨sender, given⟩ := answered.current.item life sending
    have attempted (number : Nat) (few : number < retries) : ∃ command index,
        .given command ∈ trace ++ effects.filterMap CommandImpl.eventOf ∧ index < retries ∧
          SendWorkItem.packed life.item.sender (life.item.command.numbered number) =
            SendWorkItem.packed ground (command.numbered index) :=
      ⟨_, number, List.mem_append_left _ (mem_of_lastGiven given), few, by rw [sender]⟩
    refine ⟨current, answered.address, ?_, answered.toFirst_append _,
      answered.justified_plain went.plain⟩
    have attempts := went.attempts
    intro message member
    rcases List.mem_append.mp member with member | member
    · exact answered.toSecond_append _ message member
    · simp only at attempts
      generalize effects.filterMap Effect.sent = sent at attempts member
      cases attempts with
      | none | unsent => cases member
      | first =>
        rw [List.mem_singleton.mp member]
        exact attempted 0 (by decide)
      | next few =>
        rw [List.mem_singleton.mp member]
        exact attempted _ few

theorem hears {message : Message} {plugin : CommandImpl} (waiting : message ∈ ends.toFirst)
    (hears : ends.first.Hears message plugin events) :
    Answered ground vehicle (trace ++ events) { ends with first := plugin } := by
  have current := answered.current.hears hears
  refine ⟨current, answered.address, answered.toSecond_append _, answered.toFirst_append _, ?_⟩
  cases hears with
  | nobody => simpa using answered.justified
  | @heard life _ effects sending heard =>
    obtain ⟨_, given⟩ := answered.current.item life sending
    have told := heard.hears
    simp only at told
    generalize effects.filterMap CommandImpl.eventOf = reported at told
    cases told with
    | nothing => simpa using answered.justified
    | @acknowledged ack result content own acked =>
      obtain ⟨other, sent, rfl⟩ := answered.toFirst message waiting
      cases content
      apply answered.justified.append_singleton
      intro found same
      rw [acked] at same
      cases same
      exact ⟨sent, _, given, own⟩

private theorem vehicleActed {second : CommandVehicle} {sent : List Message}
    (acted : ends.second.Acted second sent events) :
    Answered ground vehicle (trace ++ events)
      { ends with second := second, toFirst := ends.toFirst ++ sent } := by
  cases acted with
  | subscribed =>
    refine ⟨?_, answered.address, answered.toSecond_append _, ?_, ?_⟩
    · simpa using answered.current
    · simpa using answered.toFirst
    · simpa using answered.justified
  | acknowledged ack =>
    refine ⟨answered.current.append (by simp), answered.address, answered.toSecond_append _, ?_,
      answered.justified.append_singleton trivial⟩
    intro message member
    rcases List.mem_append.mp member with member | member
    · exact answered.toFirst_append _ message member
    · rw [List.mem_singleton.mp member, answered.address]
      exact ⟨ack, by simp, rfl⟩

private theorem vehicleHears {message : Message} {environment : Environment}
    {second : CommandVehicle} {sent : List Message} (waiting : message ∈ ends.toSecond)
    (heard : CommandVehicle.party.hear message environment ends.second =
      some (second, sent, events)) :
    sent = [] ∧ Answered ground vehicle (trace ++ events) { ends with second := second } := by
  obtain ⟨command, number, given, few, rfl⟩ := answered.toSecond message waiting
  obtain ⟨rfl, rfl, events⟩ := CommandVehicle.hears_packed heard
  refine ⟨rfl, ?_, answered.address, answered.toSecond_append _, answered.toFirst_append _, ?_⟩
  · apply answered.current.append
    rcases events with rfl | rfl <;> simp
  · rcases events with rfl | rfl
    · simpa using answered.justified
    · exact answered.justified.append_singleton ⟨command, number, given, few, rfl⟩

theorem moves (moves : ends.Moves .lossy CommandImpl.party CommandVehicle.party after events) :
    Answered ground vehicle (trace ++ events) after := by
  cases moves with
  | first acted => exact answered.acted (CommandImpl.acted acted)
  | second acted => exact answered.vehicleActed (CommandVehicle.acted acted)
  | toFirst takes heard =>
    obtain ⟨waiting, rfl⟩ := takes
    obtain ⟨rfl, hears⟩ := CommandImpl.hears heard
    simpa using answered.hears waiting hears
  | toSecond takes heard =>
    obtain ⟨waiting, rfl⟩ := takes
    obtain ⟨rfl, after⟩ := answered.vehicleHears waiting heard
    simpa using after

end Answered

private theorem answered_start {plugin : CommandRoboticVehicleImpl} :
    Answered ground vehicle [] (initial ground vehicle plugin) :=
  ⟨⟨rfl, by simp [initial]⟩, rfl, by simp [initial], by simp [initial], accounted_nil⟩

theorem Answered.fitting {node : Library.Side → UdpNode} (joined : Joined ground vehicle node)
    (answered : Answered ground vehicle trace ends) :
    Wire.Fitting (joined.pair.Fits transferCodec) ends := by
  constructor
  · intro message member
    obtain ⟨ack, _, rfl⟩ := answered.toFirst message member
    exact joined.fits_vehicle trivial (by decide)
  · intro message member
    obtain ⟨command, number, _, _, rfl⟩ := answered.toSecond message member
    exact joined.fits_ground trivial (by decide)

/-- On a network that loses, doubles and reorders datagrams: what the vehicle's user is handed is a
command that was given before, with the number of one of its attempts. What the ground station's user
is told to be acknowledged was acknowledged before by the vehicle's, and belongs to the command that was
given last. -/
theorem commands_justified {node : Library.Side → UdpNode} (joined : Joined ground vehicle node)
    {plugin : CommandRoboticVehicleImpl}
    {log : List (Taken (Link (Wired CommandImpl UdpPort) (Wired CommandVehicle UdpPort) Packet)
      (LossyAction (CommandImpl.Act × (Nat → PackMemory)) (CommandVehicle.Act × (Nat → PackMemory))
        (Arrival × List Environment × (Nat → PackMemory)) Packet) CommandEvent)}
    {last : Link (Wired CommandImpl UdpPort) (Wired CommandVehicle UdpPort) Packet}
    (run : (Link.lossy (udpWire.party CommandImpl.party) (udpWire.party CommandVehicle.party)).Run
      (udpLink ground vehicle node { sender := ground } { sender := vehicle, plugin := plugin })
      log last) :
    let trace := log.flatMap Taken.outputs
    (∀ before command later, trace = before ++ .handed command :: later →
      ∃ original number, .given original ∈ before ∧ number < retries ∧
        command = { original with confirmation := UInt8.ofNat number }) ∧
    ∀ before result ack later, trace = before ++ .told (result, ack) :: later →
      result = .success ∨ result = .inProgress →
      .acknowledged ack ∈ before ∧ ∃ command,
        (before.filterMap givenCommand).getLast? = some command ∧ command.command = ack.command := by
  intro trace
  obtain ⟨_, _, answered⟩ := Wire.Covers.invariant_lossy (Answered ground vehicle)
    (joined.pair.faithful transferCodec) Answered.moves (Answered.fitting joined) answered_start run
    (joined.covers _ _ _ _)
  constructor
  · intro before command later split
    exact answered.justified before _ later split
  · intro before result ack later split acknowledged
    apply answered.justified before _ later split
    rcases acknowledged with rfl | rfl <;> rfl

/-- A command that arrives twice, and one acknowledgement. -/
theorem commands_justified_doubled :
    let ground : Sender := ⟨⟨1, 0⟩, ⟨2, 0⟩⟩
    let vehicle : Sender := ⟨⟨2, 0⟩, ⟨1, 0⟩⟩
    let plugin : CommandRoboticVehicleImpl := { handlers := [76], commandCallback := true }
    let memory : Nat → PackMemory := fun _ => {}
    let command : Packet := ⟨⟨"10.0.0.1", 14540⟩, ⟨"10.0.0.2", 14550⟩,
      [253, 31, 0, 0, 0, 1, 0, 76, 0, 0] ++ (List.replicate 7 [0, 0, 192, 127]).flatten ++
        [5, 0, 2, 17, 113]⟩
    let ack : Packet := ⟨⟨"10.0.0.2", 14550⟩, ⟨"10.0.0.1", 14540⟩,
      [253, 9, 0, 0, 0, 2, 0, 77, 0, 0, 5, 0, 0, 0, 0, 0, 0, 0, 1, 96, 155]⟩
    let actions : List (LossyAction (CommandImpl.Act × (Nat → PackMemory))
        (CommandVehicle.Act × (Nat → PackMemory)) (Arrival × List Environment × (Nat → PackMemory))
        Packet) :=
      [.first (.sendCommandAsync { command := 5 }, memory),
        .first (.item (.call .start ⟨true, 1⟩), memory), .toSecond command ({}, [⟨true, 2⟩], memory),
        .toSecond command ({}, [⟨true, 2⟩], memory), .second (.sendAck { command := 5 }, memory),
        .toFirst ack ({}, [⟨true, 3⟩], memory)]
    let system := Link.lossy (udpWire.party CommandImpl.party) (udpWire.party CommandVehicle.party)
    let start := udpLink ground vehicle sampleNode ({ sender := ground } : CommandImpl)
      ({ sender := vehicle, plugin := plugin } : CommandVehicle)
    let trace := (system.log start actions).flatMap Taken.outputs
    trace.length = 5 ∧
    (∀ before command later, trace = before ++ .handed command :: later →
      ∃ original number, .given original ∈ before ∧ number < retries ∧
        command = { original with confirmation := UInt8.ofNat number }) ∧
    ∀ before result ack later, trace = before ++ .told (result, ack) :: later →
      result = .success ∨ result = .inProgress →
      .acknowledged ack ∈ before ∧ ∃ command,
        (before.filterMap givenCommand).getLast? = some command ∧ command.command = ack.command := by
  intro ground vehicle plugin memory command ack actions system start trace
  have possible : (system.exec start actions).isSome = true := by decide +kernel
  exact ⟨by decide +kernel,
    commands_justified joined_sampleNode (Machine.run_last system start actions possible)⟩

end Commands

namespace CommandBase.CommandLong

def attempts (command : CommandBase.CommandLong) : List CommandBase.CommandLong :=
  (List.range retries).map command.numbered

private theorem take_attempts (command : CommandBase.CommandLong) {number : Nat}
    (few : number < retries) :
    command.attempts.take (number + 1) = command.attempts.take number ++ [command.numbered number] := by
  have inside : number < command.attempts.length := by simpa [attempts] using few
  rw [List.take_add_one, List.getElem?_eq_getElem inside]
  simp [attempts]

end CommandBase.CommandLong

namespace SendWorkItem

/-- What the item has sent. An acknowledgement may reach it before it is started, and then its timer
makes it send; `start` counts from zero again. -/
def Progress (item : SendWorkItem) (own : List CommandBase.CommandLong) : Prop :=
  if item.started then
    own.Sublist (item.command.attempts ++ item.command.attempts.take item.retriesDone)
  else own = item.command.attempts.take item.retriesDone

theorem Progress.sublist {item : SendWorkItem} {own : List CommandBase.CommandLong}
    (progress : item.Progress own) :
    own.Sublist (item.command.attempts ++ item.command.attempts) := by
  rw [Progress] at progress
  split at progress
  · exact progress.trans ((List.take_sublist _ _).append_left _)
  · rw [progress]
    exact (List.take_sublist _ _).trans (List.sublist_append_left _ _)

theorem Progress.attempts {item after : SendWorkItem} {sent : List Message}
    {own : List CommandBase.CommandLong} (progress : item.Progress own) (kept : Kept item after)
    (attempts : Attempts item after sent) :
    ∃ more, sent = more.map (packed item.sender) ∧ after.Progress (own ++ more) := by
  cases attempts with
  | none started done =>
    refine ⟨[], rfl, ?_⟩
    rw [Progress, started, done, kept.command, List.append_nil]
    exact progress
  | unsent idle started done =>
    refine ⟨[], rfl, ?_⟩
    rw [Progress, if_neg (by simp [idle])] at progress
    rw [Progress, if_pos started, done, kept.command, progress]
    simpa using List.take_sublist _ _
  | first idle started done =>
    refine ⟨[_], rfl, ?_⟩
    rw [Progress, if_neg (by simp [idle])] at progress
    rw [Progress, if_pos started, done, kept.command, progress]
    exact (List.take_sublist _ _).append (List.Sublist.refl _)
  | next few started done =>
    refine ⟨[_], rfl, ?_⟩
    rw [Progress] at progress
    rw [Progress, started, done, kept.command, CommandBase.CommandLong.take_attempts _ few]
    split
    next running =>
      rw [if_pos running] at progress
      rw [← List.append_assoc]
      exact progress.append (List.Sublist.refl _)
    next idle =>
      rw [if_neg idle] at progress
      rw [progress]

theorem Progress.waits {item : SendWorkItem} {message : Message} {outcome : After}
    {own : List CommandBase.CommandLong} (progress : item.Progress own)
    (heard : item.Heard message outcome) : outcome.item.Progress own := by
  rw [Progress, heard.started, heard.retriesDone, heard.kept.command]
  exact progress

theorem Hears.told {item : SendWorkItem} {message : Message} {events : List CommandEvent}
    (hears : item.Hears message events) : ∀ event ∈ events,
      event.givenCommand = none ∧ event.handedCommand = none ∧ event.sentAck = none := by
  cases hears <;> simp

end SendWorkItem

namespace Commands
variable {ground vehicle : Sender} {trace events : List CommandEvent} {ends after : Ends}

def allAttempts (given : List CommandBase.CommandLong) : List CommandBase.CommandLong :=
  given.flatMap fun command => command.attempts ++ command.attempts

/-- What has been sent for the commands that were given, the last of which may not be done. -/
inductive Issued (given : List CommandBase.CommandLong) :
    Option (Life SendWorkItem) → List CommandBase.CommandLong → Prop where
  | idle {all : List CommandBase.CommandLong} (within : all.Sublist (allAttempts given)) :
      Issued given none all
  | sending {life : Life SendWorkItem} {earlier older own : List CommandBase.CommandLong}
      (split : given = earlier ++ [life.item.command])
      (within : older.Sublist (allAttempts earlier)) (progress : life.item.Progress own) :
      Issued given (some life) (older ++ own)

theorem Issued.sublist {given all : List CommandBase.CommandLong}
    {lastSend : Option (Life SendWorkItem)} (issued : Issued given lastSend all) :
    all.Sublist (allAttempts given) := by
  cases issued with
  | idle within => exact within
  | sending split within progress =>
    rw [split, allAttempts, List.flatMap_append]
    exact within.append (by simpa using progress.sublist)

/-- Commands: those under way come behind those that have arrived. -/
structure Handed (ground : Sender) (trace : List CommandEvent) (ends : Ends)
    (arrived underway : List CommandBase.CommandLong) : Prop where
  toSecond : ends.toSecond = underway.map (SendWorkItem.packed ground)
  issued : Issued (trace.filterMap givenCommand) ends.first.lastSend (arrived ++ underway)
  handed : (trace.filterMap handedCommand).Sublist arrived

/-- Acknowledgements likewise. -/
structure Told (vehicle : Sender) (trace : List CommandEvent) (ends : Ends)
    (arrived underway : List CommandAck) : Prop where
  toFirst : ends.toFirst = underway.map fun ack => vehicle.pack (.commandAck ack)
  sent : trace.filterMap sentAck = arrived ++ underway
  told : (trace.filterMap toldAck).Sublist arrived

private theorem filterMap_append_of_none {Value : Type} {project : CommandEvent → Option Value}
    (others : ∀ event ∈ events, project event = none) :
    (trace ++ events).filterMap project = trace.filterMap project := by
  rw [List.filterMap_append, List.filterMap_eq_nil_iff.mpr others, List.append_nil]

namespace Handed
variable {arrived underway : List CommandBase.CommandLong}
  (handed : Handed ground trace ends arrived underway)
include handed

theorem acted {plugin : CommandImpl} {sent : List Message}
    (current : Current ground trace ends.first) (acted : ends.first.Acted plugin sent events) :
    ∃ underway, Handed ground (trace ++ events)
      { ends with first := plugin, toSecond := ends.toSecond ++ sent } arrived underway := by
  obtain ⟨toSecond, issued, handedOnly⟩ := handed
  cases acted with
  | busy alive =>
    refine ⟨underway, ?_, ?_, ?_⟩
    · simpa using toSecond
    · simpa [List.filterMap_cons] using issued
    · simpa [List.filterMap_cons] using handedOnly
  | @given command free =>
    refine ⟨underway, ?_, ?_, ?_⟩
    · simpa using toSecond
    · have fresh : (SendWorkItem.create ends.first.sender command true).Progress [] := rfl
      rw [← List.append_nil (arrived ++ underway)]
      refine .sending ?_ issued.sublist fresh
      simp [SendWorkItem.create]
    · simpa [List.filterMap_cons] using handedOnly
  | dropped =>
    refine ⟨underway, ?_, .idle ?_, ?_⟩
    · simpa using toSecond
    · simpa using issued.sublist
    · simpa using handedOnly
  | @went life next effects sending went =>
    rw [sending] at issued
    generalize whole : arrived ++ underway = all at issued
    cases issued with
    | sending split within progress =>
      obtain ⟨more, sent, further⟩ := progress.attempts went.kept went.attempts
      have plain : Plain (effects.filterMap CommandImpl.eventOf) := went.plain
      refine ⟨underway ++ more, ?_, ?_, ?_⟩
      · rw [toSecond, List.map_append, ← (current.item life sending).1]
        exact congrArg _ sent
      · rw [filterMap_append_of_none plain.givenCommand, ← List.append_assoc, whole,
          List.append_assoc]
        rw [← went.kept.command] at split
        exact .sending split within further
      · rw [filterMap_append_of_none plain.handedCommand]
        exact handedOnly

theorem hears {message : Message} {plugin : CommandImpl} {left : List Message}
    (hears : ends.first.Hears message plugin events) :
    Handed ground (trace ++ events) { ends with first := plugin, toFirst := left }
      arrived underway := by
  obtain ⟨toSecond, issued, handedOnly⟩ := handed
  cases hears with
  | nobody => exact ⟨toSecond, by simpa using issued, by simpa using handedOnly⟩
  | @heard life next effects sending heard =>
    rw [sending] at issued
    generalize whole : arrived ++ underway = all at issued
    cases issued with
    | sending split within progress =>
      have told := heard.hears.told
      refine ⟨toSecond, ?_, ?_⟩
      · rw [filterMap_append_of_none fun event member => (told event member).1, whole]
        rw [← heard.kept.command] at split
        exact .sending split within (progress.waits heard)
      · rw [filterMap_append_of_none fun event member => (told event member).2.1]
        exact handedOnly

private theorem vehicleActed {second : CommandVehicle} {sent : List Message}
    (acted : ends.second.Acted second sent events) :
    Handed ground (trace ++ events)
      { ends with second := second, toFirst := ends.toFirst ++ sent } arrived underway := by
  obtain ⟨toSecond, issued, handedOnly⟩ := handed
  cases acted with
  | subscribed => exact ⟨toSecond, by simpa using issued, by simpa using handedOnly⟩
  | acknowledged =>
    refine ⟨toSecond, ?_, ?_⟩
    · simpa [List.filterMap_cons] using issued
    · simpa [List.filterMap_cons] using handedOnly

private theorem vehicleHears {message : Message} {left sent : List Message}
    {environment : Environment}
    {second : CommandVehicle} (waiting : ends.toSecond = message :: left)
    (heard : CommandVehicle.party.hear message environment ends.second =
      some (second, sent, events)) :
    second = ends.second ∧ sent = [] ∧ (∀ event ∈ events, (event.givenCommand = none ∧
      event.sentAck = none) ∧ event.toldAck = none) ∧ ∃ arrived underway,
        Handed ground (trace ++ events) { ends with toSecond := left } arrived underway := by
  obtain ⟨toSecond, issued, handedOnly⟩ := handed
  rw [waiting] at toSecond
  obtain ⟨command, rest, rfl, rfl, later⟩ := List.map_eq_cons_iff.mp toSecond.symm
  obtain ⟨rfl, rfl, events⟩ := CommandVehicle.hears_packed heard
  refine ⟨rfl, rfl, ?_, arrived ++ [command], rest, later.symm, ?_, ?_⟩
  · rcases events with rfl | rfl <;> simp
  · rcases events with rfl | rfl <;> simpa [List.filterMap_cons] using issued
  · rcases events with rfl | rfl
    · simpa using handedOnly.trans (List.sublist_append_left _ _)
    · simpa using handedOnly

end Handed

namespace Told
variable {arrived underway : List CommandAck} (told : Told vehicle trace ends arrived underway)
include told

theorem acted {plugin : CommandImpl} {sent : List Message}
    (acted : ends.first.Acted plugin sent events) :
    Told vehicle (trace ++ events)
      { ends with first := plugin, toSecond := ends.toSecond ++ sent } arrived underway := by
  obtain ⟨toFirst, sentSoFar, toldOnly⟩ := told
  cases acted with
  | busy =>
    refine ⟨toFirst, ?_, ?_⟩
    · simpa [List.filterMap_cons] using sentSoFar
    · simpa [List.filterMap_cons, SendWorkItem.acked] using toldOnly
  | given =>
    refine ⟨toFirst, ?_, ?_⟩
    · simpa [List.filterMap_cons] using sentSoFar
    · simpa [List.filterMap_cons] using toldOnly
  | dropped => exact ⟨toFirst, by simpa using sentSoFar, by simpa using toldOnly⟩
  | @went life next effects sending went =>
    have plain : Plain (effects.filterMap CommandImpl.eventOf) := went.plain
    refine ⟨toFirst, ?_, ?_⟩
    · rw [filterMap_append_of_none plain.sentAck]
      exact sentSoFar
    · rw [filterMap_append_of_none plain.toldAck]
      exact toldOnly

theorem hears {message : Message} {left : List Message} {plugin : CommandImpl}
    (waiting : ends.toFirst = message :: left) (hears : ends.first.Hears message plugin events) :
    ∃ arrived underway, Told vehicle (trace ++ events)
      { ends with first := plugin, toFirst := left } arrived underway := by
  obtain ⟨toFirst, sentSoFar, toldOnly⟩ := told
  rw [waiting] at toFirst
  obtain ⟨ack, rest, rfl, rfl, later⟩ := List.map_eq_cons_iff.mp toFirst.symm
  refine ⟨arrived ++ [ack], rest, ?_⟩
  cases hears with
  | nobody =>
    refine ⟨later.symm, by simpa using sentSoFar, ?_⟩
    simpa using toldOnly.trans (List.sublist_append_left _ _)
  | @heard life next effects sending heard =>
    have told := heard.hears
    simp only at told
    generalize effects.filterMap CommandImpl.eventOf = reported at told
    cases told with
    | nothing =>
      refine ⟨later.symm, by simpa using sentSoFar, ?_⟩
      simpa using toldOnly.trans (List.sublist_append_left _ _)
    | acknowledged content _ acked =>
      cases content
      refine ⟨later.symm, by simpa [List.filterMap_cons] using sentSoFar, ?_⟩
      simpa [List.filterMap_cons, acked] using toldOnly

private theorem vehicleActed {second : CommandVehicle} {sent : List Message}
    (address : ends.second.sender = vehicle) (acted : ends.second.Acted second sent events) :
    second.sender = vehicle ∧ ∃ underway, Told vehicle (trace ++ events)
      { ends with second := second, toFirst := ends.toFirst ++ sent } arrived underway := by
  obtain ⟨toFirst, sentSoFar, toldOnly⟩ := told
  cases acted with
  | subscribed =>
    exact ⟨address, underway, by simpa using toFirst, by simpa using sentSoFar,
      by simpa using toldOnly⟩
  | acknowledged ack =>
    refine ⟨address, underway ++ [ack], ?_, ?_, ?_⟩
    · rw [address, toFirst, List.map_append]
      rfl
    · simp [sentSoFar]
    · simpa [List.filterMap_cons] using toldOnly

end Told

structure InOrder (ground vehicle : Sender) (trace : List CommandEvent) (ends : Ends) : Prop where
  current : Current ground trace ends.first
  address : ends.second.sender = vehicle
  handed : ∃ arrived underway, Handed ground trace ends arrived underway
  told : ∃ arrived underway, Told vehicle trace ends arrived underway

theorem inOrder_start {plugin : CommandRoboticVehicleImpl} :
    InOrder ground vehicle [] (initial ground vehicle plugin) := by
  refine ⟨⟨rfl, by simp [initial]⟩, rfl, ⟨[], [], rfl, ?_, .slnil⟩, [], [], rfl, rfl, .slnil⟩
  exact .idle (List.nil_sublist _)

theorem InOrder.moves (inOrder : InOrder ground vehicle trace ends)
    (moves : ends.Moves .inOrder CommandImpl.party CommandVehicle.party after events) :
    InOrder ground vehicle (trace ++ events) after := by
  obtain ⟨current, address, ⟨_, _, handed⟩, heardAcks, waitingAcks, told⟩ := inOrder
  cases moves with
  | first acted =>
    have acted := CommandImpl.acted acted
    exact ⟨current.acted acted, address, ⟨_, handed.acted current acted⟩, _, _, told.acted acted⟩
  | second acted =>
    have acted := CommandVehicle.acted acted
    obtain ⟨named, more⟩ := told.vehicleActed address acted
    refine ⟨?_, named, ⟨_, _, handed.vehicleActed acted⟩, _, more⟩
    apply current.append
    cases acted <;> simp
  | @toFirst message _ _ _ left _ takes heard =>
    have waiting : ends.toFirst = message :: left := takes
    obtain ⟨rfl, hears⟩ := CommandImpl.hears heard
    rw [List.append_nil]
    exact ⟨current.hears hears, address, ⟨_, _, handed.hears hears⟩, told.hears waiting hears⟩
  | @toSecond message _ _ _ left _ takes heard =>
    have waiting : ends.toSecond = message :: left := takes
    obtain ⟨rfl, rfl, others, arrived, underway, handed⟩ := handed.vehicleHears waiting heard
    rw [List.append_nil]
    refine ⟨current.append fun event member => (others event member).1.1, address,
      ⟨arrived, underway, handed⟩, heardAcks, waitingAcks, told.toFirst, ?_, ?_⟩
    · rw [filterMap_append_of_none fun event member => (others event member).1.2]
      exact told.sent
    · rw [filterMap_append_of_none fun event member => (others event member).2]
      exact told.told

theorem InOrder.fitting {node : Library.Side → UdpNode} (joined : Joined ground vehicle node)
    (inOrder : InOrder ground vehicle trace ends) :
    Wire.Fitting (joined.pair.Fits transferCodec) ends := by
  obtain ⟨_, _, ⟨_, _, handed⟩, _, _, told⟩ := inOrder
  constructor
  · intro message member
    rw [told.toFirst] at member
    obtain ⟨ack, _, rfl⟩ := List.mem_map.mp member
    exact joined.fits_vehicle trivial (by decide)
  · intro message member
    rw [handed.toSecond] at member
    obtain ⟨command, _, rfl⟩ := List.mem_map.mp member
    exact joined.fits_ground trivial (by decide)

end Commands
end PilotingMavsdk
