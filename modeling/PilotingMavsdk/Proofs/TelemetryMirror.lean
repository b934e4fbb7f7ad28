import PilotingMavsdk.Library.Traces
import PilotingMavsdk.Proofs.TelemetrySamples

/-! The ground station's telemetry is the vehicle's: what arrives has been sent, and if nothing is lost
the getters and the callbacks follow the vehicle sample by sample. -/

namespace PilotingMavsdk
open Library TelemetryBase

namespace Telemetry
variable {Callback : Type} {own : MAVLinkAddress} {this : Cookie}

abbrev Ends (Callback : Type) :=
  Link (TelemetryImpl Callback) TelemetryRoboticVehicleImpl PackCall

/-- Of the samples that were sent some have arrived and the others are under way. -/
structure Mirrored (first : TelemetryImpl Callback) (trace : List (TelemetryEvent Callback))
    (ends : Ends Callback) (arrived underway : List TelemetrySample) : Prop where
  sent : trace.filterMap TelemetryEvent.sentSample = arrived ++ underway
  queue : ends.toFirst.filterMap TelemetryImpl.heard = underway.map .delivered
  values : ends.first.toTelemetryValues =
    (arrived.map .delivered).foldl TelemetryValues.put first.toTelemetryValues
  called : (trace.filterMap TelemetryEvent.calledSample).Sublist (arrived.map .delivered)
  constant : .subscribed ∉ trace → ends.first.subscriptions = first.subscriptions ∧
    (first.Subscribed →
      trace.filterMap TelemetryEvent.calledSample = arrived.map .delivered)

variable {first : TelemetryImpl Callback} {trace events : List (TelemetryEvent Callback)}
  {ends after : Ends Callback} {arrived underway : List TelemetrySample}

theorem Mirrored.utters {own : TelemetryRoboticVehicleImpl} {sent : List PackCall}
    (mirrored : Mirrored first trace ends arrived underway) (acted : own.Acted sent events) :
    ∃ underway, Mirrored first (trace ++ events)
      { ends with toFirst := ends.toFirst ++ sent } arrived underway := by
  obtain ⟨sentSoFar, queue, values, called, constant⟩ := mirrored
  cases acted with
  | silent =>
    refine ⟨underway, ?_, ?_, values, ?_, ?_⟩
    · simpa using sentSoFar
    · simpa using queue
    · simpa using called
    · simpa using constant
  | @sample call sample utters =>
    refine ⟨underway ++ [sample], ?_, ?_, values, ?_, ?_⟩
    · simp [sentSoFar]
    · simp [queue, utters.heard]
    · simpa [List.filterMap_cons] using called
    · simpa [List.filterMap_cons] using constant
  | other _ unheard =>
    refine ⟨underway, ?_, ?_, values, ?_, ?_⟩
    · simpa using sentSoFar
    · simpa [unheard] using queue
    · simpa using called
    · simpa using constant

theorem Mirrored.acts {plugin : TelemetryImpl Callback} {sent : List PackCall}
    (mirrored : Mirrored first trace ends arrived underway)
    (acted : ends.first.Acted own plugin sent events) :
    Mirrored first (trace ++ events)
      { ends with first := plugin, toSecond := ends.toSecond ++ sent } arrived underway := by
  obtain ⟨sentSoFar, queue, values, called, constant⟩ := mirrored
  cases acted with
  | subscribed same =>
    refine ⟨?_, queue, same.trans values, ?_, ?_⟩
    · simpa [List.filterMap_cons] using sentSoFar
    · simpa [List.filterMap_cons] using called
    · simp
  | other mine =>
    refine ⟨?_, queue, values, ?_, ?_⟩
    · simpa using sentSoFar
    · simpa using called
    · simpa using constant

theorem Mirrored.hears {plugin : TelemetryImpl Callback} {call : PackCall} {left : List PackCall}
    (mirrored : Mirrored first trace ends arrived underway)
    (waiting : ends.toFirst = call :: left) (heard : ends.first.Hears call plugin events) :
    ∃ arrived underway, Mirrored first (trace ++ events)
      { ends with first := plugin, toFirst := left } arrived underway := by
  obtain ⟨sentSoFar, queue, values, called, constant⟩ := mirrored
  rw [waiting] at queue
  cases heard with
  | nothing unheard =>
    refine ⟨arrived, underway, ?_, ?_, values, ?_, ?_⟩
    · simpa using sentSoFar
    · simpa [unheard] using queue
    · simpa using called
    · simpa using constant
  | @sample sample present =>
    rw [List.filterMap_cons_some present] at queue
    obtain ⟨original, rest, rfl, rfl, later⟩ := List.map_eq_cons_iff.mp queue.symm
    refine ⟨arrived ++ [original], rest, ?_, later.symm, ?_, ?_, ?_⟩
    · cases subscription : ends.first.subscription original.delivered <;> simp [sentSoFar]
    · simp [values]
    · cases subscription : ends.first.subscription original.delivered with
      | none => simpa using called.trans (List.sublist_append_left _ _)
      | some callback => simpa using called
    · intro unchanged
      have before : .subscribed ∉ trace := fun member => unchanged (List.mem_append_left _ member)
      obtain ⟨same, all⟩ := constant before
      refine ⟨same, ?_⟩
      intro subscribed
      have present := subscribed original.delivered
      rw [← TelemetryImpl.subscription_of_subscriptions same] at present
      obtain ⟨callback, has⟩ := Option.isSome_iff_exists.mp present
      simp [has, all subscribed]

def Spoken (own : MAVLinkAddress) (plugin : TelemetryRoboticVehicleImpl) (ends : Ends Callback) :
    Prop :=
  Link.Spoken (fun _ => True) (· = plugin) (PackCall.From own.systemId)
    (PackCall.From plugin.own.systemId) ends

variable {plugin : TelemetryRoboticVehicleImpl}

private theorem groundStation_speaks : (@TelemetryImpl.party Callback own this).Speaks
    (fun _ => True) (PackCall.From own.systemId) := by
  constructor
  · intro state act after sent events _ step
    refine ⟨trivial, ?_⟩
    cases TelemetryImpl.acted step with
    | subscribed => simp
    | other mine => simpa using mine
  · intro state call choice after sent events _ step
    cases step
    exact ⟨trivial, by simp⟩

private theorem vehicle_speaks : (TelemetryRoboticVehicleImpl.party Callback).Speaks (· = plugin)
    (PackCall.From plugin.own.systemId) := by
  constructor
  · intro state act after sent events same step
    obtain ⟨rfl, acted⟩ := TelemetryRoboticVehicleImpl.acted step
    refine ⟨same, ?_⟩
    rw [← same]
    cases acted with
    | silent => simp
    | sample utters => simpa using ⟨utters.known, utters.own⟩
    | other mine => simpa using mine
  · intro state call choice after sent events same step
    cases step
    exact ⟨same, by simp⟩

theorem Spoken.moves {delivery : Delivery} (spoken : Spoken own plugin ends)
    (moves : ends.Moves delivery (TelemetryImpl.party own this)
      (TelemetryRoboticVehicleImpl.party Callback) after events) :
    Spoken own plugin after :=
  Link.Spoken.moves groundStation_speaks vehicle_speaks spoken moves

theorem Spoken.fitting {ground vehicle : Sender} {node : Library.Side → UdpNode}
    (joined : Joined ground vehicle node)
    (spoken : Spoken ground.ownAddress ⟨vehicle.ownAddress⟩ ends) :
    Wire.Fitting (joined.pair.Fits PackCall.codec) ends := by
  constructor
  · intro call member
    obtain ⟨known, own⟩ := spoken.toFirst call member
    have packs := PackCall.packs known
    rw [own] at packs
    exact packs
  · intro call member
    obtain ⟨known, own⟩ := spoken.toSecond call member
    have packs := PackCall.packs known
    rw [own] at packs
    exact packs

theorem Mirrored.moves (spoken : Spoken own plugin ends)
    (mirrored : Mirrored first trace ends arrived underway)
    (moves : ends.Moves .inOrder (TelemetryImpl.party own this)
      (TelemetryRoboticVehicleImpl.party Callback) after events) :
    ∃ arrived underway, Mirrored first (trace ++ events) after arrived underway := by
  cases moves with
  | first acted => exact ⟨arrived, underway, mirrored.acts (TelemetryImpl.acted acted)⟩
  | second acted =>
    obtain ⟨rfl, told⟩ := TelemetryRoboticVehicleImpl.acted acted
    exact ⟨arrived, mirrored.utters told⟩
  | @toFirst call choice _ _ left _ takes heard =>
    have waiting : ends.toFirst = call :: left := takes
    obtain ⟨known, _⟩ := spoken.toFirst call takes.mem.1
    obtain ⟨rfl, hears⟩ := TelemetryImpl.hears known heard
    simpa using mirrored.hears waiting hears
  | toSecond takes heard =>
    cases heard
    exact ⟨arrived, underway, by simpa using mirrored.sent, by simpa using mirrored.queue,
      mirrored.values, by simpa using mirrored.called, by simpa using mirrored.constant⟩

def Mirroring (own : MAVLinkAddress) (plugin : TelemetryRoboticVehicleImpl)
    (first : TelemetryImpl Callback) (trace : List (TelemetryEvent Callback)) (ends : Ends Callback) :
    Prop :=
  Spoken own plugin ends ∧ ∃ arrived underway, Mirrored first trace ends arrived underway

private theorem mirroring_start : Mirroring own plugin first [] ⟨first, plugin, [], []⟩ :=
  ⟨⟨trivial, rfl, by simp, by simp⟩, [], [], rfl, rfl, rfl, List.Sublist.slnil, by simp⟩

theorem Mirroring.moves (mirroring : Mirroring own plugin first trace ends)
    (moves : ends.Moves .inOrder (TelemetryImpl.party own this)
      (TelemetryRoboticVehicleImpl.party Callback) after events) :
    Mirroring own plugin first (trace ++ events) after := by
  obtain ⟨spoken, arrived, underway, mirrored⟩ := mirroring
  exact ⟨spoken.moves moves, mirrored.moves spoken moves⟩

/-- On a network without faults the samples arrive one after the other as they were sent, texts as far
as their array goes. The getters return what has arrived last, and those who have subscribed are called
with each of them, once and in order. -/
theorem telemetry_mirrored {ground vehicle : Sender} {node : Library.Side → UdpNode}
    (joined : Joined ground vehicle node)
    {log : List (Taken (Link (Wired (TelemetryImpl Callback) UdpPort)
      (Wired TelemetryRoboticVehicleImpl UdpPort) Packet)
      (LinkAction (TelemetryImpl.Act Callback × (Nat → PackMemory))
        (TelemetryRoboticVehicleImpl.Act × (Nat → PackMemory))
        (Arrival × List Unit × (Nat → PackMemory))) (TelemetryEvent Callback))}
    {last : Link (Wired (TelemetryImpl Callback) UdpPort)
      (Wired TelemetryRoboticVehicleImpl UdpPort) Packet}
    (run : (Link.machine (PackCall.codec.wire.party (TelemetryImpl.party ground.ownAddress this))
      (PackCall.codec.wire.party (TelemetryRoboticVehicleImpl.party Callback))).Run
      (udpLink ground vehicle node first ⟨vehicle.ownAddress⟩) log last) :
    let trace := log.flatMap Taken.outputs
    ∃ arrived underway, trace.filterMap TelemetryEvent.sentSample = arrived ++ underway ∧
      (last.toFirst = [] → underway = []) ∧
      last.first.state.toTelemetryValues =
        (arrived.map .delivered).foldl TelemetryValues.put first.toTelemetryValues ∧
      (trace.filterMap TelemetryEvent.calledSample).Sublist (arrived.map .delivered) ∧
      (.subscribed ∉ trace → first.Subscribed →
        trace.filterMap TelemetryEvent.calledSample = arrived.map .delivered) := by
  intro trace
  obtain ⟨ends, covers, _, arrived, underway, sent, queue, values, called, constant⟩ :=
    Wire.Covers.invariant (Mirroring ground.ownAddress ⟨vehicle.ownAddress⟩ first)
      (joined.pair.faithful PackCall.codec) Mirroring.moves
      (fun mirroring => Spoken.fitting joined mirroring.1) mirroring_start run
      (joined.covers _ _ _ _)
  refine ⟨arrived, underway, sent, ?_, ?_, called, ?_⟩
  · intro none
    have pairs : List.Forall₂ _ ends.toFirst last.toFirst := covers.toFirst
    rw [none, List.forall₂_nil_right_iff] at pairs
    rw [pairs] at queue
    exact List.map_eq_nil_iff.mp queue.symm
  · rw [covers.first, values]
  · intro unchanged subscribed
    exact (constant unchanged).2 subscribed

/-- A text and a position, for a user who has subscribed to both. -/
theorem telemetry_mirrored_two :
    let ground : Sender := ⟨⟨1, 0⟩, ⟨2, 0⟩⟩
    let vehicle : Sender := ⟨⟨2, 0⟩, ⟨1, 0⟩⟩
    let subscriber : TelemetryImpl Nat :=
      { positionVelocityNedSubscription := some 1, attitudeSubscription := some 2
        textStatusSubscription := some 3 }
    let memory : Nat → PackMemory := fun _ => {}
    let system := Link.machine
      (PackCall.codec.wire.party (TelemetryImpl.party ground.ownAddress 7))
      (PackCall.codec.wire.party (TelemetryRoboticVehicleImpl.party Nat))
    let start := udpLink ground vehicle sampleNode subscriber ⟨vehicle.ownAddress⟩
    let actions : List (LinkAction (TelemetryImpl.Act Nat × (Nat → PackMemory))
        (TelemetryRoboticVehicleImpl.Act × (Nat → PackMemory))
        (Arrival × List Unit × (Nat → PackMemory))) :=
      [.second (.sendTextStatus (fun _ => 7) ⟨.warning, [72, 105]⟩, memory),
        .second (.sendLocalPositionNed { systemId := 2, componentId := 1, stampMs := 5 }, memory),
        .toFirst ({}, [()], memory), .toFirst ({}, [()], memory)]
    let trace := (system.log start actions).flatMap Taken.outputs
    let last := system.last start actions
    ∃ arrived underway, trace.filterMap TelemetryEvent.sentSample = arrived ++ underway ∧
      (last.toFirst = [] → underway = []) ∧
      last.first.state.toTelemetryValues =
        (arrived.map .delivered).foldl TelemetryValues.put subscriber.toTelemetryValues ∧
      (trace.filterMap TelemetryEvent.calledSample).Sublist (arrived.map .delivered) ∧
      (.subscribed ∉ trace → subscriber.Subscribed →
        trace.filterMap TelemetryEvent.calledSample = arrived.map .delivered) := by
  intro ground vehicle subscriber memory system start actions trace last
  have possible : (system.exec start actions).isSome = true := by decide +kernel
  exact telemetry_mirrored joined_sampleNode (Machine.run_last system start actions possible)

/-- The vehicle has sent a sample that arrives like this. -/
def Sent (trace : List (TelemetryEvent Callback)) (sample : TelemetrySample) : Prop :=
  ∃ original, .sent original ∈ trace ∧ original.delivered = sample

/-- Nobody is called with a sample before it has been sent. -/
def CalledAfter (before : List (TelemetryEvent Callback)) : TelemetryEvent Callback → Prop
  | .called _ sample => Sent before sample
  | .sent _ | .subscribed => True

/-- What is under way has been sent, and so had what was kept or reported. -/
structure Echoed (first : TelemetryImpl Callback) (trace : List (TelemetryEvent Callback))
    (ends : Ends Callback) : Prop where
  toFirst : ∀ call ∈ ends.toFirst, ∀ sample, TelemetryImpl.heard call = some sample →
    Sent trace sample
  values : ∀ sample ∈ ends.first.samples, sample ∈ first.samples ∨ Sent trace sample
  called : Accounted CalledAfter trace

theorem Sent.append {sample : TelemetrySample} (sent : Sent trace sample)
    (events : List (TelemetryEvent Callback)) : Sent (trace ++ events) sample := by
  obtain ⟨original, member, same⟩ := sent
  exact ⟨original, List.mem_append_left _ member, same⟩

theorem CalledAfter.append {event : TelemetryEvent Callback} (more : List (TelemetryEvent Callback))
    (after : CalledAfter trace event) : CalledAfter (trace ++ more) event := by
  cases event with
  | called => exact Sent.append after more
  | sent | subscribed => trivial

theorem Echoed.moves (spoken : Spoken own plugin ends) (echoed : Echoed first trace ends)
    (moves : ends.Moves .lossy (TelemetryImpl.party own this)
      (TelemetryRoboticVehicleImpl.party Callback) after events) :
    Echoed first (trace ++ events) after := by
  have kept : ∀ sample ∈ ends.first.samples, sample ∈ first.samples ∨ Sent (trace ++ events) sample :=
    fun sample member => (echoed.values sample member).imp id (·.append events)
  have waiting : ∀ call ∈ ends.toFirst, ∀ sample, TelemetryImpl.heard call = some sample →
      Sent (trace ++ events) sample :=
    fun call member sample present => (echoed.toFirst call member sample present).append events
  cases moves with
  | first acted =>
    cases TelemetryImpl.acted acted with
    | subscribed same =>
      refine ⟨waiting, ?_, echoed.called.append_singleton trivial⟩
      rw [same]
      exact kept
    | other mine => exact ⟨waiting, kept, by simpa using echoed.called⟩
  | second acted =>
    obtain ⟨rfl, told⟩ := TelemetryRoboticVehicleImpl.acted acted
    cases told with
    | silent => exact ⟨by simpa using waiting, kept, by simpa using echoed.called⟩
    | @sample call original utters =>
      refine ⟨?_, kept, echoed.called.append_singleton trivial⟩
      intro other member sample present
      rcases List.mem_append.mp member with member | member
      · exact waiting other member sample present
      · rw [List.mem_singleton.mp member, utters.heard] at present
        exact ⟨original, by simp, Option.some.inj present⟩
    | @other call mine unheard =>
      refine ⟨?_, kept, by simpa using echoed.called⟩
      intro other member sample present
      rcases List.mem_append.mp member with member | member
      · exact waiting other member sample present
      · rw [List.mem_singleton.mp member, unheard] at present
        cases present
  | @toFirst call choice _ _ _ _ takes heard =>
    obtain ⟨member, rfl⟩ := takes
    obtain ⟨rfl, hears⟩ := TelemetryImpl.hears (spoken.toFirst call member).known heard
    cases hears with
    | nothing => exact ⟨waiting, kept, by simpa using echoed.called⟩
    | @sample sample present =>
      have sent := echoed.toFirst call member sample present
      refine ⟨waiting, ?_, ?_⟩
      · intro other among
        rcases TelemetryValues.mem_samples_put among with rfl | before
        · exact .inr (sent.append _)
        · exact kept other before
      · apply echoed.called.append_all fun more _ after => after.append more
        intro event among
        obtain ⟨callback, _, rfl⟩ := Option.map_eq_some_iff.mp (Option.mem_toList.mp among)
        exact sent
  | toSecond takes heard =>
    cases heard
    exact ⟨by simpa using waiting, kept, by simpa using echoed.called⟩

def Echoing (own : MAVLinkAddress) (plugin : TelemetryRoboticVehicleImpl)
    (first : TelemetryImpl Callback) (trace : List (TelemetryEvent Callback)) (ends : Ends Callback) :
    Prop :=
  Spoken own plugin ends ∧ Echoed first trace ends

private theorem echoing_start : Echoing own plugin first [] ⟨first, plugin, [], []⟩ :=
  ⟨⟨trivial, rfl, by simp, by simp⟩, by simp, fun _ member => .inl member, accounted_nil⟩

theorem Echoing.moves (echoing : Echoing own plugin first trace ends)
    (moves : ends.Moves .lossy (TelemetryImpl.party own this)
      (TelemetryRoboticVehicleImpl.party Callback) after events) :
    Echoing own plugin first (trace ++ events) after :=
  ⟨echoing.1.moves moves, echoing.2.moves echoing.1 moves⟩

/-- On a network that loses, doubles and reorders datagrams, too, the getters return nothing that the
vehicle has not sent, and nobody is called with a sample before it has been sent. -/
theorem telemetry_echoed {ground vehicle : Sender} {node : Library.Side → UdpNode}
    (joined : Joined ground vehicle node)
    {log : List (Taken (Link (Wired (TelemetryImpl Callback) UdpPort)
      (Wired TelemetryRoboticVehicleImpl UdpPort) Packet)
      (LossyAction (TelemetryImpl.Act Callback × (Nat → PackMemory))
        (TelemetryRoboticVehicleImpl.Act × (Nat → PackMemory))
        (Arrival × List Unit × (Nat → PackMemory)) Packet) (TelemetryEvent Callback))}
    {last : Link (Wired (TelemetryImpl Callback) UdpPort)
      (Wired TelemetryRoboticVehicleImpl UdpPort) Packet}
    (run : (Link.lossy (PackCall.codec.wire.party (TelemetryImpl.party ground.ownAddress this))
      (PackCall.codec.wire.party (TelemetryRoboticVehicleImpl.party Callback))).Run
      (udpLink ground vehicle node first ⟨vehicle.ownAddress⟩) log last) :
    let trace := log.flatMap Taken.outputs
    (∀ sample ∈ last.first.state.samples, sample ∈ first.samples ∨ Sent trace sample) ∧
      ∀ before callback sample later, trace = before ++ .called callback sample :: later →
        Sent before sample := by
  intro trace
  obtain ⟨ends, covers, _, echoed⟩ := Wire.Covers.invariant_lossy
    (Echoing ground.ownAddress ⟨vehicle.ownAddress⟩ first)
    (joined.pair.faithful PackCall.codec) Echoing.moves
    (fun echoing => Spoken.fitting joined echoing.1) echoing_start run (joined.covers _ _ _ _)
  refine ⟨?_, ?_⟩
  · rw [covers.first]
    exact echoed.values
  · intro before callback sample later split
    exact echoed.called before _ later split

/-- The same text twice, and a position that is lost. -/
theorem telemetry_echoed_twice :
    let ground : Sender := ⟨⟨1, 0⟩, ⟨2, 0⟩⟩
    let vehicle : Sender := ⟨⟨2, 0⟩, ⟨1, 0⟩⟩
    let subscriber : TelemetryImpl Nat := { textStatusSubscription := some 3 }
    let memory : Nat → PackMemory := fun _ => {}
    let system := Link.lossy
      (PackCall.codec.wire.party (TelemetryImpl.party ground.ownAddress 7))
      (PackCall.codec.wire.party (TelemetryRoboticVehicleImpl.party Nat))
    let start := udpLink ground vehicle sampleNode subscriber ⟨vehicle.ownAddress⟩
    let text : Packet := ⟨⟨"10.0.0.2", 14550⟩, ⟨"10.0.0.1", 14540⟩,
      [253, 3, 0, 0, 0, 2, 0, 205, 0, 0, 1, 72, 105, 99, 110]⟩
    let actions : List (LossyAction (TelemetryImpl.Act Nat × (Nat → PackMemory))
        (TelemetryRoboticVehicleImpl.Act × (Nat → PackMemory))
        (Arrival × List Unit × (Nat → PackMemory)) Packet) :=
      [.second (.sendTextStatus (fun _ => 0) ⟨.warning, [72, 105]⟩, memory),
        .second (.sendLocalPositionNed { systemId := 2, componentId := 1, stampMs := 5 }, memory),
        .toFirst text ({}, [()], memory), .toFirst text ({}, [()], memory)]
    let trace := (system.log start actions).flatMap Taken.outputs
    let last := system.last start actions
    (∀ sample ∈ last.first.state.samples, sample ∈ subscriber.samples ∨ Sent trace sample) ∧
      ∀ before callback sample later, trace = before ++ .called callback sample :: later →
        Sent before sample := by
  intro ground vehicle subscriber memory system start text actions trace last
  have possible : (system.exec start actions).isSome = true := by decide +kernel
  exact telemetry_echoed joined_sampleNode (Machine.run_last system start actions possible)

end Telemetry
end PilotingMavsdk
