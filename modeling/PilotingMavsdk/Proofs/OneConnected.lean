import PilotingMavsdk.Proofs.LinkLoss

/-! When `is_connected` tells whether exactly one system is connected. It asks the first system in
the map, which need not be that one, and systems stay in the map when their heartbeats end. -/

namespace PilotingMavsdk
open Library

namespace MavsdkSystems

/-- What the documentation of `is_connected` says, for every order of the map. -/
def Truthful (mavsdk : MavsdkSystems) : Prop :=
  ∀ order : mavsdk.IterationOrder,
    mavsdk.isConnected order = true ↔ ∃! system, mavsdk.connected system = true

def Alone (mavsdk : MavsdkSystems) (system : UInt8) : Prop :=
  ∀ other, (mavsdk.systems other).isSome = true → other = system

def Quiet (mavsdk : MavsdkSystems) : Prop := ∀ system, ¬mavsdk.connected system = true

/-- A heartbeat comes only when its system is the only one, and another message of a system that
is new only then or when no system is connected. -/
def Unambiguous (taken : Step) : Prop :=
  match taken.action with
  | .receiveMessage systemId heartbeat _ =>
    systemId = 0 ∨ taken.before.Alone systemId ∨
      heartbeat = false ∧ ((taken.before.systems systemId).isSome = true ∨ taken.before.Quiet)
  | _ => True

/-- There is an order to go through the map in: that of the ids. -/
def ascending (mavsdk : MavsdkSystems) : mavsdk.IterationOrder where
  items := ((List.finRange UInt8.size).map UInt8.ofFin).filter fun system =>
    (mavsdk.systems system).isSome
  nodup := by
    refine ((List.nodup_finRange _).map ?_).filter _
    intro one other same
    exact congrArg UInt8.toFin same
  complete := by
    intro system
    rw [List.mem_filter]
    refine and_iff_right_of_imp fun _ => ?_
    exact List.mem_map.mpr ⟨system.toFin, List.mem_finRange _, rfl⟩

private theorem discovered_of_connected {mavsdk : MavsdkSystems} {system : UInt8}
    (lively : mavsdk.connected system = true) : (mavsdk.systems system).isSome = true := by
  obtain ⟨impl, present⟩ := present_of_connected lively
  rw [present]
  rfl

private theorem isConnected_iff {mavsdk : MavsdkSystems} (order : mavsdk.IterationOrder) :
    mavsdk.isConnected order = true ↔ order.First fun system => mavsdk.connected system = true := by
  rw [isConnected, Enumeration.First]
  cases order.items with
  | nil => simp
  | cons system rest =>
    simp only [List.head?_cons, Option.mem_some_iff, exists_eq_left']
    rfl

private theorem truthful_iff {mavsdk : MavsdkSystems} :
    mavsdk.Truthful ↔ mavsdk.Quiet ∨ ∃ system, mavsdk.Alone system := by
  simp only [Truthful, isConnected_iff]
  exact Enumeration.first_iff_unique mavsdk.ascending fun _ => discovered_of_connected

private theorem isSome_update (systems : UInt8 → Option SystemImpl) (system : UInt8)
    (impl : SystemImpl)
    (other : UInt8) : (Function.update systems system (some impl) other).isSome = true ↔
      (systems other).isSome = true ∨ other = system := by
  by_cases same : other = system
  · simp [same]
  · simp [same, Function.update_of_ne]

/-- What a watcher that goes off takes from the systems: a connection at most. -/
structure Loses (before after : MavsdkSystems) : Prop where
  discovered : ∀ other, (after.systems other).isSome = (before.systems other).isSome
  connected : ∀ other, after.connected other = true → before.connected other = true

private theorem Loses.of_systems {before after : MavsdkSystems}
    (systems : after.systems = before.systems) : Loses before after := by
  constructor
  · intro other
    rw [systems]
  · intro other lively
    rwa [MavsdkSystems.connected, systems] at lively

private theorem loses_timedOut (mavsdk : MavsdkSystems) (system : UInt8) :
    Loses mavsdk (mavsdk.heartbeatsTimedOut system).1 := by
  simp only [heartbeatsTimedOut, setDisconnected]
  split
  · exact .of_systems rfl
  next impl present =>
    constructor
    · intro other
      rw [Bool.eq_iff_iff, isSome_update]
      refine or_iff_left_of_imp ?_
      rintro rfl
      rw [present]
      rfl
    · intro other lively
      rw [connected_update mavsdk _ rfl] at lively
      split at lively
      · cases lively
      · exact lively

private theorem several_timedOut (mavsdk : MavsdkSystems) (system : UInt8) :
    (mavsdk.heartbeatsTimedOut system).1.isSingleSystem = mavsdk.isSingleSystem := by
  simp only [heartbeatsTimedOut, setDisconnected]
  split <;> rfl

private theorem Loses.truthful {before after : MavsdkSystems} (loses : Loses before after)
    (truthful : before.Truthful) : after.Truthful := by
  rw [truthful_iff] at truthful ⊢
  rcases truthful with quiet | ⟨only, alone⟩
  · exact .inl fun system lively => quiet system (loses.connected system lively)
  · refine .inr ⟨only, ?_⟩
    intro other present
    rw [loses.discovered] at present
    exact alone other present

structure Hears (systemId : UInt8) (heartbeat : Bool) (before after : MavsdkSystems) : Prop where
  discovered : ∀ other, (after.systems other).isSome = true ↔
    (before.systems other).isSome = true ∨ other = systemId
  connected : ∀ other, after.connected other = true ↔
    before.connected other = true ∨ other = systemId ∧ heartbeat = true
  several : after.isSingleSystem = before.isSingleSystem

private theorem hears_connect {system : UInt8} (sysid : UInt8) (cookie : Cookie)
    {mavsdk : MavsdkSystems} (present : (mavsdk.systems system).isSome = true) :
    Hears system true mavsdk (mavsdk.setConnected system sysid cookie).1 := by
  obtain ⟨impl, found⟩ := Option.isSome_iff_exists.mp present
  have updated (impl : SystemImpl) (lively : impl.connected = true) (after : MavsdkSystems)
      (systems : after.systems = Function.update mavsdk.systems system (some impl))
      (several : after.isSingleSystem = mavsdk.isSingleSystem) :
      Hears system true mavsdk after := by
    refine ⟨?_, ?_, several⟩
    · intro other
      rw [systems]
      exact isSome_update _ _ _ other
    · intro other
      rw [connected_update mavsdk impl systems]
      by_cases same : other = system
      · simp [same, lively]
      · simp [same]
  have unchanged (lively : impl.connected = true) (after : MavsdkSystems)
      (systems : after.systems = mavsdk.systems)
      (several : after.isSingleSystem = mavsdk.isSingleSystem) :
      Hears system true mavsdk after := by
    refine updated impl lively after ?_ several
    rw [systems, ← found, Function.update_eq_self]
  simp only [setConnected, found]
  split
  · split
    · exact updated _ rfl _ rfl rfl
    · exact updated _ rfl _ rfl rfl
  next lively =>
    have already : impl.connected = true := by simpa using lively
    split
    · exact unchanged already _ rfl rfl
    · exact unchanged already _ rfl rfl

private theorem hears_make (systemId : UInt8) (cookie : Cookie) {mavsdk : MavsdkSystems}
    (several : mavsdk.isSingleSystem = false) (absent : mavsdk.systems systemId = none) :
    Hears systemId false mavsdk (mavsdk.makeSystemWithComponent systemId cookie).1 := by
  simp only [makeSystemWithComponent, several, Bool.false_eq_true, if_false]
  refine ⟨?_, ?_, several.symm⟩
  · exact isSome_update _ _ _
  · intro other
    rw [connected_update mavsdk _ rfl]
    by_cases same : other = systemId
    · simp [same, connected, absent]
    · simp [same]

private theorem hears_receive {systemId : UInt8} (real : systemId ≠ 0) (heartbeat : Bool)
    (cookie : Cookie) {mavsdk : MavsdkSystems} (several : mavsdk.isSingleSystem = false) :
    Hears systemId heartbeat mavsdk (mavsdk.receiveMessage systemId heartbeat cookie).1 := by
  simp only [receiveMessage, real, if_false]
  generalize created : (if (mavsdk.systems systemId).isSome then (mavsdk, [])
    else mavsdk.makeSystemWithComponent systemId cookie) = made
  have first : Hears systemId false mavsdk made.1 := by
    subst created
    split
    next present =>
      refine ⟨?_, by simp, rfl⟩
      intro other
      refine (or_iff_left_of_imp ?_).symm
      rintro rfl
      exact present
    next absent => exact hears_make systemId cookie several (by simpa using absent)
  cases heartbeat with
  | false => exact first
  | true =>
    have second := @hears_connect systemId systemId cookie made.1
      ((first.discovered systemId).mpr (.inr rfl))
    simp only [if_true]
    refine ⟨?_, ?_, second.several.trans first.several⟩
    · intro other
      rw [second.discovered, first.discovered, or_assoc, or_self]
    · intro other
      rw [second.connected, first.connected]
      simp

private theorem Hears.truthful_iff {systemId : UInt8} {heartbeat : Bool}
    {before after : MavsdkSystems}
    (hears : Hears systemId heartbeat before after) (truthful : before.Truthful) :
    after.Truthful ↔ before.Alone systemId ∨
      heartbeat = false ∧ ((before.systems systemId).isSome = true ∨ before.Quiet) := by
  have known : (after.systems systemId).isSome = true := (hears.discovered systemId).mpr (.inr rfl)
  have alone : (∃ system, after.Alone system) ↔ before.Alone systemId := by
    constructor
    · intro ⟨system, only⟩ other present
      rw [only other ((hears.discovered other).mpr (.inl present)), only systemId known]
    · intro only
      refine ⟨systemId, ?_⟩
      intro other present
      rcases (hears.discovered other).mp present with before | same
      · exact only other before
      · exact same
  cases heartbeat with
  | true =>
    have lively : after.connected systemId = true :=
      (hears.connected systemId).mpr (.inr ⟨rfl, rfl⟩)
    rw [MavsdkSystems.truthful_iff, alone]
    constructor
    · rintro (quiet | only)
      · exact absurd lively (quiet systemId)
      · exact .inl only
    · rintro (only | ⟨different, _⟩)
      · exact .inr only
      · cases different
  | false =>
    have quiet : after.Quiet ↔ before.Quiet := by simp [Quiet, hears.connected]
    by_cases present : (before.systems systemId).isSome = true
    · refine iff_of_true ?_ (.inr ⟨rfl, .inl present⟩)
      refine Loses.truthful ⟨?_, ?_⟩ truthful
      · intro other
        rw [Bool.eq_iff_iff, hears.discovered]
        refine or_iff_left_of_imp ?_
        rintro rfl
        exact present
      · intro other lively
        simpa using (hears.connected other).mp lively
    · rw [MavsdkSystems.truthful_iff, alone, quiet]
      constructor
      · rintro (quiet | only)
        · exact .inr ⟨rfl, .inr quiet⟩
        · exact .inl only
      · rintro (only | ⟨_, known | quiet⟩)
        · exact .inr only
        · exact absurd known present
        · exact .inl quiet

structure Answering (mavsdk : MavsdkSystems) : Prop where
  truthful : mavsdk.Truthful
  several : mavsdk.isSingleSystem = false

private theorem step_truthful {taken : Step} (legal : machine.Legal taken)
    (answering : taken.before.Answering) :
    (taken.after.Truthful ↔ Unambiguous taken) ∧ taken.after.isSingleSystem = false := by
  obtain ⟨before, action, after, notifications⟩ := taken
  obtain ⟨truthful, several⟩ := answering
  have step : machine.step before action = some (after, notifications) := legal
  cases stepped step with
  | setupUdpConnection =>
    exact ⟨iff_of_true ((Loses.of_systems rfl).truthful truthful) trivial, rfl⟩
  | @receiveMessage systemId heartbeat cookie =>
    by_cases real : systemId = 0
    · have ignored : (before.receiveMessage systemId heartbeat cookie).1 = before := by
        simp only [receiveMessage, real, if_true]
      rw [ignored]
      exact ⟨iff_of_true truthful (.inl real), several⟩
    · have hears := hears_receive real heartbeat cookie several
      refine ⟨?_, hears.several.trans several⟩
      rw [hears.truthful_iff truthful]
      exact (or_iff_right real).symm
  | tick | select =>
    exact ⟨iff_of_true ((Loses.of_systems rfl).truthful truthful) trivial, several⟩
  | @heartbeatsTimedOut system =>
    have loses := loses_timedOut { before with selected := none } system
    exact ⟨iff_of_true (loses.truthful truthful) trivial, (several_timedOut _ system).trans several⟩

/-- `is_connected` is right after each step of a run, whatever the order of the map, if and only if
no step is ambiguous. -/
theorem all_truthful_iff {log : List Step} {last : MavsdkSystems}
    (run : machine.Run {} log last) :
    (∀ taken ∈ log, taken.after.Truthful) ↔ ∀ taken ∈ log, Unambiguous taken := by
  have start : Answering {} :=
    ⟨truthful_iff.mpr (.inl fun _ lively => nomatch lively), rfl⟩
  refine run.all_iff ?_ ?_ start
  · exact fun taken legal answering => (step_truthful legal answering).1
  · exact fun taken legal answering truthful =>
      ⟨truthful, (step_truthful legal answering).2⟩

/-- A vehicle is connected, and then it is heard again, or a second one is. -/
theorem all_truthful_two_heartbeats :
    let log (second : UInt8) :=
      machine.log {} [.receiveMessage 1 true 16, .receiveMessage second true 32]
    (∀ taken ∈ log 1 ++ log 2, taken.after.connected 1 = true) ∧
      ((∀ taken ∈ log 1, taken.after.Truthful) ↔ ∀ taken ∈ log 1, Unambiguous taken) ∧
      ((∀ taken ∈ log 2, taken.after.Truthful) ↔ ∀ taken ∈ log 2, Unambiguous taken) := by
  intro log
  obtain ⟨again, ran⟩ := machine.run_log {}
    [.receiveMessage 1 true 16, .receiveMessage 1 true 32] (by decide)
  obtain ⟨other, ran'⟩ := machine.run_log {}
    [.receiveMessage 1 true 16, .receiveMessage 2 true 32] (by decide)
  exact ⟨by decide, all_truthful_iff ran, all_truthful_iff ran'⟩

/-- Two vehicles send heartbeats: whichever is asked says that exactly one is connected. -/
theorem two_vehicles_connected : ¬∀ {log : List Step} {last : MavsdkSystems},
    machine.Run {} log last → last.Truthful := by
  intro all
  have run := machine.run_last {} [.receiveMessage 1 true 16, .receiveMessage 2 true 32] (by decide)
  rcases truthful_iff.mp (all run) with quiet | ⟨only, alone⟩
  · exact quiet 1 (by decide)
  · have first := alone 1 (by decide)
    have second := alone 2 (by decide)
    exact absurd (first.trans second.symm) (by decide)

end MavsdkSystems
end PilotingMavsdk
