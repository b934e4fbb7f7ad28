import PilotingMavsdk.ComponentDiscovery

/-! How often a component is announced to a callback that is registered while components are being
added. A registration between the insertion of an id and its notification sees the id, and the
notification sees the callback. -/

namespace PilotingMavsdk
open Library

namespace Announcement

def isEnqueuedFor (componentId : UInt8) : Announcement → Bool
  | .enqueued other _ => other = componentId
  | .dropped _ _ => false

end Announcement

namespace Components

abbrev Step := Taken Components ComponentsAction Announcement

def Registers (taken : Step) : Prop :=
  match taken.action with
  | .registerComponentDiscoveredCallback _ _ _ => True
  | _ => False

instance (taken : Step) : Decidable (Registers taken) :=
  match same : taken.action with
  | .addNewComponent _ | .notify _ => .isFalse (by simp [Registers, same])
  | .registerComponentDiscoveredCallback _ _ _ => .isTrue (by simp [Registers, same])

/-- How often the callback has been enqueued for this component. -/
def announced (componentId : UInt8) (log : List Step) : Nat :=
  (log.flatMap Taken.outputs).countP (Announcement.isEnqueuedFor componentId)

/-- What a notification of this component finds in the queue of user callbacks. -/
def notice (componentId : UInt8) (taken : Step) : Option Nat :=
  match taken.action with
  | .notify callbackSize =>
    if taken.before.inserted = some componentId then some callbackSize else none
  | _ => none

def notices (componentId : UInt8) (log : List Step) : List Nat :=
  log.filterMap (notice componentId)

/-- Each id that is added, and is not zero, is announced once. -/
def AnnouncedOnce (log : List Step) : Prop :=
  ∀ taken ∈ log, ∀ componentId, taken.action = .addNewComponent componentId → componentId ≠ 0 →
    announced componentId log = 1

/-- Each call finds room in the queue, except that one of the two calls for a component whose
adding the registration interrupts does not. -/
structure Fits (callbackSizes : UInt8 → Nat) (registration : Step) (later : List Step) : Prop where
  replayed : ∀ componentId ∈ registration.before.components,
    registration.before.inserted ≠ some componentId → callbackSizes componentId ≠ 100
  notified : ∀ componentId, registration.before.inserted ≠ some componentId →
    ∀ callbackSize ∈ notices componentId later, callbackSize ≠ 100
  interrupted : ∀ componentId, registration.before.inserted = some componentId →
    ∀ callbackSize ∈ notices componentId later,
      (callbackSize = 100 ↔ callbackSizes componentId ≠ 100)

inductive Stepped (state : Components) :
    ComponentsAction → Components → List Announcement → Prop where
  | known {componentId : UInt8} (known : componentId = 0 ∨ componentId ∈ state.components) :
      Stepped state (.addNewComponent componentId) state []
  | addNewComponent {componentId : UInt8} (free : state.inserted = none) (real : componentId ≠ 0)
      (unknown : componentId ∉ state.components) :
      Stepped state (.addNewComponent componentId)
        { state with
          components := state.components ++ [componentId]
          inserted := some componentId } []
  | notify {componentId : UInt8} {callbackSize : Nat} (inserted : state.inserted = some componentId) :
      Stepped state (.notify callbackSize) { state with inserted := none }
        (if state.componentDiscoveredCallback then callUserCallback componentId callbackSize else [])
  | registerComponentDiscoveredCallback {callback : Bool} {order : List UInt8}
      {callbackSizes : UInt8 → Nat} (permuted : order.Perm state.components) :
      Stepped state (.registerComponentDiscoveredCallback callback order callbackSizes)
        { state with componentDiscoveredCallback := callback }
        (if callback then
          order.flatMap fun componentId => callUserCallback componentId (callbackSizes componentId)
        else [])

theorem stepped {before after : Components} {action : ComponentsAction}
    {outputs : List Announcement} (step : machine.step before action = some (after, outputs)) :
    Stepped before action after outputs := by
  simp only [machine] at step
  cases action with
  | addNewComponent componentId =>
    simp only at step
    split at step
    · cases step
    next free =>
      split at step
      next known => cases step; exact .known known
      next fresh =>
        obtain ⟨real, unknown⟩ := not_or.mp fresh
        cases step
        exact .addNewComponent free real unknown
  | notify callbackSize =>
    simp only at step
    split at step
    · cases step
    next componentId inserted => cases step; exact .notify inserted
  | registerComponentDiscoveredCallback callback order callbackSizes =>
    simp only at step
    split at step
    next permuted => cases step; exact .registerComponentDiscoveredCallback permuted
    · cases step

structure Sound (state : Components) : Prop where
  nodup : state.components.Nodup
  pending : ∀ componentId, state.inserted = some componentId → componentId ∈ state.components
  real : 0 ∉ state.components

/-- The component is known and has been announced to whoever was there. -/
def Settled (state : Components) (componentId : UInt8) : Prop :=
  componentId ∈ state.components ∧ state.inserted ≠ some componentId

def roomy (callbackSize : Nat) : Bool := callbackSize ≠ 100

private theorem countP_callUserCallback (componentId other : UInt8) (callbackSize : Nat) :
    (callUserCallback other callbackSize).countP (Announcement.isEnqueuedFor componentId) =
      if other = componentId ∧ callbackSize ≠ 100 then 1 else 0 := by
  rw [callUserCallback]
  split
  next full => simp [Announcement.isEnqueuedFor, full]
  next room => simp [Announcement.isEnqueuedFor, room, List.countP_singleton]

/-- What a step says of one component. -/
structure Tells (componentId : UInt8) (taken : Step) : Prop where
  sound : taken.after.Sound
  callback : taken.after.componentDiscoveredCallback = taken.before.componentDiscoveredCallback
  count : taken.outputs.countP (Announcement.isEnqueuedFor componentId) =
    if taken.before.componentDiscoveredCallback then
      (notice componentId taken).toList.countP roomy else 0
  settled : (notice componentId taken = none ∧
      (taken.after.Settled componentId ↔ taken.before.Settled componentId)) ∨
    (∃ callbackSize, notice componentId taken = some callbackSize) ∧
      ¬taken.before.Settled componentId ∧ taken.after.Settled componentId

theorem tells {taken : Step} (legal : machine.Legal taken) (sound : taken.before.Sound)
    (other : ¬Registers taken) (componentId : UInt8) : Tells componentId taken := by
  obtain ⟨before, action, after, outputs⟩ := taken
  have step : machine.step before action = some (after, outputs) := legal
  cases stepped step with
  | known => exact ⟨sound, rfl, by simp [notice], .inl ⟨rfl, Iff.rfl⟩⟩
  | @addNewComponent added free real unknown =>
    refine ⟨⟨?_, ?_, ?_⟩, rfl, by simp [notice], .inl ⟨rfl, ?_⟩⟩
    · exact List.nodup_append.mpr ⟨sound.nodup, by simp, by
        intro one member two single same
        rw [List.mem_singleton.mp single] at same
        exact unknown (same ▸ member)⟩
    · intro one same
      rw [← Option.some_inj.mp same]
      exact List.mem_append_right _ List.mem_cons_self
    · rw [List.mem_append, List.mem_singleton, not_or]
      exact ⟨sound.real, fun same => real same.symm⟩
    · simp only [Settled, free, List.mem_append, List.mem_singleton]
      constructor
      · rintro ⟨member | rfl, different⟩
        · exact ⟨member, nofun⟩
        · exact absurd rfl different
      · rintro ⟨member, _⟩
        refine ⟨.inl member, ?_⟩
        intro same
        cases same
        exact unknown member
  | @notify pending callbackSize inserted =>
    refine ⟨⟨sound.nodup, nofun, sound.real⟩, rfl, ?_, ?_⟩
    · split
      · rw [countP_callUserCallback]
        by_cases own : pending = componentId <;>
          simp [notice, inserted, own, roomy, List.countP_singleton]
      · rfl
    · by_cases own : pending = componentId
      · subst own
        refine .inr ⟨⟨callbackSize, by simp [notice, inserted]⟩, ?_, ?_⟩
        · exact fun settled => settled.2 inserted
        · exact ⟨sound.pending pending inserted, nofun⟩
      · refine .inl ⟨by simp [notice, inserted, own], ?_⟩
        simp [Settled, inserted, own]
  | registerComponentDiscoveredCallback => exact absurd trivial other

private theorem run_tells {first last : Components} {log : List Step}
    (run : machine.Run first log last)
    (sound : first.Sound) (others : ∀ taken ∈ log, ¬Registers taken) (componentId : UInt8) :
    last.Sound ∧ last.componentDiscoveredCallback = first.componentDiscoveredCallback ∧
      announced componentId log = (if first.componentDiscoveredCallback then
        (notices componentId log).countP roomy else 0) ∧
      (notices componentId log = [] ∧ (last.Settled componentId ↔ first.Settled componentId) ∨
        (∃ callbackSize, notices componentId log = [callbackSize]) ∧
          ¬first.Settled componentId ∧ last.Settled componentId) := by
  induction run with
  | nil => exact ⟨sound, rfl, by simp [announced, notices], .inl ⟨rfl, Iff.rfl⟩⟩
  | @snoc log taken run legal ih =>
    obtain ⟨before, callback, count, settled⟩ :=
      ih fun other member => others other (List.mem_append_left _ member)
    have here := tells legal before (others taken (by simp)) componentId
    have whole : notices componentId (log ++ [taken]) =
        notices componentId log ++ (notice componentId taken).toList := by
      rw [notices, List.filterMap_append]
      cases said : notice componentId taken <;> simp [notices, said]
    refine ⟨here.sound, here.callback.trans callback, ?_, ?_⟩
    · have sum : announced componentId (log ++ [taken]) = announced componentId log +
          taken.outputs.countP (Announcement.isEnqueuedFor componentId) := by
        simp [announced]
      rw [sum, count, here.count, callback, whole, List.countP_append]
      split <;> rfl
    · rw [whole]
      rcases here.settled with ⟨silent, same⟩ | ⟨⟨callbackSize, said⟩, unsettled, done⟩
      · rw [silent, Option.toList_none, List.append_nil]
        exact settled.imp (And.imp_right same.trans) (And.imp_right (And.imp_right same.mpr))
      · rw [said]
        rcases settled with ⟨none, same⟩ | ⟨_, _, already⟩
        · rw [none]
          exact .inr ⟨⟨callbackSize, rfl⟩, mt same.mpr unsettled, done⟩
        · exact absurd already unsettled

private theorem countP_replay {order : List UInt8} (nodup : order.Nodup)
    (callbackSizes : UInt8 → Nat) (componentId : UInt8) :
    (order.flatMap fun other => callUserCallback other (callbackSizes other)).countP
        (Announcement.isEnqueuedFor componentId) =
      if componentId ∈ order ∧ callbackSizes componentId ≠ 100 then 1 else 0 := by
  induction order with
  | nil => simp
  | cons first rest ih =>
    obtain ⟨fresh, others⟩ := List.nodup_cons.mp nodup
    rw [List.flatMap_cons, List.countP_append, ih others, countP_callUserCallback]
    by_cases own : first = componentId
    · subst own
      simp [fresh]
    · have different : componentId ≠ first := fun same => own same.symm
      simp [own, different]

private theorem step_components {taken : Step} (legal : machine.Legal taken) (componentId : UInt8) :
    componentId ∈ taken.after.components ↔ componentId ∈ taken.before.components ∨
      componentId ≠ 0 ∧ taken.action = .addNewComponent componentId := by
  obtain ⟨before, action, after, outputs⟩ := taken
  have step : machine.step before action = some (after, outputs) := legal
  cases stepped step with
  | @known added known =>
    refine (or_iff_left_of_imp ?_).symm
    rintro ⟨real, same⟩
    cases same
    exact known.resolve_left real
  | @addNewComponent added free real unknown =>
    simp only [List.mem_append, List.mem_singleton, ComponentsAction.addNewComponent.injEq]
    refine or_congr_right ⟨?_, fun both => both.2.symm⟩
    rintro rfl
    exact ⟨real, rfl⟩
  | notify | registerComponentDiscoveredCallback => simp

private theorem mem_components_iff {log : List Step} {last : Components}
    (run : machine.Run {} log last)
    (componentId : UInt8) : componentId ∈ last.components ↔ componentId ≠ 0 ∧
      ∃ taken ∈ log, taken.action = .addNewComponent componentId := by
  induction run with
  | nil => simp
  | @snoc log taken run legal ih =>
    rw [step_components legal, ih]
    constructor
    · rintro (⟨real, other, member, same⟩ | ⟨real, same⟩)
      · exact ⟨real, other, List.mem_append_left _ member, same⟩
      · exact ⟨real, taken, by simp, same⟩
    · rintro ⟨real, other, member, same⟩
      rcases List.mem_append.mp member with member | member
      · exact .inl ⟨real, other, member, same⟩
      · rw [List.mem_singleton.mp member] at same
        exact .inr ⟨real, same⟩

/-- The call of `register_component_discovered_callback` and what comes after it, until all that
was added has been notified of. -/
structure Registered (callbackSizes : UInt8 → Nat) (registration : Step) (later : List Step)
    (last : Components) : Prop where
  sound : registration.before.Sound
  replay : ∀ componentId, announced componentId [registration] =
    if componentId ∈ registration.before.components ∧ callbackSizes componentId ≠ 100 then 1 else 0
  rest : ∀ componentId, announced componentId later = (notices componentId later).countP roomy
  settled : ∀ componentId ∈ last.components,
    notices componentId later = [] ∧ registration.before.Settled componentId ∨
      (∃ callbackSize, notices componentId later = [callbackSize]) ∧
        ¬registration.before.Settled componentId
  known : ∀ componentId, ∀ callbackSize ∈ notices componentId later,
    componentId ∈ last.components
  kept : ∀ componentId ∈ registration.before.components, componentId ∈ last.components

theorem sound_start : Sound {} := ⟨List.nodup_nil, nofun, List.not_mem_nil⟩

theorem registered {earlier later : List Step} {registration : Step} {order : List UInt8}
    {callbackSizes : UInt8 → Nat} {last : Components}
    (whole : machine.Run {} (earlier ++ registration :: later) last)
    (registers : registration.action =
      .registerComponentDiscoveredCallback true order callbackSizes)
    (first : ∀ taken ∈ earlier, ¬Registers taken) (others : ∀ taken ∈ later, ¬Registers taken)
    (finished : last.inserted = none) : Registered callbackSizes registration later last := by
  obtain ⟨start, legal, run⟩ := whole.at rfl
  have sound := (run_tells start sound_start first 0).1
  have kept (componentId : UInt8) (known : componentId ∈ registration.before.components) :
      componentId ∈ last.components := by
    obtain ⟨real, taken, member, added⟩ := (mem_components_iff start componentId).mp known
    exact (mem_components_iff whole componentId).mpr
      ⟨real, taken, List.mem_append_left _ member, added⟩
  obtain ⟨before, action, after, outputs⟩ := registration
  subst registers
  have step : machine.step before (.registerComponentDiscoveredCallback true order callbackSizes) =
    some (after, outputs) := legal
  cases stepped step with
  | registerComponentDiscoveredCallback permuted =>
    have next : ({ before with componentDiscoveredCallback := true } : Components).Sound :=
      ⟨sound.nodup, sound.pending, sound.real⟩
    refine ⟨sound, ?_, ?_, ?_, ?_, kept⟩
    · intro componentId
      simp only [announced, List.flatMap_cons, List.flatMap_nil, List.append_nil, if_true]
      rw [countP_replay (permuted.nodup_iff.mpr sound.nodup)]
      simp only [permuted.mem_iff]
    · intro componentId
      have tells := (run_tells run next others componentId).2.2.1
      exact tells.trans (if_pos rfl)
    · intro componentId known
      have settled : last.Settled componentId := ⟨known, by rw [finished]; nofun⟩
      rcases (run_tells run next others componentId).2.2.2 with ⟨none, same⟩ | ⟨some, unsettled, _⟩
      · exact .inl ⟨none, same.mp settled⟩
      · exact .inr ⟨some, unsettled⟩
    · intro componentId callbackSize noticed
      rcases (run_tells run next others componentId).2.2.2 with ⟨none, _⟩ | ⟨_, _, settled⟩
      · rw [none] at noticed
        cases noticed
      · exact settled.1

private theorem Registered.once_iff {callbackSizes : UInt8 → Nat} {registration : Step}
    {later : List Step} {last : Components}
    (registered : Registered callbackSizes registration later last) {componentId : UInt8}
    (known : componentId ∈ last.components) :
    announced componentId [registration] + announced componentId later = 1 ↔
      (componentId ∈ registration.before.components →
        registration.before.inserted ≠ some componentId → callbackSizes componentId ≠ 100) ∧
      (registration.before.inserted ≠ some componentId →
        ∀ callbackSize ∈ notices componentId later, callbackSize ≠ 100) ∧
      (registration.before.inserted = some componentId →
        ∀ callbackSize ∈ notices componentId later,
          (callbackSize = 100 ↔ callbackSizes componentId ≠ 100)) := by
  rw [registered.replay, registered.rest]
  rcases registered.settled componentId known with ⟨none, settled⟩ | ⟨⟨size, single⟩, unsettled⟩
  · obtain ⟨member, different⟩ := settled
    simp [none, member, different]
  · rw [single]
    by_cases pending : registration.before.inserted = some componentId
    · have member := registered.sound.pending componentId pending
      by_cases full : size = 100 <;> by_cases filled : callbackSizes componentId = 100 <;>
        simp [pending, member, roomy, full, filled]
    · have unknown : componentId ∉ registration.before.components :=
        fun member => unsettled ⟨member, pending⟩
      by_cases full : size = 100 <;> simp [pending, unknown, roomy, full]

/-- One registration, at any point among the calls of `add_new_component`: when all have finished,
each component has been announced once if and only if each call has found room in the queue of
user callbacks, but for one of the two calls for a component whose adding was interrupted. -/
theorem announcedOnce_iff {earlier later : List Step} {registration : Step} {order : List UInt8}
    {callbackSizes : UInt8 → Nat} {last : Components}
    (run : machine.Run {} (earlier ++ registration :: later) last)
    (registers : registration.action =
      .registerComponentDiscoveredCallback true order callbackSizes)
    (first : ∀ taken ∈ earlier, ¬Registers taken) (only : ∀ taken ∈ later, ¬Registers taken)
    (finished : last.inserted = none) :
    AnnouncedOnce (earlier ++ registration :: later) ↔ Fits callbackSizes registration later := by
  have counts := registered run registers first only finished
  -- Before the registration there is no callback to be enqueued.
  have total (componentId : UInt8) : announced componentId (earlier ++ registration :: later) =
      announced componentId [registration] + announced componentId later := by
    have before : announced componentId earlier = 0 :=
      (run_tells (run.at rfl).1 sound_start first componentId).2.2.1
    simp only [announced] at before ⊢
    simp [before]
  have once : AnnouncedOnce (earlier ++ registration :: later) ↔ ∀ componentId ∈ last.components,
      announced componentId [registration] + announced componentId later = 1 := by
    constructor
    · intro all componentId known
      obtain ⟨real, taken, member, added⟩ := (mem_components_iff run componentId).mp known
      rw [← total]
      exact all taken member componentId added real
    · intro all taken member componentId added real
      rw [total]
      exact all componentId ((mem_components_iff run componentId).mpr ⟨real, taken, member, added⟩)
  rw [once]
  constructor
  · intro all
    have each {componentId : UInt8} (known : componentId ∈ last.components) :=
      (counts.once_iff known).mp (all componentId known)
    refine ⟨?_, ?_, ?_⟩
    · intro componentId known
      exact (each (counts.kept componentId known)).1 known
    · intro componentId different callbackSize noticed
      exact (each (counts.known _ _ noticed)).2.1 different callbackSize noticed
    · intro componentId interrupted callbackSize noticed
      exact (each (counts.known _ _ noticed)).2.2 interrupted callbackSize noticed
  · intro fits componentId known
    refine (counts.once_iff known).mpr ⟨?_, ?_, ?_⟩
    · exact fits.replayed componentId
    · exact fits.notified componentId
    · exact fits.interrupted componentId

/-- A camera is known when the callback is registered, and an autopilot is found afterwards. -/
theorem announcedOnce_camera_autopilot :
    let log := machine.log {} [.addNewComponent 100, .notify 0,
      .registerComponentDiscoveredCallback true [100] fun _ => 0, .addNewComponent 1, .notify 1]
    ∃ registration, log = log.take 2 ++ registration :: log.drop 3 ∧
      (AnnouncedOnce (log.take 2 ++ registration :: log.drop 3) ↔
        Fits (fun _ => 0) registration (log.drop 3)) := by
  intro log
  have run := machine.run_last {} [.addNewComponent 100, .notify 0,
    .registerComponentDiscoveredCallback true [100] fun _ => 0, .addNewComponent 1, .notify 1]
    (by decide)
  refine ⟨_, rfl, ?_⟩
  exact announcedOnce_iff run rfl (by decide) (by decide) (by decide)

/-- The callback is registered between the insertion of an id and its notification. -/
theorem announced_twice : ¬∀ {earlier later : List Step} {registration : Step}
    {order : List UInt8} {callbackSizes : UInt8 → Nat} {last : Components},
    machine.Run {} (earlier ++ registration :: later) last →
    registration.action = .registerComponentDiscoveredCallback true order callbackSizes →
    (∀ taken ∈ earlier, ¬Registers taken) → (∀ taken ∈ later, ¬Registers taken) →
    last.inserted = none → AnnouncedOnce (earlier ++ registration :: later) := by
  intro all
  let inserted : Step := ⟨{}, .addNewComponent 1, ⟨[1], false, some 1⟩, []⟩
  let log := machine.log {} [.addNewComponent 1,
    .registerComponentDiscoveredCallback true [1] fun _ => 0, .notify 1]
  have run := machine.run_last {} [.addNewComponent 1,
    .registerComponentDiscoveredCallback true [1] fun _ => 0, .notify 1] (by decide)
  have parts : log = [inserted] ++ log[1] :: log.drop 2 := rfl
  have once : AnnouncedOnce ([inserted] ++ log[1] :: log.drop 2) :=
    all run rfl (by decide) (by decide) (by decide)
  have one := once inserted (by simp) 1 rfl (by decide)
  have twice : announced 1 log = 2 := by decide
  rw [← parts, twice] at one
  cases one

end Components
end PilotingMavsdk
