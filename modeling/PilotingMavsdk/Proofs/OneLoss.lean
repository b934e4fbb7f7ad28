import PilotingMavsdk.Proofs.FaultFreeTransfers
import PilotingMavsdk.Proofs.LossStages
import PilotingMavsdk.Proofs.UnfitLists

/-! A download that loses one message. A READ that is lost comes again after the vehicle has given
up; after a lost ITEM it depends on what the vehicle does first in one millisecond. -/

namespace PilotingMavsdk
open Library TimedDownload

namespace TimedPlan
variable {plan : TimedPlan} {stage : Stage}

/-- The vehicle has given up: a READ was lost, or its timer came before the repeated READ. -/
def GivenUp (plan : TimedPlan) (log : List (Taken TimedDownload Orders TimedDownload.Told)) :
    Prop :=
  (∃ ack, .inr (.uploadCallback .timeout ack) ∈ log.flatMap Taken.outputs) ∧
    (¬plan.loss.IsItem ∨ ∃ taken ∈ log, taken.before.Tied ∧ ¬MessagesFirst taken.action)

/-- The run is on the way, and messages came first wherever it mattered. -/
structure Along (plan : TimedPlan) (first : Stage)
    (log : List (Taken TimedDownload Orders TimedDownload.Told)) (last : TimedDownload)
    (stage : Stage) : Prop where
  there : plan.At stage last
  told : plan.told stage = plan.told first ++ log.flatMap Taken.outputs
  limit : plan.limit stage ≤ plan.limit first
  ties : ∀ taken ∈ log, taken.before.Tied → MessagesFirst taken.action

theorem At.run {start last : TimedDownload}
    {log : List (Taken TimedDownload Orders TimedDownload.Told)}
    (run : (machine plan.latency).Run start log last) (here : plan.At stage start) :
    (∃ next, plan.Along stage log last next) ∨ plan.GivenUp log := by
  induction run with
  | nil => exact .inl ⟨stage, here, by simp, Nat.le_refl _, by simp⟩
  | @snoc log taken run legal ih =>
    obtain ⟨before, action, after, outputs⟩ := taken
    simp only [Machine.Legal, machine, Option.some.injEq] at legal
    have afterwards : (before.instant plan.latency action).1 = after := by rw [legal]
    have during : (before.instant plan.latency action).2 = outputs := by rw [legal]
    rcases ih with ⟨middle, along⟩ | ⟨⟨ack, member⟩, reason⟩
    · have proceeds : plan.Proceeds middle before action := along.there.proceeds
      simp only [Proceeds, afterwards, during] at proceeds
      rcases proceeds with ⟨next, there, told, limit, tie⟩ | ⟨⟨ack, member⟩, reason⟩
      · left
        refine ⟨next, there, ?_, Nat.le_trans limit along.limit, ?_⟩
        · rw [told, along.told, List.flatMap_append, List.append_assoc]
          simp
        · intro taken member
          rcases List.mem_append.mp member with earlier | latest
          · exact along.ties taken earlier
          · rw [List.mem_singleton] at latest
            subst latest
            exact tie
      · right
        rw [GivenUp, List.flatMap_append]
        refine ⟨⟨ack, List.mem_append_right _ (by simpa using member)⟩, ?_⟩
        rcases reason with isRead | tied
        · exact .inl isRead
        · exact .inr ⟨_, List.mem_append_right _ (List.mem_singleton.mpr rfl), tied⟩
    · right
      refine ⟨⟨ack, by rw [List.flatMap_append]; exact List.mem_append_left _ member⟩, ?_⟩
      rcases reason with isRead | ⟨taken, member, tied⟩
      · exact .inl isRead
      · exact .inr ⟨taken, List.mem_append_left _ member, tied⟩

private theorem now_of_run {latency : Nat} {start last : TimedDownload}
    {log : List (Taken TimedDownload Orders TimedDownload.Told)}
    (run : (machine latency).Run start log last) : last.now = start.now + log.length := by
  induction run with
  | nil => rfl
  | @snoc log taken run legal ih =>
    obtain ⟨before, action, after, outputs⟩ := taken
    simp only [Machine.Legal, machine, Option.some.injEq] at legal
    have afterwards : (before.instant latency action).1 = after := by rw [legal]
    rw [← afterwards, List.length_append, List.length_singleton, ← Nat.add_assoc, ← ih]
    rfl

private theorem At.now_le (here : plan.At stage system) :
    stage = .finished ∨ system.now ≤ plan.limit stage := by
  have lasts := here.lasts
  have positive := plan.positive
  have short := plan.short
  cases stage with
  | finished => exact .inl rfl
  | created | requested | accepted | counted | reading | sending | acknowledged | readLost
  | itemLost | rereading =>
    right
    simp only [Lasts] at lasts
    simp only [limit, since, rank]
    omega

theorem At.decided {start last : TimedDownload}
    {log : List (Taken TimedDownload Orders TimedDownload.Told)}
    (run : (machine plan.latency).Run start log last) (here : plan.At .created start)
    (long : plan.limit .created < log.length) :
    (log.flatMap Taken.outputs = [plan.groundTold, vehicleTold] ∧
      (last.loss = none → plan.loss.IsItem) ∧
      ∀ taken ∈ log, taken.before.Tied → MessagesFirst taken.action) ∨ plan.GivenUp log := by
  rcases here.run run with ⟨stage, along⟩ | givenUp
  · left
    have late := now_of_run run
    have bound := along.limit
    rcases along.there.now_le with rfl | early
    · refine ⟨?_, ?_, along.ties⟩
      · have told := along.told
        rw [show plan.told .created = [] from rfl, List.nil_append] at told
        exact told.symm
      · intro lost
        rcases along.there.loss with pending | ⟨_, isItem⟩
        · rw [lost] at pending
          cases pending
        · exact isItem
    · omega
  · exact .inr givenUp

private theorem GivenUp.not_success {log : List (Taken TimedDownload Orders TimedDownload.Told)}
    (givenUp : plan.GivenUp log) (list : InspectionBase.WaypointList) :
    log.flatMap Taken.outputs ≠
      [.inl (.success, list), .inr (.uploadCallback .success .accepted)] := by
  obtain ⟨⟨ack, member⟩, _⟩ := givenUp
  intro same
  rw [same] at member
  simp at member

end TimedPlan

namespace TimedDownload

def plan (groundStation vehicle : Sender) (list : InspectionBase.WaypointList) (latency : Nat)
    (loss : Loss) (inhabited : list.items ≠ []) (fits : list.items.length < 65536)
    (positive : 0 < latency) (short : 2 * latency < 500) : TimedPlan where
  groundStation := groundStation
  vehicle := vehicle
  list := toIntList list
  latency := latency
  loss := loss
  inhabited := toIntList_ne_nil inhabited
  fits := by rwa [length_toIntList]
  indexed := indexed_toIntList (Nat.le_of_lt fits)
  positive := positive
  short := short

section
variable {groundStation vehicle : Sender} {list : InspectionBase.WaypointList} {latency : Nat}
  {loss : Loss} {inhabited : list.items ≠ []} {fits : list.items.length < 65536}
  {positive : 0 < latency} {short : 2 * latency < 500}

private theorem groundTold_plan :
    (plan groundStation vehicle list latency loss inhabited fits positive short).groundTold =
      .inl (.success, list) := by
  simp only [TimedPlan.groundTold, plan, map_toIntList]
  rfl

private theorem at_initial (plugin : InspectionRoboticVehicleImpl) :
    (plan groundStation vehicle list latency loss inhabited fits positive short).At .created
      (initial groundStation vehicle plugin list loss) := by
  refine ⟨⟨rfl, rfl, rfl⟩, ?_, rfl, rfl, rfl, .inl rfl⟩
  refine ⟨rfl, ?_, rfl, rfl, rfl, rfl, rfl⟩
  simp [initial, TimedVehicle.holding, InspectionRoboticVehicleImpl.init]

end

def ticks (latency : Nat) (orders : Orders) (count : Nat) (system : TimedDownload) :
    TimedDownload :=
  (fun system => (system.instant latency orders).1)^[count] system

private theorem run_ticks (latency : Nat) (orders : Orders) (count : Nat) (start : TimedDownload) :
    ∃ log, (machine latency).Run start log (ticks latency orders count start) ∧
      log.length = count ∧ ∀ taken ∈ log, taken.action = orders := by
  induction count with
  | zero => exact ⟨[], .nil, rfl, by simp⟩
  | succ count ih =>
    obtain ⟨log, run, length, same⟩ := ih
    let before := ticks latency orders count start
    let taken : Taken TimedDownload Orders TimedDownload.Told :=
      ⟨before, orders, (before.instant latency orders).1, (before.instant latency orders).2⟩
    refine ⟨log ++ [taken], ?_, by simp [length], ?_⟩
    · rw [ticks, Function.iterate_succ_apply']
      have legal : (machine latency).Legal taken := rfl
      exact .snoc run legal
    · intro other member
      rcases List.mem_append.mp member with earlier | latest
      · exact same other earlier
      · rw [List.mem_singleton.mp latest]

private theorem transmit_none (arrival : Nat) (messages : List Message) :
    (transmit arrival messages none).2 = none := by
  induction messages with
  | nil => rfl
  | cons message messages ih => simpa [transmit] using ih

private theorem loss_ticks {latency : Nat} {orders : Orders} {system : TimedDownload}
    (lost : system.loss = none) (count : Nat) :
    (ticks latency orders count system).loss = none := by
  induction count with
  | zero => exact lost
  | succ count ih =>
    rw [ticks, Function.iterate_succ_apply']
    change (TimedDownload.instant latency orders (ticks latency orders count system)).1.loss = none
    simp only [instant, ih, transmit_none]

private theorem run_of_lost {latency : Nat} {orders : Orders} {start : TimedDownload} (count : Nat)
    (lost : (ticks latency orders count start).loss = none) (more : Nat) :
    ∃ log last, (machine latency).Run start log last ∧ more ≤ log.length ∧ last.loss = none ∧
      ∀ taken ∈ log, taken.action = orders := by
  obtain ⟨first, run, _, same⟩ := run_ticks latency orders count start
  obtain ⟨rest, further, length, also⟩ :=
    run_ticks latency orders more (ticks latency orders count start)
  refine ⟨first ++ rest, _, run.append further, ?_, loss_ticks lost more, ?_⟩
  · simp [length]
  · intro taken member
    rcases List.mem_append.mp member with earlier | later
    · exact same taken earlier
    · exact also taken later

def inTurn : Orders :=
  ⟨⟨[.messages, .timers, .work], List.Perm.refl _⟩, ⟨[.messages, .timers, .work], List.Perm.refl _⟩⟩

private theorem messagesFirst_inTurn : MessagesFirst inTurn := by
  simp [MessagesFirst, inTurn]

private theorem one_loss_decided {groundStation vehicle : Sender}
    {plugin : InspectionRoboticVehicleImpl}
    {list : InspectionBase.WaypointList} {latency : Nat} {loss : Loss}
    (several : 2 ≤ list.items.length) (positive : 0 < latency) (short : 2 * latency < 500)
    {log : List (Taken TimedDownload Orders TimedDownload.Told)} {last : TimedDownload}
    (run : (machine latency).Run (initial groundStation vehicle plugin list loss) log last)
    (long : 600 * (4 * list.items.length + 9) < log.length) (lost : last.loss = none) :
    (log.flatMap Taken.outputs =
        [.inl (.success, list), .inr (.uploadCallback .success .accepted)] ∧
      loss.IsItem ∧ ∀ taken ∈ log, taken.before.Tied → MessagesFirst taken.action) ∨
    (log.flatMap Taken.outputs ≠
        [.inl (.success, list), .inr (.uploadCallback .success .accepted)] ∧
      (¬loss.IsItem ∨ ∃ taken ∈ log, taken.before.Tied ∧ ¬MessagesFirst taken.action)) := by
  have inhabited : list.items ≠ [] := by
    rintro empty
    simp [empty] at several
  have fits : list.items.length < 65536 := by
    by_contra unfit
    rw [loss_of_run (Nat.le_of_not_lt unfit) run] at lost
    cases lost
  let plan := plan groundStation vehicle list latency loss inhabited fits positive short
  have ended : plan.limit .created < log.length := by
    simpa [TimedPlan.limit, TimedPlan.since, TimedPlan.rank, plan, TimedDownload.plan] using long
  rcases TimedPlan.At.decided run (at_initial plugin) ended with ⟨told, isItem, ties⟩ | givenUp
  · rw [groundTold_plan] at told
    exact .inl ⟨told, isItem lost, ties⟩
  · exact .inr ⟨givenUp.not_success list, givenUp.2⟩

/-- Where the texts have room, every message may be carried as it is, and a download survives the
loss if it was an ITEM and, whenever a message reaches the vehicle in the millisecond in which its
timer has expired, the vehicle handles the message first. -/
theorem one_loss_survived_iff (groundStation vehicle : Sender)
    (plugin : InspectionRoboticVehicleImpl) (list : InspectionBase.WaypointList) (latency : Nat)
    (loss : Loss) (several : 2 ≤ list.items.length) (room : list.HasRoom) (positive : 0 < latency)
    (short : 2 * latency < 500) {log : List (Taken TimedDownload Orders TimedDownload.Told)}
    {last : TimedDownload}
    (run : (machine latency).Run (initial groundStation vehicle plugin list loss) log last)
    (long : 600 * (4 * list.items.length + 9) < log.length) (lost : last.loss = none) :
    (∀ taken ∈ log, ∀ entry ∈ taken.after.toVehicle ++ taken.after.toGroundStation,
        entry.2.Legible) ∧
      (log.flatMap Taken.outputs =
          [.inl (.success, list), .inr (.uploadCallback .success .accepted)] ↔
        loss.IsItem ∧ ∀ taken ∈ log, taken.before.Tied → MessagesFirst taken.action) := by
  refine ⟨legible_of_run room run, ?_⟩
  rcases one_loss_decided several positive short run long lost with
    ⟨told, survived⟩ | ⟨failed, reason⟩
  · exact ⟨fun _ => survived, fun _ => told⟩
  · refine ⟨fun told => absurd told failed, ?_⟩
    rintro ⟨isItem, ties⟩
    rcases reason with isRead | ⟨taken, member, tied, late⟩
    · exact absurd isItem isRead
    · exact absurd (ties taken member tied) late

def lostList : InspectionBase.WaypointList :=
  ⟨⟨"tank 4", 7⟩, [{ taskUuid := "hover", command := 1 }, { taskUuid := "touch", command := 2 }]⟩

/-- The last ITEM of two is lost, and messages always come first. -/
theorem one_loss_survived_iff_item :
    ∃ log last, (machine 1).Run (initial ⟨⟨1, 0⟩, ⟨2, 0⟩⟩ ⟨⟨2, 0⟩, ⟨1, 0⟩⟩ { transfer := true }
        lostList (.item ⟨{ taskUuid := "touch", command := 2 }, 1⟩)) log last ∧ last.loss = none ∧
      log.flatMap Taken.outputs =
        [.inl (.success, lostList), .inr (.uploadCallback .success .accepted)] := by
  obtain ⟨log, last, run, long, lost, same⟩ := run_of_lost 6
    (show (ticks 1 inTurn 6 (initial ⟨⟨1, 0⟩, ⟨2, 0⟩⟩ ⟨⟨2, 0⟩, ⟨1, 0⟩⟩ { transfer := true }
      lostList (.item ⟨{ taskUuid := "touch", command := 2 }, 1⟩))).loss = none by decide) 10201
  have room : lostList.HasRoom := by decide +kernel
  have exact := (one_loss_survived_iff _ _ _ lostList 1 _ (Nat.le_refl 2) room (by decide)
    (by decide) run long lost).2
  refine ⟨log, last, run, lost, exact.mpr ⟨trivial, fun taken member _ => ?_⟩⟩
  rw [same taken member]
  exact messagesFirst_inTurn

/-- The first READ is lost, and the vehicle gives up before it is repeated. -/
theorem read_loss_not_survived :
    ¬∀ (groundStation vehicle : Sender) (plugin : InspectionRoboticVehicleImpl)
      (list : InspectionBase.WaypointList) (latency : Nat) (loss : Loss),
      2 ≤ list.items.length → 0 < latency → 2 * latency < 500 →
        ∃ bound, ∀ log last,
          (machine latency).Run (initial groundStation vehicle plugin list loss) log last →
          bound ≤ log.length → last.loss = none →
          log.flatMap Taken.outputs =
            [.inl (.success, list), .inr (.uploadCallback .success .accepted)] := by
  intro survived
  obtain ⟨bound, told⟩ := survived ⟨⟨1, 0⟩, ⟨2, 0⟩⟩ ⟨⟨2, 0⟩, ⟨1, 0⟩⟩ { transfer := true }
    ⟨{}, [{}, {}]⟩ 1 (.read 0) (Nat.le_refl 2) (by decide) (by decide)
  obtain ⟨log, last, run, long, lost, _⟩ := run_of_lost 3
    (show (ticks 1 inTurn 3 (initial ⟨⟨1, 0⟩, ⟨2, 0⟩⟩ ⟨⟨2, 0⟩, ⟨1, 0⟩⟩ { transfer := true }
      ⟨{}, [{}, {}]⟩ (.read 0))).loss = none by decide) (bound + 10201)
  have success := told log last run (Nat.le_trans (Nat.le_add_right _ _) long) lost
  have enough : 600 * (4 * 2 + 9) < log.length := by omega
  have several : 2 ≤ (⟨{}, [{}, {}]⟩ : InspectionBase.WaypointList).items.length := Nat.le_refl 2
  rcases one_loss_decided several (by decide) (by decide) run enough lost with
    ⟨_, isItem, _⟩ | ⟨failed, _⟩
  · exact isItem
  · exact failed success

end TimedDownload
end PilotingMavsdk
