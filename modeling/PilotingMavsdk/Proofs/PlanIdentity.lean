import PilotingMavsdk.GroundStationPlugins
import PilotingMavsdk.Proofs.Legibility

/-! Whose plan a ground station reports. A COUNT of some items stores the identity of its plan, a
COUNT of none ends the download with the identity that was stored before. The vehicle takes the
identity from the COUNT in both cases. -/

namespace PilotingMavsdk
open Library

namespace GroundStation.DownloadWorkItem

section
variable {Header Item Ack : Type} {protocol : ListProtocol Header Item Ack}
  {list : ItemList Header Item}

@[simp] theorem success_callbackAndReset (result : Result) (item : DownloadWorkItem Header Item) :
    .callback (.success, list) ∈ (item.callbackAndReset result).effects ↔
      item.callback = true ∧ result = .success ∧ list = item.list := by
  cases callback : item.callback <;> simp [callbackAndReset, callback, eq_comm]

@[simp] theorem success_sending (environment : Environment) (message : Message)
    (failed sent : After Header Item) :
    .callback (.success, list) ∈ (Outcome.sending environment message failed sent).effects ↔
      if environment.sent then .callback (.success, list) ∈ sent.effects
      else .callback (.success, list) ∈ failed.effects := by
  cases delivered : environment.sent <;> simp [Outcome.sending, delivered]

@[simp] theorem success_connectionError (item : DownloadWorkItem Header Item) :
    .callback (.success, list) ∉ item.connectionError.effects := by
  simp [connectionError]

@[simp] theorem success_requestList (environment : Environment)
    (item : DownloadWorkItem Header Item) :
    .callback (.success, list) ∉ (item.requestList protocol environment).effects := by
  simp [requestList]

@[simp] theorem success_requestItem (environment : Environment)
    (item : DownloadWorkItem Header Item) :
    .callback (.success, list) ∉ (item.requestItem protocol environment).effects := by
  simp [requestItem]

@[simp] theorem success_sendAckAndFinish (environment : Environment)
    (item : DownloadWorkItem Header Item) :
    .callback (.success, list) ∈ (item.sendAckAndFinish protocol environment).effects ↔
      environment.sent = true ∧ item.callback = true ∧ list = item.list := by
  cases sent : environment.sent <;> simp [sendAckAndFinish, sent]

/-- The item ends the download: it is the last one that is expected. -/
def isLast (item : DownloadWorkItem Header Item) : Bool :=
  item.nextSequence + 1 = item.expectedCount

private theorem success_processCount (environment : Environment) (header : Header) (count : UInt16)
    (item : DownloadWorkItem Header Item) :
    .callback (.success, list) ∈ (item.processCount protocol environment header count).effects ↔
      count = 0 ∧ environment.sent = true ∧ item.callback = true ∧ list = item.list := by
  simp only [processCount]
  split
  next none => simp [none]
  next some => simp [some]

private theorem success_processItem (environment : Environment) (received : Item)
    (item : DownloadWorkItem Header Item) :
    .callback (.success, list) ∈ (item.processItem protocol environment received).effects ↔
      item.isLast = true ∧ environment.sent = true ∧ item.callback = true ∧
        list = ⟨item.list.header, item.list.items ++ [received]⟩ := by
  simp only [processItem, isLast]
  split
  next last => simp [last]
  next more => simp [more]

private theorem success_other {call : Call} (environment : Environment)
    (item : DownloadWorkItem Header Item) (own : ∀ message, call ≠ .processMessage message) :
    .callback (.success, list) ∉ ((workItemClass protocol).handle call environment item).effects := by
  cases call with
  | start => simp [workItemClass, start]
  | cancel => simp [workItemClass, cancel, sendCancelAndFinish]
  | processTimeout =>
    simp only [workItemClass, processTimeout]
    split
    · simp
    · split <;> simp
  | processMessage message => exact absurd rfl (own message)

end

abbrev PlanStep := Taken (Life (DownloadWorkItem PlanId WaypointItem)) LifeEvent
  (Effect (Report PlanId WaypointItem))

abbrev planMachine := (workItemClass inspection).machine

def received (taken : PlanStep) : Option (ListMessage PlanId WaypointItem × Bool) :=
  match taken.action with
  | .call (.processMessage message) environment =>
    (inspection.dispatched taken.before.item.toWorkItem message).map fun content =>
      (content, environment.sent)
  | _ => none

/-- The plan of the COUNT that a step makes the item process. -/
def counted (taken : PlanStep) : Option PlanId :=
  match received taken with
  | some (.count planId _, _) => some planId
  | _ => none

/-- The plan of the last COUNT so far. -/
def lastCount (log : List PlanStep) : Option PlanId := (log.filterMap counted).getLast?

private theorem lastCount_append (log : List PlanStep) (taken : PlanStep) :
    lastCount (log ++ [taken]) = (counted taken).or (lastCount log) := by
  rw [lastCount, List.filterMap_append]
  cases here : counted taken <;> simp [here, lastCount]

def delivered (taken : PlanStep) : List (InspectionBase.Result × InspectionBase.WaypointList) :=
  (taken.outputs.filterMap Effect.reported).map fun report =>
    InspectionImpl.convertToResultAndWaypointList report.1 report.2

/-- A list that is delivered with `Success` belongs to the plan of the last COUNT. -/
def KeepsPlan (earlier : List PlanStep) (taken : PlanStep) : Prop :=
  ∀ report ∈ delivered taken, report.1 = .success →
    lastCount (earlier ++ [taken]) = some report.2.header

/-- A COUNT of no items that ends the download is one of the plan that is stored already, and an
ITEM does not end it before a COUNT has come. -/
def SamePlan (earlier : List PlanStep) (taken : PlanStep) : Prop :=
  taken.before.item.callback = true →
    match received taken with
    | some (.count planId count, true) =>
      count = 0 → planId = taken.before.item.list.header
    | some (.item _, true) => taken.before.item.isLast = true → lastCount earlier ≠ none
    | _ => True

private theorem keepsPlan_iff (earlier : List PlanStep) (taken : PlanStep) :
    KeepsPlan earlier taken ↔
    ∀ list, .callback (.success, list) ∈ taken.outputs →
      lastCount (earlier ++ [taken]) = some list.header := by
  constructor
  · intro keeps list reported
    apply keeps (.success, ⟨list.header, list.items.map WaypointItem.toWaypointItem⟩) _ rfl
    apply List.mem_map.mpr
    exact ⟨(.success, list), List.mem_filterMap.mpr ⟨_, reported, rfl⟩, rfl⟩
  · intro keeps report told success
    obtain ⟨⟨result, list⟩, member, rfl⟩ := List.mem_map.mp told
    obtain ⟨effect, reported, same⟩ := List.mem_filterMap.mp member
    cases effect with
    | callback =>
      cases same
      cases result <;> first | exact keeps list reported | cases success
    | sendMessage | addTimeout | refreshTimeout | removeTimeout => cases same

section
variable {Header Item Ack : Type} {protocol : ListProtocol Header Item Ack}

/-- After a COUNT of some items its header is stored; one of none ends the download. -/
private theorem header_processCount {environment : Environment} {header : Header} {count : UInt16}
    {item : DownloadWorkItem Header Item}
    (lively : (item.processCount protocol environment header count).item.callback = true) :
    item.callback = true ∧
      (item.processCount protocol environment header count).item.list.header = header := by
  simp only [processCount] at lively ⊢
  split at lively
  · simp at lively
  next some =>
    rw [if_neg some, Outcome.after_item, requestItem_item]
    rw [Outcome.after_item, requestItem_item] at lively
    split at lively
    next sent => exact ⟨lively, by rw [if_pos sent]⟩
    · cases lively

private theorem header_processItem {environment : Environment} {received : Item}
    {item : DownloadWorkItem Header Item}
    (lively : (item.processItem protocol environment received).item.callback = true) :
    item.callback = true ∧
      (item.processItem protocol environment received).item.list.header = item.list.header := by
  simp only [processItem] at lively ⊢
  split at lively
  · simp at lively
  next more =>
    rw [if_neg more, Outcome.after_item, requestItem_item]
    rw [Outcome.after_item, requestItem_item] at lively
    split at lively
    next sent => exact ⟨lively, by rw [if_pos sent]⟩
    · cases lively

private theorem header_processTimeout {environment : Environment}
    {item : DownloadWorkItem Header Item}
    (lively : (item.processTimeout protocol environment).item.callback = true) :
    item.callback = true ∧
      (item.processTimeout protocol environment).item.list.header = item.list.header := by
  simp only [processTimeout] at lively ⊢
  split at lively
  · cases lively
  next remaining =>
    rw [if_neg remaining]
    cases step : item.step with
    | requestList =>
      simp only [step, Outcome.after_item, requestList_item] at lively ⊢
      split at lively
      next sent => exact ⟨lively, by rw [if_pos sent]⟩
      · cases lively
    | requestItem =>
      simp only [step, Outcome.after_item, requestItem_item] at lively ⊢
      split at lively
      next sent => exact ⟨lively, by rw [if_pos sent]⟩
      · cases lively

end

/-- The item stands for the plan of the last COUNT, if there was one since it was started. -/
structure Standing (log : List PlanStep) (life : Life (DownloadWorkItem PlanId WaypointItem)) :
    Prop where
  started : life.item.started = true
  plan : life.item.callback = true → ∀ planId, lastCount log = some planId →
    life.item.list.header = planId

private theorem standing_start (environment : Environment)
    (life : Life (DownloadWorkItem PlanId WaypointItem)) :
    Standing [] ((workItemClass inspection).afterCall .start environment life) := by
  refine ⟨?_, fun _ planId counted => nomatch counted⟩
  simp only [WorkItemClass.afterCall, workItemClass, start, Outcome.after_item, requestList_item]
  split <;> rfl

theorem Standing.keep {log : List PlanStep} {taken : PlanStep}
    (standing : Standing log taken.before) (silent : counted taken = none)
    (started : taken.after.item.started = true)
    (kept : taken.after.item.callback = true → taken.before.item.callback = true ∧
      taken.after.item.list.header = taken.before.item.list.header) :
    Standing (log ++ [taken]) taken.after := by
  refine ⟨started, ?_⟩
  intro lively planId last
  rw [lastCount_append, silent] at last
  rw [(kept lively).2]
  exact standing.plan (kept lively).1 planId last

private theorem counted_of_count {taken : PlanStep} {message : Message} {environment : Environment}
    {planId : PlanId} {count : UInt16}
    (called : taken.action = .call (.processMessage message) environment)
    (arrived : inspection.dispatched taken.before.item.toWorkItem message =
      some (.count planId count)) : counted taken = some planId := by
  simp only [counted, received, called, arrived, Option.map_some]

private theorem counted_of_other {taken : PlanStep} {message : Message} {environment : Environment}
    (called : taken.action = .call (.processMessage message) environment)
    (uncounted : ∀ planId count, inspection.dispatched taken.before.item.toWorkItem message ≠
      some (.count planId count)) : counted taken = none := by
  simp only [counted, received, called]
  cases arrived : inspection.dispatched taken.before.item.toWorkItem message with
  | none => rfl
  | some content =>
    cases content with
    | count planId count => exact absurd arrived (uncounted planId count)
    | request | read | item | ack => rfl

private theorem standing_call {log : List PlanStep} {call : Call} {environment : Environment}
    {life : Life (DownloadWorkItem PlanId WaypointItem)} (running : call ≠ .start)
    (standing : Standing log life) :
    let outcome := (workItemClass inspection).handle call environment life.item
    let after := (workItemClass inspection).afterCall call environment life
    Standing (log ++ [⟨life, .call call environment, after, outcome.effects⟩]) after := by
  intro outcome after
  have started : after.item.started = true :=
    (reporting_handle inspection call environment life.item).proceeds.started.mpr
      (.inr standing.started)
  cases call with
  | start => exact absurd rfl running
  | cancel => exact standing.keep rfl started fun lively => by simp [after, workItemClass,
      WorkItemClass.afterCall] at lively
  | processTimeout => exact standing.keep rfl started fun lively => header_processTimeout lively
  | processMessage message =>
    have handled : outcome = life.item.processMessage inspection environment message := rfl
    have item_eq : after.item = outcome.item := rfl
    rw [processMessage] at handled
    split at handled
    next planId count arrived =>
      refine ⟨started, ?_⟩
      intro lively other last
      rw [lastCount_append, counted_of_count rfl arrived, Option.some_or,
        Option.some.injEq] at last
      rw [item_eq, handled] at lively ⊢
      rw [← last]
      exact (header_processCount lively).2
    next content arrived =>
      refine standing.keep (counted_of_other rfl ?_) started ?_
      · intro planId count other
        cases arrived.symm.trans other
      intro lively
      rw [item_eq, handled] at lively ⊢
      exact header_processItem lively
    next uncounted _ =>
      apply standing.keep (counted_of_other rfl uncounted) started
      intro lively
      rw [item_eq, handled] at lively ⊢
      exact ⟨lively, rfl⟩

private theorem standing_step {log : List PlanStep} {taken : PlanStep}
    (legal : planMachine.Legal taken)
    (standing : Standing log taken.before) : Standing (log ++ [taken]) taken.after := by
  obtain ⟨before, event, after, effects⟩ := taken
  cases (WorkItemClass.lived legal).2 with
  | @call call environment callable =>
    exact standing_call (WorkItemClass.running_of_callable callable standing.started) standing
  | select => exact standing.keep rfl standing.started fun lively => ⟨lively, rfl⟩
  | destroy => exact standing.keep rfl standing.started fun lively => ⟨lively, rfl⟩

private theorem keepsPlan_count_iff {log : List PlanStep} {taken : PlanStep} {planId : PlanId}
    {count : UInt16} {sent : Bool} (arrived : received taken = some (.count planId count, sent))
    (reports : ∀ list, .callback (.success, list) ∈ taken.outputs ↔
      count = 0 ∧ sent = true ∧ taken.before.item.callback = true ∧
        list = taken.before.item.list) :
    KeepsPlan log taken ↔ SamePlan log taken := by
  have last : lastCount (log ++ [taken]) = some planId := by
    rw [lastCount_append, counted, arrived, Option.some_or]
  rw [keepsPlan_iff, last, SamePlan, arrived]
  simp only [reports, Option.some.injEq]
  cases sent with
  | false => simp
  | true =>
    constructor
    · intro keeps lively none
      exact keeps _ ⟨none, rfl, lively, rfl⟩
    · rintro same list ⟨none, _, lively, rfl⟩
      exact same lively none

private theorem keepsPlan_item_iff {log : List PlanStep} {taken : PlanStep} {item : WaypointItem}
    {sent : Bool} (standing : Standing log taken.before)
    (arrived : received taken = some (.item item, sent))
    (reports : ∀ list, .callback (.success, list) ∈ taken.outputs ↔
      taken.before.item.isLast = true ∧ sent = true ∧ taken.before.item.callback = true ∧
        list = ⟨taken.before.item.list.header, taken.before.item.list.items ++ [item]⟩) :
    KeepsPlan log taken ↔ SamePlan log taken := by
  have last : lastCount (log ++ [taken]) = lastCount log := by
    rw [lastCount_append, counted, arrived, Option.none_or]
  rw [keepsPlan_iff, last, SamePlan, arrived]
  simp only [reports]
  cases sent with
  | false => simp
  | true =>
    constructor
    · intro keeps lively final
      rw [keeps _ ⟨final, rfl, lively, rfl⟩]
      exact nofun
    · rintro counted list ⟨final, _, lively, rfl⟩
      obtain ⟨planId, plan⟩ := Option.ne_none_iff_exists'.mp (counted lively final)
      rw [plan, standing.plan lively planId plan]

private theorem keepsPlan_other_iff {log : List PlanStep} {taken : PlanStep}
    (arrived : ∀ content ∈ received taken, (∀ planId count, content.1 ≠ .count planId count) ∧
      ∀ item, content.1 ≠ .item item)
    (reports : ∀ list, .callback (.success, list) ∉ taken.outputs) :
    KeepsPlan log taken ↔ SamePlan log taken := by
  rw [keepsPlan_iff]
  refine iff_of_true (fun list reported => absurd reported (reports list)) ?_
  intro _
  split
  next planId count content => exact absurd rfl ((arrived _ content).1 planId count)
  next item content => exact absurd rfl ((arrived _ content).2 item)
  · trivial

private theorem keepsPlan_step_iff {log : List PlanStep} {taken : PlanStep}
    (legal : planMachine.Legal taken) (standing : Standing log taken.before) :
    KeepsPlan log taken ↔ SamePlan log taken := by
  obtain ⟨before, event, after, effects⟩ := taken
  cases (WorkItemClass.lived legal).2 with
  | select => exact keepsPlan_other_iff (fun _ arrived => nomatch arrived) (by simp)
  | destroy => exact keepsPlan_other_iff (fun _ arrived => nomatch arrived) (by simp)
  | @call call environment =>
    have quiet (own : ∀ message, call ≠ .processMessage message)
        (list : ItemList PlanId WaypointItem) : .callback (.success, list) ∉
          ((workItemClass inspection).handle call environment before.item).effects :=
      success_other environment before.item own
    cases call with
    | start => exact keepsPlan_other_iff (fun _ arrived => nomatch arrived) (quiet nofun)
    | cancel => exact keepsPlan_other_iff (fun _ arrived => nomatch arrived) (quiet nofun)
    | processTimeout => exact keepsPlan_other_iff (fun _ arrived => nomatch arrived) (quiet nofun)
    | processMessage message =>
      have handled : (workItemClass inspection).handle (.processMessage message) environment
        before.item = before.item.processMessage inspection environment message := rfl
      rw [handled]
      rw [handled] at legal
      have arrived (effects : List (Effect (Report PlanId WaypointItem)))
          (after : Life (DownloadWorkItem PlanId WaypointItem)) :
          received ⟨before, .call (.processMessage message) environment, after, effects⟩ =
            (inspection.dispatched before.item.toWorkItem message).map
              fun content => (content, environment.sent) := rfl
      rw [processMessage]
      split
      next planId count dispatched =>
        refine keepsPlan_count_iff ((arrived _ _).trans (congrArg _ dispatched)) ?_
        exact fun list => success_processCount environment planId count before.item
      next item dispatched =>
        refine keepsPlan_item_iff standing ((arrived _ _).trans (congrArg _ dispatched)) ?_
        exact fun list => success_processItem environment item before.item
      next uncounted unlisted =>
        refine keepsPlan_other_iff ?_ (by simp)
        intro content here
        rw [arrived] at here
        obtain ⟨message, dispatched, rfl⟩ := Option.map_eq_some_iff.mp here
        refine ⟨?_, ?_⟩
        · rintro planId count rfl
          exact uncounted planId count dispatched
        · rintro item rfl
          exact unlisted item dispatched

private theorem legible_of_counted {taken : PlanStep} {message : Message}
    {environment : Environment}
    {planId : PlanId} (called : taken.action = .call (.processMessage message) environment)
    (count : counted taken = some planId) (room : (Layout.text 37).Fits planId.planUuid) :
    message.Legible := by
  simp only [counted, received, called] at count
  cases arrived : inspection.dispatched taken.before.item.toWorkItem message with
  | none =>
    rw [arrived] at count
    cases count
  | some content =>
    rw [arrived] at count
    cases content with
    | count header number =>
      cases count
      apply Message.legible
      rw [inspection.payload_of_decode (decode_of_dispatched arrived)]
      exact ⟨trivial, trivial, ⟨trivial, trivial⟩, room⟩
    | request | read | item | ack => cases count

/-- For every run from the start of a download, from whatever state it is started in, in which the
plans of the COUNTs are named by texts that have room: each COUNT may be carried as it is, and
whatever is delivered with `Success` belongs to the plan of the last COUNT if and only if a COUNT of
no items never ends the download for another plan than the stored one, and no ITEM ends it before a
COUNT has come. -/
theorem keepsPlan_iff_samePlan {life last : Life (DownloadWorkItem PlanId WaypointItem)}
    {environment : Environment} {log : List PlanStep}
    (run : planMachine.Run ((workItemClass inspection).afterCall .start environment life)
      log last)
    (room : ∀ taken ∈ log, ∀ planId ∈ counted taken, (Layout.text 37).Fits planId.planUuid) :
    (∀ taken ∈ log, counted taken ≠ none → ∀ message environment,
        taken.action = .call (.processMessage message) environment → message.Legible) ∧
      (Machine.Throughout KeepsPlan log ↔ Machine.Throughout SamePlan log) := by
  constructor
  · intro taken member counts message environment called
    obtain ⟨planId, count⟩ := Option.ne_none_iff_exists'.mp counts
    exact legible_of_counted called count (room taken member planId count)
  have agree (log : List PlanStep) (taken : PlanStep) (legal : planMachine.Legal taken)
      (standing : Standing log taken.before) (_ : True) : KeepsPlan log taken ↔ SamePlan log taken :=
    keepsPlan_step_iff legal standing
  have next (log : List PlanStep) (taken : PlanStep) (legal : planMachine.Legal taken)
      (standing : Standing log taken.before) (_ : True) (_ : KeepsPlan log taken) :
      Standing (log ++ [taken]) taken.after :=
    standing_step legal standing
  exact run.throughout_iff agree next (fun _ _ _ _ => trivial) (standing_start environment life)

def startedLife : Life (DownloadWorkItem PlanId WaypointItem) :=
  (workItemClass inspection).afterCall .start ⟨true, 16⟩
    { item := create inspection ⟨⟨255, 0⟩, ⟨1, 1⟩⟩ true }

def fromVehicle (content : ListMessage PlanId WaypointItem) (cookie : Cookie) : LifeEvent :=
  .call (.processMessage ⟨⟨1, 1⟩, ⟨255, 0⟩, .waypointList content⟩) ⟨true, cookie⟩

/-- The vehicle has no waypoints for its plan 7. -/
theorem plan_lost : ¬∀ (life last : Life (DownloadWorkItem PlanId WaypointItem))
    (environment : Environment) (log : List PlanStep),
    planMachine.Run ((workItemClass inspection).afterCall .start environment life) log last →
      Machine.Throughout KeepsPlan log := by
  intro keeps
  let actions : List LifeEvent := [fromVehicle (.count ⟨"", 7⟩ 0) 32]
  have run := planMachine.run_last startedLife actions (by decide)
  have taken := keeps _ _ _ _ run [] _ [] rfl (.success, ⟨⟨"", 0⟩, []⟩) (by decide) rfl
  revert taken
  decide

/-- After the first of two waypoints the vehicle counts again, for another plan. -/
theorem keepsPlan_iff_samePlan_again :
    let actions : List LifeEvent := [fromVehicle (.count ⟨"tank 4", 7⟩ 2) 32,
      fromVehicle (.item { seq := 0 }) 48, fromVehicle (.count ⟨"tank 5", 8⟩ 2) 64,
      fromVehicle (.item { seq := 0 }) 80, fromVehicle (.item { seq := 1 }) 96]
    let log := planMachine.log startedLife actions
    (∃ taken ∈ log, ∃ report ∈ delivered taken, report.1 = .success ∧
        report.2.header = ⟨"tank 5", 8⟩) ∧
      (Machine.Throughout KeepsPlan log ↔ Machine.Throughout SamePlan log) := by
  intro actions log
  have run := planMachine.run_last startedLife actions (by decide)
  exact ⟨by decide, (keepsPlan_iff_samePlan run (by decide +kernel)).2⟩

end GroundStation.DownloadWorkItem
end PilotingMavsdk
