import PilotingMavsdk.Proofs.PluginSession

/-! Why a second transfer is busy. The weak pointer excludes one as long as no call checks it while
another call is still on its way to assign it; a plugin that holds its mutex all that way sees to
that itself. -/

namespace PilotingMavsdk
open Library

namespace PluginSession
variable {request : PluginRequest} {usageType : UsageType} {sender : Sender} {waiting : Nat}

def Exists (session : PluginSession request) (number : Nat) : Prop :=
  ∃ call life, session.items[number]? = some (call, life) ∧ life.destroyed = false

private theorem lastAlive_iff {session : PluginSession request} :
    session.lastAlive = true ↔ ∃ number, session.last = some number ∧ session.Exists number := by
  unfold lastAlive Exists
  cases last : session.last with
  | none => simp
  | some number =>
    cases found : session.items[number]? with
    | none => simp [found]
    | some owned => simp [found, Prod.ext_iff]

def UnderWay (session : PluginSession request) (call : Nat) : Prop :=
  ∃ state : CallState, session.calls[call]? = some state ∧ state ≠ .returned

/-- The weak pointer or a call that will assign it refers to the item. -/
def Refers (session : PluginSession request) (number : Nat) : Prop :=
  session.last = some number ∨ ∃ call : Nat, session.calls[call]? = some (.queued number)

/-- At most one call is under way, and what exists is the last item or the item of that call,
which has found no last item. -/
structure Single (session : PluginSession request) : Prop where
  unique : ∀ first second, session.UnderWay first → session.UnderWay second → first = second
  alone : ∀ call, session.UnderWay call → session.lastAlive = false
  placed : ∀ number, session.Exists number → session.Refers number
  inside : ∀ number, session.Refers number → number < session.items.length

/-- No other call is under way at the check. -/
def Apart (taken : Step request) : Prop :=
  taken.action = .check → ∀ call, ¬taken.before.UnderWay call

private theorem not_underWay {session : PluginSession request}
    (returned : ∀ call ∈ session.calls, call = CallState.returned) (call : Nat) :
    ¬session.UnderWay call := by
  intro ⟨state, found, other⟩
  exact other (returned state (List.mem_of_getElem? found))

theorem apart_of_guarded {taken : Step request} (guarded : request.guarded = true)
    (legal : (machine request).Legal taken) : Apart taken := by
  have step := stepped legal
  obtain ⟨before, action, after, outputs⟩ := taken
  simp only [Apart] at step ⊢
  rintro rfl
  cases step with
  | busy free => exact not_underWay (free guarded)
  | checked free => exact not_underWay (free guarded)

private theorem single_start : (start request usageType sender waiting).Single := by
  constructor
  · rintro _ _ ⟨_, found, _⟩
    cases found
  · rintro _ ⟨_, found, _⟩
    cases found
  · rintro _ ⟨_, _, found, _⟩
    cases found
  · rintro _ (last | ⟨_, found⟩)
    · cases last
    · cases found

theorem Single.congr {before after : PluginSession request} (single : before.Single)
    (items : after.items = before.items) (calls : after.calls = before.calls)
    (last : after.last = before.last) : after.Single := by
  have alive : after.lastAlive = before.lastAlive := by
    unfold lastAlive
    rw [last, items]
  constructor
  · unfold UnderWay
    rw [calls]
    exact single.unique
  · unfold UnderWay
    rw [calls, alive]
    exact single.alone
  · unfold Exists Refers
    rw [items, last, calls]
    exact single.placed
  · unfold Refers
    rw [last, items, calls]
    exact single.inside

private theorem Single.lastGone {session : PluginSession request} (single : session.Single)
    {call number : Nat} (underWay : session.UnderWay call) (last : session.last = some number) :
    ¬session.Exists number := by
  intro existing
  have alive : session.lastAlive = true := lastAlive_iff.mpr ⟨number, last, existing⟩
  rw [single.alone call underWay] at alive
  cases alive

theorem Single.returned {session : PluginSession request} (single : session.Single) :
    Single { session with calls := session.calls ++ [CallState.returned] } := by
  have same (call : Nat) (state : CallState) (other : state ≠ .returned) :
      (session.calls ++ [CallState.returned])[call]? = some state ↔
        session.calls[call]? = some state := by
    rw [getElem?_append_call]
    split
    next here =>
      subst here
      simpa using other.symm
    · exact Iff.rfl
  have underWay (call : Nat) : UnderWay { session with
      calls := session.calls ++ [CallState.returned] } call → session.UnderWay call := by
    intro ⟨state, found, other⟩
    exact ⟨state, (same call state other).mp found, other⟩
  have refers (number : Nat) : Refers { session with
      calls := session.calls ++ [CallState.returned] } number ↔ session.Refers number := by
    unfold Refers
    simp only [same _ (.queued number) nofun]
  constructor
  · exact fun first second one other => single.unique _ _ (underWay _ one) (underWay _ other)
  · exact fun call way => single.alone call (underWay _ way)
  · exact fun number existing => (refers number).mpr (single.placed number existing)
  · exact fun number referred => single.inside number ((refers number).mp referred)

theorem Single.checked {session : PluginSession request} (single : session.Single)
    (apart : ∀ call, ¬session.UnderWay call) (gone : session.lastAlive = false) :
    Single { session with calls := session.calls ++ [.checked] } := by
  have only (call : Nat) : UnderWay { session with calls := session.calls ++ [.checked] } call →
      call = session.calls.length := by
    intro ⟨state, found, other⟩
    rw [getElem?_append_call] at found
    split at found
    next here => exact here
    · exact absurd ⟨state, found, other⟩ (apart call)
  have last (number : Nat) : Refers { session with calls := session.calls ++ [.checked] } number →
      session.last = some number := by
    rintro (last | ⟨call, queued⟩)
    · exact last
    · rw [getElem?_append_call] at queued
      split at queued
      · cases queued
      · exact absurd ⟨_, queued, nofun⟩ (apart call)
  constructor
  · intro first second one other
    rw [only first one, only second other]
  · exact fun _ _ => gone
  · intro number existing
    rcases single.placed number existing with last | ⟨call, queued⟩
    · exact .inl last
    · exact absurd ⟨_, queued, nofun⟩ (apart call)
  · exact fun number referred => single.inside number (.inl (last number referred))

theorem Single.pushed {session : PluginSession request} (single : session.Single) {call : Nat}
    (checked : session.calls[call]? = some .checked) (item : Life request.kind.State) :
    Single { session with
      items := session.items ++ [(call, item)]
      calls := session.calls.set call (.queued session.items.length) } := by
  have underWay : session.UnderWay call := ⟨_, checked, nofun⟩
  have same (other : Nat) : UnderWay { session with
      items := session.items ++ [(call, item)]
      calls := session.calls.set call (.queued session.items.length) } other →
      session.UnderWay other := by
    intro ⟨state, found, unfinished⟩
    rw [getElem?_set_call checked] at found
    split at found
    next here =>
      subst here
      exact underWay
    · exact ⟨state, found, unfinished⟩
  have lastOnly (number : Nat) (referred : session.Refers number) :
      session.last = some number := by
    rcases referred with last | ⟨other, queued⟩
    · exact last
    · have here := single.unique _ _ underWay ⟨_, queued, nofun⟩
      subst here
      rw [checked] at queued
      cases queued
  constructor
  · exact fun first second one other => single.unique _ _ (same _ one) (same _ other)
  · intro _ _
    apply Bool.eq_false_iff.mpr
    intro alive
    obtain ⟨number, last, owner, life, found, existing⟩ := lastAlive_iff.mp alive
    have inside := single.inside number (.inl last)
    rw [List.getElem?_append_left inside] at found
    exact single.lastGone underWay last ⟨owner, life, found, existing⟩
  · intro number ⟨owner, life, found, existing⟩
    by_cases inside : number < session.items.length
    · rw [List.getElem?_append_left inside] at found
      exact .inl (lastOnly number (single.placed number ⟨owner, life, found, existing⟩))
    · have bound := (List.getElem?_eq_some_iff.mp found).1
      rw [List.length_append, List.length_singleton] at bound
      have here : number = session.items.length := by omega
      refine .inr ⟨call, ?_⟩
      rw [here, getElem?_set_call checked, if_pos rfl]
  · rw [List.length_append, List.length_singleton]
    rintro number (last | ⟨other, queued⟩)
    · have inside := single.inside number (.inl last)
      omega
    · rw [getElem?_set_call checked] at queued
      split at queued
      · cases queued
        omega
      · have inside := single.inside number (.inr ⟨other, queued⟩)
        omega

/-- The only call under way returns; what exists then is what the weak pointer refers to. -/
theorem Single.finished {session : PluginSession request} (single : session.Single) {call : Nat}
    {old : CallState} (found : session.calls[call]? = some old) (unfinished : old ≠ .returned)
    {last : Option Nat} (placed : ∀ number, session.Exists number → last = some number)
    (inside : ∀ number, last = some number → number < session.items.length) :
    Single { session with calls := session.calls.set call .returned, last := last } := by
  have underWay : session.UnderWay call := ⟨old, found, unfinished⟩
  have none (other : Nat) (state : CallState) (goes : state ≠ .returned) :
      (session.calls.set call .returned)[other]? ≠ some state := by
    intro still
    rw [getElem?_set_call found] at still
    split at still
    · cases still
      exact goes rfl
    next elsewhere =>
      exact elsewhere (single.unique _ _ ⟨state, still, goes⟩ underWay)
  constructor
  · rintro first _ ⟨state, still, goes⟩ _
    exact absurd still (none first state goes)
  · rintro other ⟨state, still, goes⟩
    exact absurd still (none other state goes)
  · exact fun number existing => .inl (placed number existing)
  · rintro number (last | ⟨other, queued⟩)
    · exact inside number last
    · exact absurd queued (none other _ nofun)

theorem Single.item {session : PluginSession request} (single : session.Single)
    {number owner : Nat} {event : LifeEvent} {life next : Life request.kind.State}
    {effects : List (Effect request.kind.Report)}
    (found : session.items[number]? = some (owner, life))
    (legal : request.kind.workItemClass.machine.Legal ⟨life, event, next, effects⟩) :
    Single { session with items := session.items.set number (owner, next) } := by
  have existed (other : Nat) : Exists { session with
      items := session.items.set number (owner, next) } other → session.Exists other := by
    intro ⟨call, later, placed, existing⟩
    rw [List.getElem?_set] at placed
    split at placed
    next here =>
      subst here
      exact ⟨owner, life, found, (WorkItemClass.lived legal).1⟩
    · exact ⟨call, later, placed, existing⟩
  constructor
  · exact single.unique
  · intro call underWay
    apply Bool.eq_false_iff.mpr
    intro alive
    obtain ⟨other, last, existing⟩ := lastAlive_iff.mp alive
    exact single.lastGone underWay last (existed other existing)
  · exact fun other existing => single.placed other (existed other existing)
  · intro other referred
    rw [List.length_set]
    exact single.inside other referred

theorem single_step {taken : Step request} (legal : (machine request).Legal taken)
    (apart : Apart taken) (single : taken.before.Single) : taken.after.Single := by
  obtain ⟨before, action, after, outputs⟩ := taken
  have step := stepped legal
  simp only [Apart] at step apart single ⊢
  cases step with
  | busy free alive =>
    apply single.returned.congr
    · rw [handOver_items]
    · rw [handOver_calls]
    · rw [handOver_last]
  | checked free gone => exact single.checked (apart rfl) gone
  | pushed checked => exact single.pushed checked _
  | @warned call arguments checked uncastable =>
    apply single.finished checked nofun
    · intro number existing
      rcases single.placed number existing with last | ⟨other, queued⟩
      · exact last
      · have here := single.unique _ _ ⟨_, checked, nofun⟩ ⟨_, queued, nofun⟩
        subst here
        rw [checked] at queued
        cases queued
    · exact fun number last => single.inside number (.inl last)
  | @assigned call item queued =>
    have underWay : before.UnderWay call := ⟨_, queued, nofun⟩
    apply single.finished queued nofun
    · intro number existing
      rcases single.placed number existing with last | ⟨other, waiting⟩
      · exact absurd existing (single.lastGone underWay last)
      · have here := single.unique _ _ underWay ⟨_, waiting, nofun⟩
        subst here
        rw [queued] at waiting
        cases waiting
        rfl
    · intro number last
      cases last
      exact single.inside item (.inr ⟨call, queued⟩)
  | item found popped lived =>
    apply (single.item found lived).congr
    · rw [handOver_items]
    · rw [handOver_calls]
    · rw [handOver_last]
  | otherCallback =>
    apply single.congr
    · rw [callUserCallback_items]
    · rw [callUserCallback_calls]
    · rw [callUserCallback_last]
  | otherRun => exact single.congr rfl rfl rfl
  | run => exact single.congr rfl rfl rfl

theorem admitted_of_not_apart {taken : Step request} (legal : (machine request).Legal taken)
    (single : taken.before.Single) (together : ¬Apart taken) :
    taken.outputs = [] ∧ taken.after.calls = taken.before.calls ++ [.checked] := by
  obtain ⟨before, action, after, outputs⟩ := taken
  simp only [Apart, Classical.not_imp, not_forall, not_not] at together
  obtain ⟨rfl, call, underWay⟩ := together
  have step := stepped legal
  simp only at step single underWay ⊢
  cases step with
  | busy free alive =>
    rw [single.alone call underWay] at alive
    cases alive
  | checked => exact ⟨rfl, rfl⟩

def Working (session : PluginSession request) (number : Nat) : Prop :=
  ∃ call life, session.items[number]? = some (call, life) ∧ life.destroyed = false ∧
    (request.kind.workItemClass.base life.item).done = false

def Exclusive (session : PluginSession request) : Prop :=
  ∀ first second, session.Working first → session.Working second → first = second

/-- A call that is made while an earlier one goes on is answered `Busy` at once. -/
def AnswersOverlap (taken : Step request) : Prop :=
  taken.action = .check → ∀ call < taken.before.calls.length, taken.before.Open call →
    taken.outputs.filterMap SessionOutput.handed = [(taken.before.calls.length, request.busy)]

theorem Single.exclusive {session : PluginSession request} (single : session.Single) :
    session.Exclusive := by
  intro first second ⟨call, life, one, existing, _⟩ ⟨other, age, two, present, _⟩
  have firstExists : session.Exists first := ⟨call, life, one, existing⟩
  have secondExists : session.Exists second := ⟨other, age, two, present⟩
  rcases single.placed first firstExists with firstLast | ⟨maker, firstQueued⟩
  · rcases single.placed second secondExists with secondLast | ⟨maker, secondQueued⟩
    · rw [firstLast] at secondLast
      exact Option.some.inj secondLast
    · exact absurd firstExists (single.lastGone ⟨_, secondQueued, nofun⟩ firstLast)
  · rcases single.placed second secondExists with secondLast | ⟨maker', secondQueued⟩
    · exact absurd secondExists (single.lastGone ⟨_, firstQueued, nofun⟩ secondLast)
    · have same := single.unique _ _ ⟨_, firstQueued, nofun⟩ ⟨_, secondQueued, nofun⟩
      subst same
      rw [firstQueued] at secondQueued
      cases secondQueued
      rfl

private theorem answersOverlap_step {taken : Step request} (legal : (machine request).Legal taken)
    (apart : Apart taken) (single : taken.before.Single) : AnswersOverlap taken := by
  obtain ⟨before, action, after, outputs⟩ := taken
  have step := stepped legal
  simp only [Apart, AnswersOverlap] at step apart single ⊢
  rintro rfl call inside opened
  cases step with
  | busy => rw [handed_handOver, List.map_singleton]
  | checked free gone =>
    rcases opened with outside | checked | ⟨life, member, existing, running⟩
    · omega
    · exact absurd ⟨_, checked, nofun⟩ (apart rfl call)
    · obtain ⟨number, found⟩ := List.mem_iff_getElem?.mp member
      have present : before.Exists number := ⟨call, life, found, existing⟩
      rcases single.placed number present with last | ⟨maker, queued⟩
      · rw [lastAlive_iff.mpr ⟨number, last, present⟩] at gone
        cases gone
      · exact absurd ⟨_, queued, nofun⟩ (apart rfl maker)

/-- Where every check finds no other call under way, at most one item of the plugin is at work in
every state, and every call that overlaps is answered `Busy`. -/
theorem busy_excludes {log : List (Step request)} {last : PluginSession request}
    (run : (machine request).Run (start request usageType sender waiting) log last)
    (apart : ∀ taken ∈ log, Apart taken) :
    last.Exclusive ∧ ∀ taken ∈ log, taken.before.Exclusive ∧ AnswersOverlap taken := by
  have step (taken : Step request) (legal : (machine request).Legal taken) (alone : Apart taken)
      (single : taken.before.Single) : taken.after.Single := single_step legal alone single
  obtain ⟨atLast, throughout⟩ := run.guarded step apart single_start
  refine ⟨atLast.exclusive, ?_⟩
  intro taken member
  have single := (throughout taken member).1
  exact ⟨single.exclusive, answersOverlap_step (run.legal taken member) (apart taken member) single⟩

/-- Two threads that check before either of them assigns upload two lists at once. -/
theorem busy_not_excludes :
    let station := start InspectionImpl.uploadInspectionAsync .groundStation
      ⟨⟨245, 190⟩, ⟨1, 1⟩⟩ 0
    let list : InspectionBase.WaypointList := ⟨{}, []⟩
    let actions : List (SessionAction InspectionBase.WaypointList) :=
      [.check, .check, .pushBack 0 list, .pushBack 1 list, .assign 0, .assign 1]
    let log := (machine InspectionImpl.uploadInspectionAsync).log station actions
    let last := (machine InspectionImpl.uploadInspectionAsync).last station actions
    log.length = 6 ∧ ((log.flatMap Taken.outputs).filterMap SessionOutput.handed).length = 0 ∧
      last.Working 0 ∧ last.Working 1 ∧ ¬last.Exclusive := by
  intro station list actions log last
  have first : last.Working 0 := ⟨_, _, rfl, rfl, rfl⟩
  have second : last.Working 1 := ⟨_, _, rfl, rfl, rfl⟩
  refine ⟨by decide, by decide, first, second, ?_⟩
  intro exclusive
  have same := exclusive 0 1 first second
  cases same

theorem busy_excludes_second :
    let station := start InspectionImpl.downloadInspectionAsync .groundStation
      ⟨⟨245, 190⟩, ⟨1, 1⟩⟩ 0
    let actions : List (SessionAction Unit) := [.check, .pushBack 0 (), .assign 0, .check]
    let log := (machine InspectionImpl.downloadInspectionAsync).log station actions
    let last := (machine InspectionImpl.downloadInspectionAsync).last station actions
    log.length = 4 ∧ last.Exclusive ∧
      ∀ taken ∈ log, taken.before.Exclusive ∧ AnswersOverlap taken := by
  intro station actions log last
  have run := (machine InspectionImpl.downloadInspectionAsync).run_last station actions (by decide)
  have returned : ∀ taken ∈ log, taken.action = .check →
      ∀ call ∈ taken.before.calls, call = CallState.returned := by decide
  refine ⟨by decide, busy_excludes run ?_⟩
  exact fun taken member check => not_underWay (returned taken member check)

end PluginSession
end PilotingMavsdk
