import Mathlib.Data.List.Nodup
import PilotingMavsdk.GroundStationPlugins
import PilotingMavsdk.Proofs.FinalReport

/-! What one step of a plugin's session can be, and the account of its calls: each call is still
being made, or its callback is owned by an item that is not done, or it has been answered, once. -/

namespace PilotingMavsdk
open Library

namespace SessionOutput
variable {UserReport : Type}

/-- What was given to `call_user_callback`, whether the queue took it or not. -/
def handed : SessionOutput UserReport → Option (Nat × UserReport)
  | .enqueued call report | .dropped call report => some (call, report)
  | .warned _ | .executed _ _ => none

def taken : SessionOutput UserReport → Option (Nat × UserReport)
  | .enqueued call report => some (call, report)
  | .dropped _ _ | .warned _ | .executed _ _ => none

def run : SessionOutput UserReport → Option (Nat × UserReport)
  | .executed call report => some (call, report)
  | .enqueued _ _ | .dropped _ _ | .warned _ => none

end SessionOutput

namespace PluginSession
variable {request : PluginRequest}

@[simp] theorem callUserCallback_calls (callback : Option (Nat × request.UserReport))
    (session : PluginSession request) :
    (session.callUserCallback callback).calls = session.calls := by
  unfold callUserCallback
  split <;> rfl

@[simp] theorem callUserCallback_items (callback : Option (Nat × request.UserReport))
    (session : PluginSession request) :
    (session.callUserCallback callback).items = session.items := by
  unfold callUserCallback
  split <;> rfl

@[simp] theorem callUserCallback_last (callback : Option (Nat × request.UserReport))
    (session : PluginSession request) :
    (session.callUserCallback callback).last = session.last := by
  unfold callUserCallback
  split <;> rfl

@[simp] private theorem callUserCallback_usageType (callback : Option (Nat × request.UserReport))
    (session : PluginSession request) :
    (session.callUserCallback callback).usageType = session.usageType := by
  unfold callUserCallback
  split <;> rfl

@[simp] theorem handOver_calls (call : Nat) (reports : List request.UserReport)
    (session : PluginSession request) :
    (session.handOver call reports).1.calls = session.calls := by
  induction reports generalizing session with
  | nil => rfl
  | cons report reports ih => rw [handOver, ih, callUserCallback_calls]

@[simp] theorem handOver_items (call : Nat) (reports : List request.UserReport)
    (session : PluginSession request) :
    (session.handOver call reports).1.items = session.items := by
  induction reports generalizing session with
  | nil => rfl
  | cons report reports ih => rw [handOver, ih, callUserCallback_items]

@[simp] theorem handOver_last (call : Nat) (reports : List request.UserReport)
    (session : PluginSession request) :
    (session.handOver call reports).1.last = session.last := by
  induction reports generalizing session with
  | nil => rfl
  | cons report reports ih => rw [handOver, ih, callUserCallback_last]

@[simp] private theorem handOver_usageType (call : Nat) (reports : List request.UserReport)
    (session : PluginSession request) :
    (session.handOver call reports).1.usageType = session.usageType := by
  induction reports generalizing session with
  | nil => rfl
  | cons report reports ih => rw [handOver, ih, callUserCallback_usageType]

theorem handed_handOver (call : Nat) (reports : List request.UserReport)
    (session : PluginSession request) :
    (session.handOver call reports).2.filterMap SessionOutput.handed =
      reports.map fun report => (call, report) := by
  induction reports generalizing session with
  | nil => rfl
  | cons report reports ih =>
    simp only [handOver, List.map_cons]
    split <;> simp [SessionOutput.handed, ih]

private theorem taken_handOver (call : Nat) (reports : List request.UserReport)
    (session : PluginSession request) :
    (session.handOver call reports).1.userCallbacks = session.userCallbacks ++
      ((session.handOver call reports).2.filterMap SessionOutput.taken).map some := by
  induction reports generalizing session with
  | nil => simp [handOver]
  | cons report reports ih =>
    simp only [handOver]
    rw [ih]
    by_cases full : session.userCallbacks.length = userCallbackLimit
    · simp only [callUserCallback, full, if_true, List.filterMap_cons, SessionOutput.taken]
    · simp only [callUserCallback, full, if_false, List.filterMap_cons, SessionOutput.taken,
        List.map_cons, List.append_assoc, List.singleton_append]

theorem handed_of_taken {outputs : List (SessionOutput request.UserReport)}
    {pair : Nat × request.UserReport} (member : pair ∈ outputs.filterMap SessionOutput.taken) :
    pair ∈ outputs.filterMap SessionOutput.handed := by
  obtain ⟨output, inside, same⟩ := List.mem_filterMap.mp member
  apply List.mem_filterMap.mpr
  refine ⟨output, inside, ?_⟩
  cases output with
  | enqueued => exact same
  | dropped | warned | executed => cases same

private theorem run_handOver (call : Nat) (reports : List request.UserReport)
    (session : PluginSession request) :
    (session.handOver call reports).2.filterMap SessionOutput.run = [] := by
  induction reports generalizing session with
  | nil => rfl
  | cons report reports ih =>
    simp only [handOver]
    split <;> simp only [List.filterMap_cons, SessionOutput.run, ih]

inductive Stepped (session : PluginSession request) : SessionAction request.Arguments →
    PluginSession request → List (SessionOutput request.UserReport) → Prop where
  | busy (free : request.guarded = true → ∀ call ∈ session.calls, call = CallState.returned)
      (alive : session.lastAlive = true) :
      Stepped session .check
        ({ session with calls := session.calls ++ [CallState.returned] }.handOver
          session.calls.length [request.busy]).1
        ({ session with calls := session.calls ++ [CallState.returned] }.handOver
          session.calls.length [request.busy]).2
  | checked (free : request.guarded = true → ∀ call ∈ session.calls, call = CallState.returned)
      (gone : session.lastAlive = false) :
      Stepped session .check { session with calls := session.calls ++ [.checked] } []
  | pushed {call : Nat} {arguments : request.Arguments}
      (checked : session.calls[call]? = some .checked)
      (castable : session.usageType = .groundStation) :
      Stepped session (.pushBack call arguments)
        { session with
          items := session.items ++ [(call, { item := request.create session.sender arguments })]
          calls := session.calls.set call (.queued session.items.length) } []
  | warned {call : Nat} {arguments : request.Arguments}
      (checked : session.calls[call]? = some .checked)
      (uncastable : session.usageType = .roboticVehicle) :
      Stepped session (.pushBack call arguments)
        { session with calls := session.calls.set call .returned } [.warned call]
  | assigned {call item : Nat} (queued : session.calls[call]? = some (.queued item)) :
      Stepped session (.assign call)
        { session with last := some item, calls := session.calls.set call .returned } []
  | item {number call : Nat} {event : LifeEvent} {life after : Life request.kind.State}
      {effects : List (Effect request.kind.Report)}
      (found : session.items[number]? = some (call, life))
      (popped : event = .destroy → (request.kind.workItemClass.base life.item).started = true ∧
        (request.kind.workItemClass.base life.item).done = true)
      (legal : request.kind.workItemClass.machine.Legal ⟨life, event, after, effects⟩) :
      Stepped session (.item number event)
        ({ session with items := session.items.set number (call, after) }.handOver call
          ((effects.filterMap Effect.reported).map request.convert)).1
        ({ session with items := session.items.set number (call, after) }.handOver call
          ((effects.filterMap Effect.reported).map request.convert)).2
  | otherCallback : Stepped session .otherCallback (session.callUserCallback none) []
  | otherRun {rest : List (Option (Nat × request.UserReport))}
      (front : session.userCallbacks = none :: rest) :
      Stepped session .runCallback { session with userCallbacks := rest } []
  | run {call : Nat} {report : request.UserReport}
      {rest : List (Option (Nat × request.UserReport))}
      (front : session.userCallbacks = some (call, report) :: rest) :
      Stepped session .runCallback { session with userCallbacks := rest } [.executed call report]

abbrev Step (request : PluginRequest) :=
  Taken (PluginSession request) (SessionAction request.Arguments)
    (SessionOutput request.UserReport)

theorem stepped {taken : Step request} (legal : (machine request).Legal taken) :
    taken.before.Stepped taken.action taken.after taken.outputs := by
  obtain ⟨session, action, after, outputs⟩ := taken
  simp only [Machine.Legal, machine] at legal
  cases action with
  | check =>
    simp only at legal
    split at legal
    · cases legal
    next unlocked =>
      have free : request.guarded = true → ∀ call ∈ session.calls, call = CallState.returned := by
        intro guarded call member
        by_contra busy
        exact unlocked ⟨guarded, call, member, busy⟩
      split at legal
      next alive =>
        obtain ⟨rfl, rfl⟩ := Prod.mk.inj (Option.some.inj legal)
        exact .busy free alive
      next gone =>
        cases legal
        exact .checked free (Bool.eq_false_iff.mpr gone)
  | pushBack call arguments =>
    simp only at legal
    split at legal
    next checked =>
      split at legal
      next castable => cases legal; exact .pushed checked castable
      next uncastable => cases legal; exact .warned checked uncastable
    · cases legal
  | assign call =>
    simp only at legal
    split at legal
    next queued => cases legal; exact .assigned queued
    · cases legal
  | item number event =>
    simp only at legal
    split at legal
    next call life found =>
      split at legal
      next popped =>
        split at legal
        next after effects lived =>
          obtain ⟨rfl, rfl⟩ := Prod.mk.inj (Option.some.inj legal)
          exact .item found popped lived
        · cases legal
      · cases legal
    · cases legal
  | otherCallback => cases legal; exact .otherCallback
  | runCallback =>
    simp only at legal
    split at legal
    · cases legal
    next front => cases legal; exact .otherRun front
    next front => cases legal; exact .run front

def reportsTo {UserReport : Type} (call : Nat) (handed : List (Nat × UserReport)) :
    List UserReport :=
  (handed.filter fun pair => pair.1 = call).map Prod.snd

@[simp] theorem reportsTo_nil {UserReport : Type} (call : Nat) :
    reportsTo call ([] : List (Nat × UserReport)) = [] := rfl

theorem reportsTo_append {UserReport : Type} (call : Nat) (first second : List (Nat × UserReport)) :
    reportsTo call (first ++ second) = reportsTo call first ++ reportsTo call second := by
  simp [reportsTo]

theorem mem_reportsTo {UserReport : Type} {call : Nat} {handed : List (Nat × UserReport)}
    {report : UserReport} : report ∈ reportsTo call handed ↔ (call, report) ∈ handed := by
  simp [reportsTo]

theorem reportsTo_owner {UserReport : Type} (call owner : Nat) (reports : List UserReport) :
    reportsTo call (reports.map fun report => (owner, report)) =
      if owner = call then reports else [] := by
  induction reports with
  | nil => simp [reportsTo]
  | cons report reports ih =>
    rw [List.map_cons, ← List.singleton_append, reportsTo_append, ih]
    by_cases same : owner = call
    · simp [reportsTo, same]
    · simp [reportsTo, same]

/-- The final reports that were handed over for a call. -/
def answers (request : PluginRequest) (call : Nat)
    (outputs : List (SessionOutput request.UserReport)) : List request.UserReport :=
  (reportsTo call (outputs.filterMap SessionOutput.handed)).filter request.terminal

@[simp] theorem answers_nil (call : Nat) : answers request call [] = [] := rfl

private theorem answers_append (call : Nat)
    (first second : List (SessionOutput request.UserReport)) :
    answers request call (first ++ second) =
      answers request call first ++ answers request call second := by
  simp [answers, reportsTo_append]

private theorem answers_handOver (call owner : Nat) (reports : List request.UserReport)
    (session : PluginSession request) :
    answers request call (session.handOver owner reports).2 =
      if owner = call then reports.filter request.terminal else [] := by
  rw [answers, handed_handOver, reportsTo_owner]
  split <;> rfl

/-- The work item that owns the callback of the call exists and is not done. -/
def Owns (session : PluginSession request) (call : Nat) : Prop :=
  ∃ life, (call, life) ∈ session.items ∧ life.destroyed = false ∧
    (request.kind.workItemClass.base life.item).done = false

/-- The call has not begun, has not come to the creation of its item, or its item is not done. -/
def Open (session : PluginSession request) (call : Nat) : Prop :=
  session.calls.length ≤ call ∨ session.calls[call]? = some .checked ∨ session.Owns call

/-- The items and their owners. -/
structure Sound (session : PluginSession request) : Prop where
  owners : (session.items.map Prod.fst).Nodup
  made : ∀ call life, (call, life) ∈ session.items →
    call < session.calls.length ∧ session.calls[call]? ≠ some .checked
  awaited : ∀ call life, (call, life) ∈ session.items →
    (request.kind.workItemClass.base life.item).Awaited
  kept : ∀ call life, (call, life) ∈ session.items → life.destroyed = true →
    (request.kind.workItemClass.base life.item).done = true

/-- How a step answers a call. In the vehicle's configuration a call may end without an answer. -/
inductive Settles (before after : PluginSession request) (call : Nat) :
    List request.UserReport → Prop where
  | kept (same : after.Open call ↔ before.Open call) : Settles before after call []
  | answered (report : request.UserReport) (earlier : before.Open call)
      (closed : ¬after.Open call) : Settles before after call [report]
  | warned (earlier : before.Open call) (closed : ¬after.Open call)
      (uncastable : before.usageType = .roboticVehicle) : Settles before after call []

theorem getElem?_append_call {calls : List CallState} {state : CallState} (call : Nat) :
    (calls ++ [state])[call]? = if call = calls.length then some state else calls[call]? := by
  rcases Nat.lt_trichotomy call calls.length with inside | same | outside
  · rw [List.getElem?_append_left inside, if_neg (by omega)]
  · simp [same]
  · rw [if_neg (by omega), List.getElem?_eq_none (by simp; omega),
      List.getElem?_eq_none (by omega)]

theorem getElem?_set_call {calls : List CallState} {call : Nat} {old : CallState}
    (found : calls[call]? = some old) (state : CallState) (other : Nat) :
    (calls.set call state)[other]? = if other = call then some state else calls[other]? := by
  have inside := (List.getElem?_eq_some_iff.mp found).1
  rw [List.getElem?_set]
  by_cases same : other = call
  · subst other
    simp [inside]
  · rw [if_neg (fun equal => same equal.symm), if_neg same]

theorem Owns.of_item {session : PluginSession request} (sound : session.Sound)
    {number call : Nat} {life : Life request.kind.State}
    (found : session.items[number]? = some (call, life)) :
    session.Owns call ↔ (request.kind.workItemClass.base life.item).done = false := by
  constructor
  · intro ⟨other, member, _, running⟩
    have same := List.inj_on_of_nodup_map sound.owners member (List.mem_of_getElem? found) rfl
    cases same
    exact running
  · intro running
    have member := List.mem_of_getElem? found
    refine ⟨life, member, ?_, running⟩
    apply Bool.eq_false_iff.mpr
    intro destroyed
    rw [sound.kept call life member destroyed] at running
    cases running

theorem Owns.frame {before after : PluginSession request} {call : Nat}
    (same : ∀ life, (call, life) ∈ after.items ↔ (call, life) ∈ before.items) :
    after.Owns call ↔ before.Owns call := by
  constructor
  · exact fun ⟨life, member, running⟩ => ⟨life, (same life).mp member, running⟩
  · exact fun ⟨life, member, running⟩ => ⟨life, (same life).mpr member, running⟩

private theorem Sound.not_owns {session : PluginSession request} (sound : session.Sound)
    {call : Nat} (unmade : session.calls.length ≤ call ∨ session.calls[call]? = some .checked) :
    ¬session.Owns call := by
  intro ⟨life, member, _, _⟩
  obtain ⟨inside, past⟩ := sound.made call life member
  rcases unmade with outside | checked
  · omega
  · exact past checked

theorem Open.frame {before after : PluginSession request} {call : Nat}
    (state : after.calls[call]? = before.calls[call]?)
    (owns : after.Owns call ↔ before.Owns call) : after.Open call ↔ before.Open call := by
  unfold Open
  rw [← List.getElem?_eq_none_iff, ← List.getElem?_eq_none_iff, state, owns]

/-- Only the item of a call past its creation can keep the call open. -/
private theorem open_iff_owns {session : PluginSession request} {call : Nat}
    (inside : call < session.calls.length) (past : session.calls[call]? ≠ some .checked) :
    session.Open call ↔ session.Owns call := by
  constructor
  · rintro (outside | checked | owns)
    · omega
    · exact absurd checked past
    · exact owns
  · exact fun owns => .inr (.inr owns)

private theorem settles_returned {before after : PluginSession request} (sound : before.Sound)
    (items : after.items = before.items)
    (calls : after.calls = before.calls ++ [CallState.returned]) (report : request.UserReport)
    (call : Nat) :
    before.Settles after call (if before.calls.length = call then [report] else []) := by
  have owns : after.Owns call ↔ before.Owns call := Owns.frame fun life => by rw [items]
  split
  next here =>
    apply Settles.answered
    · exact .inl (Nat.le_of_eq here)
    · intro still
      rcases still with outside | checked | owned
      · rw [calls, List.length_append, List.length_singleton] at outside
        omega
      · rw [calls, getElem?_append_call, if_pos here.symm] at checked
        cases checked
      · exact sound.not_owns (.inl (Nat.le_of_eq here)) (owns.mp owned)
  next elsewhere =>
    apply Settles.kept
    apply Open.frame _ owns
    rw [calls, getElem?_append_call, if_neg fun same => elsewhere same.symm]

theorem Sound.congr {before after : PluginSession request} (sound : before.Sound)
    (items : after.items = before.items) (calls : after.calls = before.calls) : after.Sound := by
  constructor
  · rw [items]
    exact sound.owners
  · rw [items, calls]
    exact sound.made
  · rw [items]
    exact sound.awaited
  · rw [items]
    exact sound.kept

theorem Sound.set {session : PluginSession request} (sound : session.Sound) {call : Nat}
    {old : CallState} (found : session.calls[call]? = some old) (state : CallState)
    (past : state ≠ .checked) {last : Option Nat} :
    Sound { session with calls := session.calls.set call state, last := last } := by
  constructor
  · exact sound.owners
  · intro other life member
    obtain ⟨inside, earlier⟩ := sound.made other life member
    refine ⟨by rwa [List.length_set], ?_⟩
    rw [getElem?_set_call found]
    split
    · simpa using past
    · exact earlier
  · exact sound.awaited
  · exact sound.kept

theorem Sound.item {session : PluginSession request} (sound : session.Sound) {number call : Nat}
    {life after : Life request.kind.State}
    (found : session.items[number]? = some (call, life))
    (awaited : (request.kind.workItemClass.base after.item).Awaited)
    (kept : after.destroyed = true →
      (request.kind.workItemClass.base after.item).done = true) :
    Sound { session with items := session.items.set number (call, after) } := by
  obtain ⟨inside, present⟩ := List.getElem?_eq_some_iff.mp found
  have owners : (session.items.set number (call, after)).map Prod.fst =
      session.items.map Prod.fst := by
    apply List.ext_getElem?
    intro position
    rw [List.map_set, List.getElem?_set]
    split
    next here =>
      subst here
      simp [inside, present]
    · rfl
  constructor
  · simp only
    rw [owners]
    exact sound.owners
  · intro other life' member
    rcases List.mem_or_eq_of_mem_set member with member | same
    · exact sound.made other life' member
    · cases same
      exact sound.made call life (List.mem_of_getElem? found)
  · intro other life' member
    rcases List.mem_or_eq_of_mem_set member with member | same
    · exact sound.awaited other life' member
    · cases same
      exact awaited
  · intro other life' member
    rcases List.mem_or_eq_of_mem_set member with member | same
    · exact sound.kept other life' member
    · cases same
      exact kept

theorem Sound.pushed {session : PluginSession request} (sound : session.Sound) {call : Nat}
    {arguments : request.Arguments} (checked : session.calls[call]? = some .checked) :
    Sound { session with
      items := session.items ++ [(call, { item := request.create session.sender arguments })]
      calls := session.calls.set call (.queued session.items.length) } := by
  have inside := (List.getElem?_eq_some_iff.mp checked).1
  constructor
  · simp only [List.map_append, List.map_cons, List.map_nil]
    apply List.nodup_append.mpr
    refine ⟨sound.owners, List.nodup_singleton _, ?_⟩
    intro owner member other one same
    cases List.mem_singleton.mp one
    obtain ⟨⟨_, life⟩, owned, rfl⟩ := List.mem_map.mp member
    cases same
    exact (sound.made _ life owned).2 checked
  · intro other life member
    rw [List.length_set, getElem?_set_call checked]
    rcases List.mem_append.mp member with member | new
    · obtain ⟨made, past⟩ := sound.made other life member
      refine ⟨made, ?_⟩
      split
      · nofun
      · exact past
    · cases List.mem_singleton.mp new
      refine ⟨inside, ?_⟩
      rw [if_pos rfl]
      nofun
  · intro other life member
    rcases List.mem_append.mp member with member | new
    · exact sound.awaited other life member
    · cases List.mem_singleton.mp new
      have fresh := (request.kind.created_fields
        (request.created session.sender arguments)).2.1
      simp [WorkItem.Awaited, request.callback_create, fresh]
  · intro other life member destroyed
    rcases List.mem_append.mp member with member | new
    · exact sound.kept other life member destroyed
    · cases List.mem_singleton.mp new
      cases destroyed

private theorem kept_item {life after : Life request.kind.State} {event : LifeEvent}
    {effects : List (Effect request.kind.Report)}
    (popped : event = .destroy → (request.kind.workItemClass.base life.item).started = true ∧
      (request.kind.workItemClass.base life.item).done = true)
    (legal : request.kind.workItemClass.machine.Legal ⟨life, event, after, effects⟩)
    (destroyed : after.destroyed = true) :
    (request.kind.workItemClass.base after.item).done = true := by
  obtain ⟨alive, lived⟩ := WorkItemClass.lived legal
  cases lived with
  | destroy => exact (popped rfl).2
  | call | select =>
    simp only [WorkItemClass.afterCall, alive] at destroyed
    cases destroyed

theorem sound_step {taken : Step request} (legal : (machine request).Legal taken)
    (sound : taken.before.Sound) : taken.after.Sound := by
  obtain ⟨before, action, after, outputs⟩ := taken
  have step := stepped legal
  simp only at step sound ⊢
  cases step with
  | busy free alive =>
    constructor
    · simpa using sound.owners
    · intro call life member
      rw [handOver_items] at member
      obtain ⟨inside, past⟩ := sound.made call life member
      rw [handOver_calls, List.length_append]
      refine ⟨by omega, ?_⟩
      rwa [getElem?_append_call, if_neg (by omega)]
    · rw [handOver_items]
      exact sound.awaited
    · rw [handOver_items]
      exact sound.kept
  | checked free gone =>
    constructor
    · exact sound.owners
    · intro call life member
      obtain ⟨inside, past⟩ := sound.made call life member
      rw [List.length_append]
      refine ⟨by omega, ?_⟩
      rwa [getElem?_append_call, if_neg (by omega)]
    · exact sound.awaited
    · exact sound.kept
  | pushed checked castable => exact sound.pushed checked
  | warned checked uncastable => exact sound.set checked .returned nofun
  | assigned queued => exact sound.set queued .returned nofun
  | @item number call event life after effects found popped lived =>
    have awaited := sound.awaited call life (List.mem_of_getElem? found)
    have kept := kept_item popped lived
    apply (sound.item found (Kind.reportsEnd_step lived awaited).1 kept).congr
    · rw [handOver_items]
    · rw [handOver_calls]
  | otherCallback =>
    apply sound.congr
    · rw [callUserCallback_items]
    · rw [callUserCallback_calls]
  | otherRun front => exact sound.congr rfl rfl
  | run front => exact sound.congr rfl rfl

private theorem mem_set_other {Item : Type} {items : List (Nat × Item)} {number owner call : Nat}
    {old other : Item} (found : items[number]? = some (owner, old)) (different : owner ≠ call)
    (replaced : Item) : (call, other) ∈ items.set number (owner, replaced) ↔
      (call, other) ∈ items := by
  constructor
  · intro member
    rcases List.mem_or_eq_of_mem_set member with member | new
    · exact member
    · exact absurd (congrArg Prod.fst new).symm different
  · intro member
    obtain ⟨position, here⟩ := List.mem_iff_getElem?.mp member
    apply List.mem_iff_getElem?.mpr
    refine ⟨position, ?_⟩
    rw [List.getElem?_set_ne _, here]
    rintro rfl
    rw [found] at here
    exact different (congrArg Prod.fst (Option.some.inj here))

private theorem settles_own_item {session after : PluginSession request} (sound : session.Sound)
    {number owner : Nat} {event : LifeEvent} {life next : Life request.kind.State}
    {effects : List (Effect request.kind.Report)}
    (found : session.items[number]? = some (owner, life))
    (popped : event = .destroy → (request.kind.workItemClass.base life.item).started = true ∧
      (request.kind.workItemClass.base life.item).done = true)
    (lived : request.kind.workItemClass.machine.Legal ⟨life, event, next, effects⟩)
    (items : after.items = session.items.set number (owner, next))
    (calls : after.calls = session.calls) :
    session.Settles after owner
      (((effects.filterMap Effect.reported).map request.convert).filter request.terminal) := by
  have inside := (List.getElem?_eq_some_iff.mp found).1
  have member := List.mem_of_getElem? found
  obtain ⟨awaited, reports⟩ := Kind.reportsEnd_step lived (sound.awaited owner life member)
  have state : after.calls[owner]? = session.calls[owner]? := by rw [calls]
  have placed : after.items[number]? = some (owner, next) := by
    rw [items, List.getElem?_set_self inside]
  have sounder : after.Sound :=
    (sound.item found awaited (kept_item popped lived)).congr items calls
  have earlier := Owns.of_item sound found
  have later := Owns.of_item sounder placed
  have past := sound.made owner life member
  have before : session.Open owner ↔ session.Owns owner := open_iff_owns past.1 past.2
  have afterwards : after.Open owner ↔ after.Owns owner := by
    apply open_iff_owns
    · rw [calls]
      exact past.1
    · rw [state]
      exact past.2
  cases finished : (request.kind.workItemClass.base life.item).done with
  | true =>
    have still := reports.stays finished
    have silent : effects.filterMap Effect.reported = [] := reports.silent finished
    rw [silent]
    apply Settles.kept
    rw [afterwards, before, earlier, later, finished]
    simpa using still
  | false =>
    cases ended : (request.kind.workItemClass.base next.item).done with
    | true =>
      obtain ⟨report, final, told⟩ := reports.ends finished ended
      have told : effects.filterMap Effect.reported = [report] := told
      have kept : (([report].map request.convert).filter request.terminal) =
          [request.convert report] := by
        simp [request.terminal_convert, final]
      rw [told, kept]
      apply Settles.answered
      · exact before.mpr (earlier.mpr finished)
      · rw [afterwards, later, ended]
        nofun
    | false =>
      have progress := reports.goes_on ended
      have none : ((effects.filterMap Effect.reported).map request.convert).filter
          request.terminal = [] := by
        apply List.filter_eq_nil_iff.mpr
        intro report told
        obtain ⟨raw, member, rfl⟩ := List.mem_map.mp told
        rw [request.terminal_convert, progress raw member]
        nofun
      rw [none]
      apply Settles.kept
      rw [afterwards, before, earlier, later, finished, ended]

private theorem settles_item {session after : PluginSession request} (sound : session.Sound)
    {number owner : Nat} {event : LifeEvent} {life next : Life request.kind.State}
    {effects : List (Effect request.kind.Report)}
    (found : session.items[number]? = some (owner, life))
    (popped : event = .destroy → (request.kind.workItemClass.base life.item).started = true ∧
      (request.kind.workItemClass.base life.item).done = true)
    (lived : request.kind.workItemClass.machine.Legal ⟨life, event, next, effects⟩)
    (items : after.items = session.items.set number (owner, next))
    (calls : after.calls = session.calls) (call : Nat) :
    session.Settles after call (if owner = call then
      ((effects.filterMap Effect.reported).map request.convert).filter request.terminal
      else []) := by
  split
  next same =>
    subst same
    exact settles_own_item sound found popped lived items calls
  next different =>
    apply Settles.kept
    apply Open.frame (by rw [calls])
    apply Owns.frame
    intro other
    rw [items]
    exact mem_set_other found different next

theorem settles_step {taken : Step request} (legal : (machine request).Legal taken)
    (sound : taken.before.Sound) (call : Nat) :
    taken.before.Settles taken.after call (answers request call taken.outputs) := by
  obtain ⟨before, action, after, outputs⟩ := taken
  have step := stepped legal
  simp only at step sound ⊢
  cases step with
  | busy free alive =>
    rw [answers_handOver]
    have final : [request.busy].filter request.terminal = [request.busy] := by
      simp [request.terminal_busy]
    rw [final]
    apply settles_returned sound
    · rw [handOver_items]
    · rw [handOver_calls]
  | checked free gone =>
    apply Settles.kept
    by_cases here : call = before.calls.length
    · subst here
      refine ⟨fun _ => .inl (Nat.le_refl _), fun _ => .inr (.inl ?_)⟩
      simp
    · apply Open.frame
      · rw [getElem?_append_call, if_neg here]
      · rfl
  | @pushed owner arguments checked castable =>
    apply Settles.kept
    by_cases here : call = owner
    · subst here
      refine ⟨fun _ => .inr (.inl checked), fun _ => .inr (.inr ?_)⟩
      refine ⟨{ item := request.create before.sender arguments }, by simp, rfl, ?_⟩
      exact (request.kind.created_fields (request.created before.sender arguments)).2.1
    · apply Open.frame
      · rw [getElem?_set_call checked, if_neg here]
      · apply Owns.frame
        intro life
        simp [here]
  | @warned owner arguments checked uncastable =>
    by_cases here : call = owner
    · subst here
      apply Settles.warned (.inr (.inl checked)) _ uncastable
      intro still
      rcases still with outside | again | owned
      · rw [List.length_set] at outside
        have inside := (List.getElem?_eq_some_iff.mp checked).1
        omega
      · rw [getElem?_set_call checked, if_pos rfl] at again
        cases again
      · exact sound.not_owns (.inr checked) owned
    · apply Settles.kept
      apply Open.frame
      · rw [getElem?_set_call checked, if_neg here]
      · rfl
  | @assigned owner item queued =>
    apply Settles.kept
    by_cases here : call = owner
    · subst here
      have inside := (List.getElem?_eq_some_iff.mp queued).1
      rw [open_iff_owns, open_iff_owns inside]
      · exact Iff.rfl
      · rw [queued]
        nofun
      · rwa [List.length_set]
      · rw [getElem?_set_call queued, if_pos rfl]
        nofun
    · apply Open.frame
      · rw [getElem?_set_call queued, if_neg here]
      · rfl
  | @item number owner event life next effects found popped lived =>
    rw [answers_handOver]
    apply settles_item sound found popped lived
    · rw [handOver_items]
    · rw [handOver_calls]
  | otherCallback =>
    apply Settles.kept
    apply Open.frame
    · rw [callUserCallback_calls]
    · apply Owns.frame
      intro life
      rw [callUserCallback_items]
  | otherRun front => exact .kept (Open.frame rfl Iff.rfl)
  | run front => exact .kept (Open.frame rfl Iff.rfl)

private theorem usageType_step {taken : Step request} (legal : (machine request).Legal taken) :
    taken.after.usageType = taken.before.usageType := by
  obtain ⟨before, action, after, outputs⟩ := taken
  have step := stepped legal
  simp only at step ⊢
  cases step with
  | busy => exact handOver_usageType ..
  | item => exact handOver_usageType ..
  | otherCallback => exact callUserCallback_usageType ..
  | checked | pushed | warned | assigned | otherRun | run => rfl

/-- Where a report that is handed over comes from. -/
inductive HandedBy (session : PluginSession request) (call : Nat) (report : request.UserReport) :
    SessionAction request.Arguments → PluginSession request →
      List (SessionOutput request.UserReport) → Prop where
  | check (alive : session.lastAlive = true) (own : call = session.calls.length)
      (busy : report = request.busy) (other : PluginSession request)
      (queue : other.userCallbacks = session.userCallbacks) :
      HandedBy session call report .check (other.handOver call [report]).1
        (other.handOver call [report]).2
  | item {number : Nat} {event : LifeEvent} {life next : Life request.kind.State}
      {effects : List (Effect request.kind.Report)} {raw : request.kind.Report}
      (found : session.items[number]? = some (call, life))
      (lived : request.kind.workItemClass.machine.Legal ⟨life, event, next, effects⟩)
      (told : raw ∈ effects.filterMap Effect.reported) (converted : request.convert raw = report)
      (other : PluginSession request)
      (queue : other.userCallbacks = session.userCallbacks) :
      HandedBy session call report (.item number event)
        (other.handOver call ((effects.filterMap Effect.reported).map request.convert)).1
        (other.handOver call ((effects.filterMap Effect.reported).map request.convert)).2

theorem handedBy_step {taken : Step request} (legal : (machine request).Legal taken) {call : Nat}
    {report : request.UserReport}
    (handed : (call, report) ∈ taken.outputs.filterMap SessionOutput.handed) :
    taken.before.HandedBy call report taken.action taken.after taken.outputs := by
  obtain ⟨before, action, after, outputs⟩ := taken
  have step := stepped legal
  simp only at step handed ⊢
  cases step with
  | busy free alive =>
    rw [handed_handOver] at handed
    obtain ⟨rfl, rfl⟩ := Prod.mk.inj (List.mem_singleton.mp handed)
    exact .check alive rfl rfl _ rfl
  | @item number owner event life next effects found popped lived =>
    rw [handed_handOver] at handed
    obtain ⟨told, member, same⟩ := List.mem_map.mp handed
    obtain ⟨raw, effect, converted⟩ := List.mem_map.mp member
    obtain ⟨rfl, rfl⟩ := Prod.mk.inj same
    exact .item found lived effect converted _ rfl
  | run => simp [SessionOutput.handed] at handed
  | warned => simp [SessionOutput.handed] at handed
  | checked | pushed | assigned | otherCallback | otherRun => cases handed

def reportsWaiting (session : PluginSession request) : List (Nat × request.UserReport) :=
  session.userCallbacks.filterMap id

private theorem reportsWaiting_handOver (call : Nat) (reports : List request.UserReport)
    (session : PluginSession request) :
    (session.handOver call reports).1.reportsWaiting = session.reportsWaiting ++
      (session.handOver call reports).2.filterMap SessionOutput.taken := by
  rw [reportsWaiting, taken_handOver, List.filterMap_append, List.filterMap_map]
  simp [reportsWaiting]

private theorem reportsWaiting_step {taken : Step request} (legal : (machine request).Legal taken) :
    taken.outputs.filterMap SessionOutput.run ++ taken.after.reportsWaiting =
      taken.before.reportsWaiting ++ taken.outputs.filterMap SessionOutput.taken := by
  obtain ⟨before, action, after, outputs⟩ := taken
  have step := stepped legal
  simp only at step ⊢
  cases step with
  | busy | item =>
    rw [run_handOver, reportsWaiting_handOver]
    rfl
  | checked | pushed | assigned => simp [reportsWaiting]
  | warned => simp [reportsWaiting, List.filterMap_cons, SessionOutput.run, SessionOutput.taken]
  | otherCallback =>
    unfold callUserCallback
    split
    · simp
    · simp [reportsWaiting]
  | otherRun front => simp [reportsWaiting, front]
  | run front =>
    simp [reportsWaiting, front, List.filterMap_cons, SessionOutput.run, SessionOutput.taken]

/-- What was handed over for a call, by where the call stands. -/
structure Settled (session : PluginSession request) (call : Nat)
    (answered : List request.UserReport) : Prop where
  pending : session.Open call → answered = []
  answered : session.usageType = .groundStation → ¬session.Open call →
    ∃ report, answered = [report]

theorem Settles.settled {before after : PluginSession request} {call : Nat}
    {earlier here : List request.UserReport} (settles : before.Settles after call here)
    (settled : before.Settled call earlier) (usageType : after.usageType = before.usageType) :
    after.Settled call (earlier ++ here) := by
  cases settles with
  | kept same =>
    rw [List.append_nil]
    constructor
    · exact fun open' => settled.pending (same.mp open')
    · intro castable closed
      exact settled.answered (usageType ▸ castable) fun open' => closed (same.mpr open')
  | answered report opened closed =>
    rw [settled.pending opened]
    exact ⟨fun open' => absurd open' closed, fun _ _ => ⟨report, rfl⟩⟩
  | warned opened closed uncastable =>
    constructor
    · exact fun open' => absurd open' closed
    · intro castable
      rw [usageType, uncastable] at castable
      cases castable

variable {usageType : UsageType} {sender : Sender} {waiting : Nat}

theorem sound_start : (start request usageType sender waiting).Sound :=
  ⟨List.nodup_nil, nofun, nofun, nofun⟩

theorem settled_run {log : List (Step request)} {last : PluginSession request}
    (run : (machine request).Run (start request usageType sender waiting) log last) (call : Nat) :
    last.Sound ∧ last.usageType = usageType ∧
      last.Settled call (answers request call (log.flatMap Taken.outputs)) := by
  induction run with
  | nil =>
    refine ⟨sound_start, rfl, fun _ => rfl, ?_⟩
    exact fun _ closed => absurd (.inl (Nat.zero_le _)) closed
  | @snoc log taken run legal ih =>
    obtain ⟨sound, same, settled⟩ := ih
    have kept := usageType_step legal
    refine ⟨sound_step legal sound, kept.trans same, ?_⟩
    rw [List.flatMap_append, answers_append]
    have here : [taken].flatMap Taken.outputs = taken.outputs := by simp
    rw [here]
    exact (settles_step legal sound call).settled settled kept

theorem reportsWaiting_run {log : List (Step request)} {last : PluginSession request}
    (run : (machine request).Run (start request usageType sender waiting) log last) :
    (log.flatMap Taken.outputs).filterMap SessionOutput.run ++ last.reportsWaiting =
      (log.flatMap Taken.outputs).filterMap SessionOutput.taken := by
  induction run with
  | nil => simp [reportsWaiting, start]
  | @snoc log taken run legal ih =>
    have here : [taken].flatMap Taken.outputs = taken.outputs := by simp
    rw [List.flatMap_append, here, List.filterMap_append, List.filterMap_append, List.append_assoc,
      reportsWaiting_step legal, ← List.append_assoc, ih]

end PluginSession
end PilotingMavsdk
