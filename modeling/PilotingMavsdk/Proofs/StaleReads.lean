import PilotingMavsdk.Proofs.Messages

/-! Repeated and late READs in an upload. A READ for an item that was sent before moves
`_next_sequence` back, so that the next item of the list is no longer the one it waits for. -/

namespace PilotingMavsdk
open Library

namespace UploadWorkItem
variable {Header Item Ack : Type} (protocol : ListProtocol Header Item Ack)

/-- The message is the ITEM of that number. -/
def CarriesItem (item : UploadWorkItem Header Item Ack) (seq : UInt16) (message : Message) : Prop :=
  ∃ found, item.list.items[seq.toNat]? = some found ∧
    message = item.sender.pack (protocol.payload (.item (protocol.numbered seq found)))

/-- The calls answer a READ: they pass its ITEM to the sender. -/
def Answers (item : UploadWorkItem Header Item Ack) (seq : UInt16)
    (effects : List (Effect (Report Ack))) : Prop :=
  ∃ message sent, .sendMessage message sent ∈ effects ∧ item.CarriesItem protocol seq message

/-- The READ is for the item that is waited for, or for an earlier one and not too often. -/
def Answerable (item : UploadWorkItem Header Item Ack) (seq : UInt16) : Prop :=
  seq.toNat ≤ item.nextSequence ∧ (seq.toNat < item.nextSequence → item.retriesDone < retries)

/-- The item once it has sent the ITEM. -/
def answered (seq : UInt16) (item : UploadWorkItem Header Item Ack) :
    UploadWorkItem Header Item Ack :=
  { item with
    step := .sendItems
    nextSequence := seq.toNat + 1
    retriesDone := (if item.nextSequence = seq.toNat then 0 else item.retriesDone) + 1 }

variable {protocol}

private theorem processRead_answerable {environment : Environment} {seq : UInt16}
    {item : UploadWorkItem Header Item Ack} (answerable : item.Answerable seq)
    {found : Item} (inside : item.list.items[seq.toNat]? = some found) :
    item.processRead protocol environment seq =
      (Outcome.sending environment
        (item.sender.pack (protocol.payload (.item (protocol.numbered seq found))))
        ({ item.answered seq with retriesDone :=
          if item.nextSequence = seq.toNat then 0 else item.retriesDone }.connectionError)
        ⟨item.answered seq, []⟩).after [.refreshTimeout item.cookie] := by
  obtain ⟨reached, patient⟩ := answerable
  have expected : ¬item.nextSequence < seq.toNat := by omega
  have allowed : ¬(item.nextSequence > seq.toNat ∧ item.retriesDone ≥ retries) := by
    intro ⟨repeated, exhausted⟩
    exact absurd (patient repeated) (by omega)
  simp only [processRead, if_neg expected, if_neg allowed, sendItem, inside, answered,
    UInt16.ofNat_toNat]

private theorem answers_processRead_iff (environment : Environment) {seq : UInt16}
    {item : UploadWorkItem Header Item Ack} (inside : seq.toNat < item.list.items.length) :
    item.Answers protocol seq (item.processRead protocol environment seq).effects ↔
      item.Answerable seq := by
  constructor
  · intro ⟨message, sent, packed, _⟩
    simp only [processRead] at packed
    split at packed
    · cases packed
    next expected =>
      split at packed
      · cases callback : item.callback <;> simp [callbackAndReset, callback] at packed
      next allowed =>
        refine ⟨by omega, ?_⟩
        intro repeated
        by_contra exhausted
        exact allowed ⟨repeated, by omega⟩
  · intro answerable
    have found := List.getElem?_eq_getElem inside
    rw [processRead_answerable answerable found]
    exact ⟨_, environment.sent, by simp [Outcome.sending], _, found, rfl⟩

private theorem item_processRead {environment : Environment} {seq : UInt16}
    {item : UploadWorkItem Header Item Ack} (answerable : item.Answerable seq)
    (inside : seq.toNat < item.list.items.length)
    (alive : (item.processRead protocol environment seq).item.done = false) :
    (item.processRead protocol environment seq).item = item.answered seq := by
  rw [processRead_answerable answerable (List.getElem?_eq_getElem inside)] at alive ⊢
  rw [Outcome.after_item, Outcome.sending_item] at alive ⊢
  split at alive
  next sent => rw [if_pos sent]
  · cases alive

def expected : List Nat → Nat
  | [] => 0
  | seq :: _ => seq + 1

/-- The number after the highest one. -/
def reached : List Nat → Nat
  | [] => 0
  | seq :: earlier => max (seq + 1) (reached earlier)

/-- How many READs, up to the latest, did not ask for the item after the one before. -/
def stalled : List Nat → Nat
  | [] => 0
  | seq :: earlier => if seq = expected earlier then 0 else stalled earlier + 1

end UploadWorkItem

/-- The two classes with this work item: one in the ground station, one for each list of the
vehicle. -/
inductive UploadWorkItem.Uploads : {Header Item Ack : Type} → ListProtocol Header Item Ack →
    WorkItemClass (UploadWorkItem Header Item Ack) (UploadWorkItem.Report Ack) → Prop where
  | groundStation : Uploads inspection GroundStation.UploadWorkItem.workItemClass
  | roboticVehicle {Header Item Ack : Type} (protocol : ListProtocol Header Item Ack) :
    Uploads protocol (RoboticVehicle.UploadWorkItem.workItemClass protocol)

/-- What the calls of an upload have in common. `Waiting` is kept until `start()`, which then
begins with the first item. -/
structure UploadWorkItem.AnswersReads {Header Item Ack : Type} (protocol : ListProtocol Header Item Ack)
    (workItemClass : WorkItemClass (UploadWorkItem Header Item Ack) (UploadWorkItem.Report Ack))
    (Waiting : UploadWorkItem Header Item Ack → Prop) : Prop where
  base : ∀ item, workItemClass.base item = item.toWorkItem
  message : ∀ message environment item, workItemClass.handle (.processMessage message) environment
    item = item.processMessage protocol environment message
  proceeds : ∀ call environment (item : UploadWorkItem Header Item Ack),
    item.toWorkItem.Proceeds call (workItemClass.handle call environment item).item.toWorkItem
  list : ∀ call environment item,
    (workItemClass.handle call environment item).item.list = item.list
  created : ∀ item, workItemClass.Created item → item.started = false ∧ Waiting item
  waits : ∀ call environment item, call ≠ .start → Waiting item →
    Waiting (workItemClass.handle call environment item).item
  starts : ∀ environment item, Waiting item →
    (workItemClass.handle .start environment item).item.done = false →
      (workItemClass.handle .start environment item).item.nextSequence = 0
  cancels : ∀ environment item, (workItemClass.handle .cancel environment item).item.done = true
  expires : ∀ environment item, item.step = .sendItems →
    (workItemClass.handle .processTimeout environment item).item.done = true
  recounts : ∀ environment item,
    (workItemClass.handle .processTimeout environment item).item.done = false →
      (workItemClass.handle .processTimeout environment item).item.nextSequence =
        item.nextSequence

namespace UploadWorkItem
variable {Header Item Ack : Type} {protocol : ListProtocol Header Item Ack}

private theorem nextSequence_sendCount (environment : Environment)
    (item : UploadWorkItem Header Item Ack) :
    (item.sendCount protocol environment).item.nextSequence = item.nextSequence := by
  rw [sendCount_item]
  split <;> rfl

end UploadWorkItem

/-- The ground station's item answers READs before it is started, and forgets them then. -/
theorem GroundStation.UploadWorkItem.serving :
    UploadWorkItem.AnswersReads inspection workItemClass (fun _ => True) where
  base _ := rfl
  message _ _ _ := rfl
  proceeds call environment item := (reporting_handle call environment item).proceeds
  list := list_handle
  created := by
    rintro item ⟨sender, list, callback, rfl⟩
    exact ⟨rfl, trivial⟩
  waits _ _ _ _ _ := trivial
  starts environment item _ alive := by
    simp only [workItemClass, start] at alive ⊢
    split at alive
    next valid =>
      rw [if_pos valid, Outcome.after_item]
      exact UploadWorkItem.nextSequence_sendCount environment _
    · cases alive
  cancels environment item := by simp [workItemClass]
  expires environment item sending := by
    simp only [workItemClass, processTimeout, sending]
    split <;> rfl
  recounts environment item alive := by
    simp only [workItemClass, processTimeout] at alive ⊢
    split at alive
    · cases alive
    next remaining =>
      rw [if_neg remaining]
      cases step : item.step with
      | sendCount =>
        rw [Outcome.after_item]
        exact UploadWorkItem.nextSequence_sendCount environment _
      | sendItems =>
        rw [step] at alive
        cases alive

theorem RoboticVehicle.UploadWorkItem.serving {Header Item Ack : Type}
    (protocol : ListProtocol Header Item Ack) :
    UploadWorkItem.AnswersReads protocol (workItemClass protocol)
      (fun item => item.handlers = [] ∧ item.nextSequence = 0) where
  base _ := rfl
  message _ _ _ := rfl
  proceeds call environment item := (reporting_handle protocol call environment item).proceeds
  list := list_handle
  created := by
    rintro item ⟨sender, list, callback, rfl⟩
    exact ⟨rfl, rfl, rfl⟩
  waits call environment item running waiting := by
    cases call with
    | start => exact absurd rfl running
    | cancel =>
      simp only [workItemClass, UploadWorkItem.cancel_item]
      exact waiting
    | processTimeout => exact waiting
    | processMessage message =>
      simp only [workItemClass, UploadWorkItem.processMessage, ListProtocol.dispatched, waiting.1,
        List.not_mem_nil, if_false]
      exact ⟨trivial, waiting.2⟩
  starts environment item waiting _ := by
    simp only [workItemClass, start, Outcome.after_item]
    split
    · rw [UploadWorkItem.nextSequence_sendCount]
      exact waiting.2
    · split
      · exact UploadWorkItem.nextSequence_sendCount environment _
      · exact waiting.2
  cancels environment item := by simp [workItemClass]
  expires _ _ _ := rfl
  recounts _ _ _ := rfl

namespace UploadWorkItem
variable {Header Item Ack : Type} (protocol : ListProtocol Header Item Ack)

abbrev UploadStep (Header Item Ack : Type) :=
  Taken (Life (UploadWorkItem Header Item Ack)) LifeEvent (Effect (Report Ack))

def handled (taken : UploadStep Header Item Ack) : Option (ListMessage Header Item) :=
  if taken.before.item.started = true ∧ taken.before.item.done = false then
    match taken.action with
    | .call (.processMessage message) _ =>
      protocol.dispatched taken.before.item.toWorkItem message
    | _ => none
  else none

def request (taken : UploadStep Header Item Ack) : Option Nat :=
  match handled protocol taken with
  | some (.read seq) => some seq.toNat
  | _ => none

def requests (log : List (UploadStep Header Item Ack)) : List Nat :=
  (log.filterMap (request protocol)).reverse

/-- A READ asks at most for the item after the highest one so far, and for one of the list. -/
def Regular (earlier : List (UploadStep Header Item Ack)) (taken : UploadStep Header Item Ack) :
    Prop :=
  ∀ seq ∈ request protocol taken,
    seq ≤ reached (requests protocol earlier) ∧ seq < taken.before.item.list.items.length

instance (earlier : List (UploadStep Header Item Ack)) (taken : UploadStep Header Item Ack) :
    Decidable (Regular protocol earlier taken) :=
  inferInstanceAs (Decidable (∀ seq ∈ request protocol taken,
    seq ≤ reached (requests protocol earlier) ∧ seq < taken.before.item.list.items.length))

/-- A READ is answered with its ITEM, and the acceptance of a list that was asked for completely
is a success. -/
def Serves (earlier : List (UploadStep Header Item Ack)) (taken : UploadStep Header Item Ack) :
    Prop :=
  match handled protocol taken with
  | some (.read seq) => taken.before.item.Answers protocol seq taken.outputs
  | some (.ack type) =>
    type = protocol.accepted →
      reached (requests protocol earlier) = taken.before.item.list.items.length →
        taken.before.item.callback = true →
          .callback (.success, protocol.toAck type) ∈ taken.outputs
  | _ => True

/-- A READ asks at most for the item after the one of the READ before, and no fourth READ in a row
asks for another one. Before an acceptance the last item was the last one asked for. -/
def Steady (earlier : List (UploadStep Header Item Ack)) (taken : UploadStep Header Item Ack) :
    Prop :=
  let earlier := requests protocol earlier
  match handled protocol taken with
  | some (.read seq) =>
    seq.toNat ≤ expected earlier ∧ (seq.toNat < expected earlier → stalled earlier < 3)
  | some (.ack type) =>
    type = protocol.accepted → reached earlier = taken.before.item.list.items.length →
      taken.before.item.callback = true →
        expected earlier = taken.before.item.list.items.length
  | _ => True

variable {protocol}

private theorem requests_append (log : List (UploadStep Header Item Ack))
    (taken : UploadStep Header Item Ack) : requests protocol (log ++ [taken]) =
      (request protocol taken).toList ++ requests protocol log := by
  rw [requests, List.filterMap_append, List.reverse_append]
  cases here : request protocol taken <;> simp [here, requests]

variable (protocol) in
/-- A running item waits for the item after the last one asked for, and counts the READs that did
not bring it further. -/
structure Following (Waiting : UploadWorkItem Header Item Ack → Prop)
    (log : List (UploadStep Header Item Ack)) (life : Life (UploadWorkItem Header Item Ack)) :
    Prop where
  waiting : life.item.started = false → requests protocol log = [] ∧ Waiting life.item
  next : life.item.started = true → life.item.done = false →
    life.item.nextSequence = expected (requests protocol log)
  sending : life.item.started = true → life.item.done = false → requests protocol log ≠ [] →
    life.item.step = .sendItems ∧ life.item.retriesDone = stalled (requests protocol log) + 1

variable {workItemClass : WorkItemClass (UploadWorkItem Header Item Ack) (Report Ack)}
  {Waiting : UploadWorkItem Header Item Ack → Prop}

private theorem handling (serving : AnswersReads protocol workItemClass Waiting)
    {taken : UploadStep Header Item Ack} (legal : workItemClass.machine.Legal taken)
    {content : ListMessage Header Item} (arrived : handled protocol taken = some content) :
    taken.before.item.started = true ∧ taken.before.item.done = false ∧
      ∃ message environment,
        protocol.dispatched taken.before.item.toWorkItem message = some content ∧
        taken.after.item =
          (taken.before.item.processMessage protocol environment message).item ∧
        taken.outputs =
          (taken.before.item.processMessage protocol environment message).effects := by
  obtain ⟨before, event, after, effects⟩ := taken
  simp only [handled] at arrived
  split at arrived
  next running =>
    split at arrived
    next message environment =>
      refine ⟨running.1, running.2, message, environment, arrived, ?_⟩
      cases (WorkItemClass.lived legal).2
      simp only [WorkItemClass.afterCall, serving.message, and_self]
    · cases arrived
  · cases arrived

private theorem processMessage_of_read {environment : Environment} {message : Message}
    {seq : UInt16} {item : UploadWorkItem Header Item Ack}
    (arrived : protocol.dispatched item.toWorkItem message = some (.read seq)) :
    item.processMessage protocol environment message =
      item.processRead protocol environment seq := by
  simp only [processMessage, arrived]

private theorem processMessage_of_ack {environment : Environment} {message : Message} {type : UInt8}
    {item : UploadWorkItem Header Item Ack}
    (arrived : protocol.dispatched item.toWorkItem message = some (.ack type)) :
    item.processMessage protocol environment message = item.processAck protocol type := by
  simp only [processMessage, arrived]

/-- `process_inspection_ack` looks at the number of items that were sent, not at the type. -/
private theorem success_processAck (type : UInt8) (item : UploadWorkItem Header Item Ack) :
    .callback (.success, protocol.toAck type) ∈ (item.processAck protocol type).effects ↔
      item.callback = true ∧ item.nextSequence = item.list.items.length := by
  simp only [processAck, callbackAndReset]
  cases callback : item.callback <;>
    by_cases complete : item.nextSequence = item.list.items.length <;> simp [complete]

private theorem serves_iff_steady (serving : AnswersReads protocol workItemClass Waiting)
    (log : List (UploadStep Header Item Ack)) (taken : UploadStep Header Item Ack)
    (legal : workItemClass.machine.Legal taken)
    (following : Following protocol Waiting log taken.before)
    (regular : Regular protocol log taken) :
    Serves protocol log taken ↔ Steady protocol log taken := by
  cases arrived : handled protocol taken with
  | none => simp only [Serves, Steady, arrived]
  | some content =>
    obtain ⟨started, undone, message, environment, here, _, effects⟩ :=
      handling serving legal arrived
    have next := following.next started undone
    cases content with
    | read seq =>
      have asked : request protocol taken = some seq.toNat := by simp only [request, arrived]
      have inside := (regular seq.toNat asked).2
      have patience : seq.toNat < expected (requests protocol log) →
          (taken.before.item.retriesDone < retries ↔ stalled (requests protocol log) < 3) := by
        intro repeated
        have some : requests protocol log ≠ [] := by
          intro none
          rw [none] at repeated
          cases repeated
        rw [(following.sending started undone some).2, retries]
        omega
      simp only [Serves, Steady, arrived]
      rw [effects, processMessage_of_read here, answers_processRead_iff environment inside,
        Answerable, next]
      exact and_congr_right fun _ => forall_congr' patience
    | ack type =>
      simp only [Serves, Steady, arrived]
      rw [effects, processMessage_of_ack here, success_processAck, next]
      refine forall_congr' fun _ => forall_congr' fun _ => forall_congr' fun lively => ?_
      exact and_iff_right lively
    | request | count | item => simp only [Serves, Steady, arrived]

theorem Following.keep {log : List (UploadStep Header Item Ack)}
    {taken : UploadStep Header Item Ack} (following : Following protocol Waiting log taken.before)
    (silent : request protocol taken = none)
    (started : taken.after.item.started = taken.before.item.started)
    (waits : taken.before.item.started = false → Waiting taken.before.item →
      Waiting taken.after.item)
    (kept : taken.before.item.started = true → taken.after.item.done = false →
      taken.before.item.done = false ∧
        taken.after.item.nextSequence = taken.before.item.nextSequence ∧
        (taken.before.item.step = .sendItems → taken.after.item.step = .sendItems ∧
          taken.after.item.retriesDone = taken.before.item.retriesDone)) :
    Following protocol Waiting (log ++ [taken]) taken.after := by
  have same : requests protocol (log ++ [taken]) = requests protocol log := by
    rw [requests_append, silent]
    rfl
  constructor
  · intro idle
    rw [started] at idle
    rw [same]
    exact ⟨(following.waiting idle).1, waits idle (following.waiting idle).2⟩
  · intro running alive
    rw [started] at running
    obtain ⟨undone, next, _⟩ := kept running alive
    rw [same, next]
    exact following.next running undone
  · intro running alive some
    rw [started] at running
    rw [same] at some ⊢
    obtain ⟨undone, _, sending⟩ := kept running alive
    obtain ⟨step, tries⟩ := following.sending running undone some
    rw [(sending step).2]
    exact ⟨(sending step).1, tries⟩

theorem Following.read {log : List (UploadStep Header Item Ack)}
    {taken : UploadStep Header Item Ack} {seq : UInt16}
    (following : Following protocol Waiting log taken.before)
    (started : taken.before.item.started = true) (undone : taken.before.item.done = false)
    (asked : request protocol taken = some seq.toNat)
    (answerable : taken.before.item.Answerable seq)
    (still : taken.after.item.started = true)
    (answered : taken.after.item.done = false → taken.after.item = taken.before.item.answered seq) :
    Following protocol Waiting (log ++ [taken]) taken.after := by
  have more : requests protocol (log ++ [taken]) = seq.toNat :: requests protocol log := by
    rw [requests_append, asked]
    rfl
  have next := following.next started undone
  rw [Answerable, next] at answerable
  constructor
  · intro idle
    rw [still] at idle
    cases idle
  · intro _ alive
    rw [answered alive, more]
    rfl
  · intro _ alive _
    rw [answered alive, more]
    refine ⟨rfl, ?_⟩
    simp only [UploadWorkItem.answered, stalled, next]
    by_cases advancing : seq.toNat = expected (requests protocol log)
    · rw [if_pos advancing.symm, if_pos advancing]
    · have some : requests protocol log ≠ [] := by
        intro none
        rw [none] at advancing answerable
        exact advancing (Nat.le_zero.mp answerable.1)
      rw [if_neg (Ne.symm advancing), if_neg advancing,
        (following.sending started undone some).2]

theorem Following.message (serving : AnswersReads protocol workItemClass Waiting)
    {log : List (UploadStep Header Item Ack)} {taken : UploadStep Header Item Ack}
    (legal : workItemClass.machine.Legal taken)
    (following : Following protocol Waiting log taken.before)
    (regular : Regular protocol log taken) (serves : Serves protocol log taken)
    {content : ListMessage Header Item} (arrived : handled protocol taken = some content) :
    Following protocol Waiting (log ++ [taken]) taken.after := by
  obtain ⟨started, undone, message, environment, here, item_eq, effects⟩ :=
    handling serving legal arrived
  have proceeds := serving.proceeds (.processMessage message) environment taken.before.item
  rw [serving.message, ← item_eq] at proceeds
  have still : taken.after.item.started = true := proceeds.started.mpr (.inr started)
  have idle : taken.before.item.started = false → Waiting taken.before.item →
      Waiting taken.after.item := by
    intro waiting
    rw [started] at waiting
    cases waiting
  cases content with
  | read seq =>
    have asked : request protocol taken = some seq.toNat := by simp only [request, arrived]
    have inside := (regular seq.toNat asked).2
    simp only [Serves, arrived] at serves
    rw [effects, processMessage_of_read here, answers_processRead_iff environment inside] at serves
    apply following.read started undone asked serves still
    intro alive
    rw [item_eq, processMessage_of_read here] at alive ⊢
    exact item_processRead serves inside alive
  | ack type =>
    have silent : request protocol taken = none := by simp only [request, arrived]
    apply following.keep silent (still.trans started.symm) idle
    intro _ alive
    rw [item_eq, processMessage_of_ack here] at alive
    cases alive
  | request | count | item =>
    have silent : request protocol taken = none := by simp only [UploadWorkItem.request, arrived]
    have same : taken.after.item = taken.before.item := by
      rw [item_eq, processMessage, here]
    apply following.keep silent (still.trans started.symm) idle
    intro _ _
    rw [same]
    exact ⟨undone, rfl, fun step => ⟨step, rfl⟩⟩

/-- `start()` begins with the first item, whatever was asked for before. -/
theorem Following.start (serving : AnswersReads protocol workItemClass Waiting)
    {log : List (UploadStep Header Item Ack)} {environment : Environment}
    {life : Life (UploadWorkItem Header Item Ack)} {outputs : List (Effect (Report Ack))}
    (callable : workItemClass.callable .start life = true)
    (following : Following protocol Waiting log life) :
    Following protocol Waiting (log ++ [⟨life, .call .start environment,
      workItemClass.afterCall .start environment life, outputs⟩])
      (workItemClass.afterCall .start environment life) := by
  have unstarted : life.item.started = false := by
    simpa [WorkItemClass.callable, serving.base] using callable
  obtain ⟨none, waiting⟩ := following.waiting unstarted
  have still : requests protocol (log ++ [⟨life, .call .start environment,
      workItemClass.afterCall .start environment life, outputs⟩]) = [] := by
    rw [requests_append, none]
    simp [request, handled, unstarted]
  have started := (serving.proceeds .start environment life.item).started.mpr (.inl rfl)
  constructor
  · intro idle
    cases started.symm.trans idle
  · intro _ alive
    rw [still]
    exact serving.starts environment life.item waiting alive
  · intro _ _ some
    exact absurd still some

theorem Following.call (serving : AnswersReads protocol workItemClass Waiting)
    {log : List (UploadStep Header Item Ack)} {call : Call} {environment : Environment}
    {life : Life (UploadWorkItem Header Item Ack)} {outputs : List (Effect (Report Ack))}
    (running : call ≠ .start) (following : Following protocol Waiting log life)
    (ignored : handled protocol ⟨life, .call call environment,
      workItemClass.afterCall call environment life, outputs⟩ = none) :
    Following protocol Waiting (log ++ [⟨life, .call call environment,
      workItemClass.afterCall call environment life, outputs⟩])
      (workItemClass.afterCall call environment life) := by
  have proceeds := serving.proceeds call environment life.item
  apply following.keep
  · simp only [request, ignored]
  · have started := proceeds.started
    simp only [running, false_or] at started
    exact Bool.eq_iff_iff.mpr started
  · exact fun _ => serving.waits call environment life.item running
  · intro started alive
    have undone : life.item.done = false := by
      by_contra ended
      have still := proceeds.done (by simpa using ended)
      cases still.symm.trans alive
    refine ⟨undone, ?_⟩
    cases call with
    | start => exact absurd rfl running
    | cancel => cases (serving.cancels environment life.item).symm.trans alive
    | processTimeout =>
      refine ⟨serving.recounts environment life.item alive, ?_⟩
      intro sending
      cases (serving.expires environment life.item sending).symm.trans alive
    | processMessage message =>
      have unknown : protocol.dispatched life.item.toWorkItem message = none := by
        simpa [handled, show life.item.started = true from started, undone] using ignored
      have same : (workItemClass.afterCall (.processMessage message) environment life).item =
          life.item := by
        simp only [WorkItemClass.afterCall, serving.message, processMessage, unknown]
      rw [same]
      exact ⟨rfl, fun sending => ⟨sending, rfl⟩⟩

private theorem following_step (serving : AnswersReads protocol workItemClass Waiting)
    (log : List (UploadStep Header Item Ack)) (taken : UploadStep Header Item Ack)
    (legal : workItemClass.machine.Legal taken)
    (following : Following protocol Waiting log taken.before)
    (regular : Regular protocol log taken) (serves : Serves protocol log taken) :
    Following protocol Waiting (log ++ [taken]) taken.after := by
  cases arrived : handled protocol taken with
  | some content => exact following.message serving legal regular serves arrived
  | none =>
    have silent : request protocol taken = none := by simp only [request, arrived]
    obtain ⟨before, event, after, effects⟩ := taken
    cases (WorkItemClass.lived legal).2 with
    | @call call environment callable =>
      by_cases start : call = .start
      · subst start
        exact following.start serving callable
      · exact following.call serving start arrived
    | select | destroy =>
      exact following.keep silent rfl (fun _ waiting => waiting)
        fun _ undone => ⟨undone, rfl, fun sending => ⟨sending, rfl⟩⟩

theorem Uploads.serving (uploads : Uploads protocol workItemClass) :
    ∃ Waiting, AnswersReads protocol workItemClass Waiting := by
  cases uploads with
  | groundStation => exact ⟨_, GroundStation.UploadWorkItem.serving⟩
  | roboticVehicle => exact ⟨_, RoboticVehicle.UploadWorkItem.serving protocol⟩

/-- For every upload of either side, and every run in which READs ask for the items in order, with
any repetitions: every READ is answered by its ITEM and an acceptance of the complete list is a
success if and only if the READs are steady. -/
theorem serves_throughout_iff (uploads : Uploads protocol workItemClass)
    {item : UploadWorkItem Header Item Ack} (created : workItemClass.Created item)
    {log : List (UploadStep Header Item Ack)} {last : Life (UploadWorkItem Header Item Ack)}
    (run : workItemClass.machine.Run { item := item } log last)
    (regular : Machine.Throughout (Regular protocol) log) :
    Machine.Throughout (Serves protocol) log ↔ Machine.Throughout (Steady protocol) log := by
  obtain ⟨Waiting, serving⟩ := uploads.serving
  obtain ⟨unstarted, waiting⟩ := serving.created item created
  have start : Following protocol Waiting [] { item := item } := by
    refine ⟨fun _ => ⟨rfl, waiting⟩, ?_, ?_⟩
    · intro started
      cases unstarted.symm.trans started
    · intro started
      cases unstarted.symm.trans started
  exact run.throughout_iff (serves_iff_steady serving) (following_step serving) regular start

/-! An upload of three waypoints. -/

def threeWaypoints : WaypointList := ⟨{}, [{ seq := 0 }, { seq := 1 }, { seq := 2 }]⟩

def readFromVehicle (seq : UInt16) (cookie : Cookie) : LifeEvent :=
  .call (.processMessage ⟨⟨1, 1⟩, ⟨255, 0⟩, .waypointList (.read seq)⟩) ⟨true, cookie⟩

/-- The READ for the first item comes a second time, late. -/
theorem reads_derailed : ¬∀ (item : UploadWorkItem PlanId WaypointItem InspectionAck)
    (log : List (UploadStep PlanId WaypointItem InspectionAck))
    (last : Life (UploadWorkItem PlanId WaypointItem InspectionAck)),
    GroundStation.UploadWorkItem.workItemClass.Created item →
      GroundStation.UploadWorkItem.workItemClass.machine.Run { item := item } log last →
        Machine.Throughout (Regular inspection) log → Machine.Throughout (Serves inspection) log := by
  intro serves
  let item := GroundStation.UploadWorkItem.create ⟨⟨255, 0⟩, ⟨1, 1⟩⟩ threeWaypoints true
  let actions : List LifeEvent := [.call .start ⟨true, 16⟩, readFromVehicle 0 32,
    readFromVehicle 1 48, readFromVehicle 0 64, readFromVehicle 2 80]
  have run := GroundStation.UploadWorkItem.workItemClass.machine.run_last { item := item } actions
    (by decide)
  let log := GroundStation.UploadWorkItem.workItemClass.machine.log { item := item } actions
  have regular : Machine.Throughout (Regular inspection) log :=
    Machine.throughout_iff_getElem.mpr (by decide)
  have inside : 4 < log.length := by decide
  have fifth := Machine.throughout_iff_getElem.mp
    (serves item _ _ ⟨_, _, _, rfl⟩ run regular) 4 inside
  have asked : handled inspection log[4] = some (.read 2) := rfl
  simp only [Serves, asked, log] at fifth
  obtain ⟨message, sent, packed, _⟩ := fifth
  have quiet : log[4].outputs = [] := rfl
  rw [quiet] at packed
  cases packed

/-- The READs for the second and the third item come twice, and then the ACK. -/
theorem serves_throughout_iff_repeated :
    let item := GroundStation.UploadWorkItem.create ⟨⟨255, 0⟩, ⟨1, 1⟩⟩ threeWaypoints true
    let actions : List LifeEvent := [.call .start ⟨true, 16⟩, readFromVehicle 0 32,
      readFromVehicle 1 48, readFromVehicle 1 64, readFromVehicle 2 80, readFromVehicle 2 96,
      .call (.processMessage ⟨⟨1, 1⟩, ⟨255, 0⟩, .waypointList (.ack 0)⟩) ⟨true, 112⟩]
    let log := GroundStation.UploadWorkItem.workItemClass.machine.log { item := item } actions
    log.length = 7 ∧
      (Machine.Throughout (Serves inspection) log ↔ Machine.Throughout (Steady inspection) log) := by
  intro item actions log
  have run := GroundStation.UploadWorkItem.workItemClass.machine.run_last { item := item } actions
    (by decide)
  have regular : Machine.Throughout (Regular inspection) log :=
    Machine.throughout_iff_getElem.mpr (by decide)
  exact ⟨by decide, serves_throughout_iff .groundStation ⟨_, _, _, rfl⟩ run regular⟩

end UploadWorkItem
end PilotingMavsdk
