import PilotingMavsdk.Proofs.Completions

/-! What `send_command` waits for. It sets its promise each time its callback is executed, so it is
answered once exactly when the queue of user callbacks takes one report only: no acknowledgement in
progress, and the final report. -/

namespace PilotingMavsdk
open Library PluginSession

namespace SendWorkItem

/-- The acknowledgement after which the item waits on. -/
def AcknowledgedInProgress (message : Message) (item : SendWorkItem) : Prop :=
  ∃ ack, dispatched item.toWorkItem message = some ack ∧
    item.command.command = ack.command ∧ ack.result = mavResultInProgress

private theorem heard_of_inProgress (environment : Environment) {message : Message}
    {item : SendWorkItem}
    (acknowledged : AcknowledgedInProgress message item) (awaited : item.callback = true) :
    ∃ ack, (workItemClass.handle (.processMessage message) environment item).heard =
      [(.inProgress, ack)] := by
  obtain ⟨ack, received, own, result⟩ := acknowledged
  refine ⟨ack, ?_⟩
  simp only [workItemClass, processMessage, received, processCommandAck, own, result, ne_eq,
    not_true_eq_false, if_false, if_true, report, awaited]
  rfl

private theorem final_callbackAndReset (result : CommandBase.Result) (final : result ≠ .inProgress)
    (item : SendWorkItem) :
    ∀ told ∈ (item.callbackAndReset result).heard, Report.terminal told = true := by
  intro told member
  rw [callbackAndReset, Outcome.heard_mk, heard_report] at member
  split at member
  · rw [List.mem_singleton.mp member]
    simpa [Report.terminal] using final
  · cases member

private theorem final_sendCommand (environment : Environment) (item : SendWorkItem) :
    ∀ told ∈ (item.sendCommand environment).heard, Report.terminal told = true := by
  rw [sendCommand, Outcome.heard_sending]
  split
  · intro told member
    cases member
  · exact final_callbackAndReset .connectionError (by decide) item

private theorem inProgress_of_heard {call : Call} {environment : Environment} {item : SendWorkItem}
    {told : Report} (heard : told ∈ (workItemClass.handle call environment item).heard)
    (progress : Report.terminal told = false) :
    ∃ message, call = .processMessage message ∧ AcknowledgedInProgress message item := by
  have absurdity (final : Report.terminal told = true) : False := by
    rw [progress] at final
    cases final
  cases call with
  | start => exact (absurdity (final_sendCommand environment _ told heard)).elim
  | cancel => exact (absurdity (final_callbackAndReset .cancelled (by decide) item told heard)).elim
  | processTimeout =>
    simp only [workItemClass, processTimeout] at heard
    split at heard
    · exact (absurdity (final_callbackAndReset .timeout (by decide) item told heard)).elim
    · exact (absurdity (final_sendCommand environment _ told heard)).elim
  | processMessage message =>
    refine ⟨message, rfl, ?_⟩
    simp only [workItemClass, processMessage] at heard
    split at heard
    next ack received =>
      simp only [processCommandAck] at heard
      split at heard
      · cases heard
      next own =>
        rw [Outcome.heard_after] at heard
        split at heard
        next result => exact ⟨ack, received, by simpa using own, result⟩
        next result =>
          exact (absurdity (final_callbackAndReset .success (by decide) _ told heard)).elim
    · cases heard

end SendWorkItem

namespace CommandImpl

/-- An acknowledgement in progress reaches the item of the call, which is not done. -/
def AcknowledgedInProgress (taken : PluginSession.Step sendCommandAsync) (call : Nat) : Prop :=
  ∃ number message environment,
    taken.action = .item number (.call (.processMessage message) environment) ∧
    ∃ life : Life SendWorkItem, taken.before.items[number]? = some (call, life) ∧
      life.item.done = false ∧ SendWorkItem.AcknowledgedInProgress message life.item

/-- The step leaves the callback of the call alone, or makes its final report into a queue that
takes it. -/
structure Heeds (call : Nat) (taken : PluginSession.Step sendCommandAsync) : Prop where
  progress : AcknowledgedInProgress taken call →
    taken.before.userCallbacks.length = userCallbackLimit
  ending : taken.before.Open call → ¬taken.after.Open call →
    taken.before.userCallbacks.length ≠ userCallbackLimit

/-- What one step hands over for the call. -/
inductive Tells (taken : PluginSession.Step sendCommandAsync) (call : Nat) : Prop where
  | idle (same : taken.after.Open call ↔ taken.before.Open call)
      (unacknowledged : ¬AcknowledgedInProgress taken call)
      (silent : reportsTo call (taken.outputs.filterMap SessionOutput.handed) = [])
  | progress (opened : taken.before.Open call) (still : taken.after.Open call)
      (acknowledged : AcknowledgedInProgress taken call) (report : sendCommandAsync.UserReport)
      (progress : sendCommandAsync.terminal report = false)
      (handed : taken.before.HandsOver taken.after call report taken.outputs)
  | ends (opened : taken.before.Open call) (closed : ¬taken.after.Open call)
      (unacknowledged : ¬AcknowledgedInProgress taken call) (report : sendCommandAsync.UserReport)
      (final : sendCommandAsync.terminal report = true)
      (handed : taken.before.HandsOver taken.after call report taken.outputs)

private theorem open_of_acknowledged {taken : PluginSession.Step sendCommandAsync}
    (sound : taken.before.Sound) {call : Nat}
    (acknowledged : AcknowledgedInProgress taken call) : taken.before.Open call := by
  obtain ⟨number, message, environment, _, life, found, running, _⟩ := acknowledged
  exact .inr (.inr ((Owns.of_item sound found).mpr running))

private theorem handsOver_of_acknowledged {taken : PluginSession.Step sendCommandAsync}
    (legal : (machine sendCommandAsync).Legal taken) (sound : taken.before.Sound) {call : Nat}
    (acknowledged : AcknowledgedInProgress taken call) :
    ∃ report, sendCommandAsync.terminal report = false ∧
      taken.before.HandsOver taken.after call report taken.outputs := by
  obtain ⟨before, action, after, outputs⟩ := taken
  obtain ⟨number, message, environment, rfl, life, found, running, acknowledged⟩ := acknowledged
  have step := stepped legal
  simp only at step sound found ⊢
  cases step with
  | @item _ owner _ other next effects placed popped lived =>
    rw [placed] at found
    cases found
    have awaited : life.item.callback = !life.item.done :=
      sound.awaited call life (List.mem_of_getElem? placed)
    rw [running] at awaited
    cases (WorkItemClass.lived lived).2 with
    | call =>
      obtain ⟨ack, heard⟩ :=
        SendWorkItem.heard_of_inProgress environment acknowledged awaited
      refine ⟨(.inProgress, ack), rfl, ?_⟩
      have told : ((sendCommandAsync.kind.workItemClass.handle (.processMessage message)
          environment life.item).effects.filterMap Effect.reported).map sendCommandAsync.convert =
          [(.inProgress, ack)] := congrArg (List.map sendCommandAsync.convert) heard
      rw [told]
      exact handsOver_handOver call _ rfl

private theorem acknowledged_of_handed {taken : PluginSession.Step sendCommandAsync}
    (legal : (machine sendCommandAsync).Legal taken) (sound : taken.before.Sound) {call : Nat}
    {report : sendCommandAsync.UserReport}
    (handed : (call, report) ∈ taken.outputs.filterMap SessionOutput.handed)
    (progress : sendCommandAsync.terminal report = false) :
    AcknowledgedInProgress taken call := by
  have origin := handedBy_step legal handed
  obtain ⟨before, action, after, outputs⟩ := taken
  simp only at origin sound
  cases origin with
  | check alive own busy =>
    rw [busy] at progress
    cases progress
  | @item number event life next effects raw found lived told converted =>
    cases converted
    have awaited := sound.awaited call life (List.mem_of_getElem? found)
    have reports := (Kind.reportsEnd_step lived awaited).2
    have running : life.item.done = false := by
      apply Bool.eq_false_iff.mpr
      intro ended
      have silent : effects.filterMap Effect.reported = [] := reports.silent ended
      rw [silent] at told
      cases told
    cases (WorkItemClass.lived lived).2 with
    | @call call environment =>
      obtain ⟨message, rfl, acknowledged⟩ := SendWorkItem.inProgress_of_heard told progress
      exact ⟨number, message, environment, rfl, life, found, running, acknowledged⟩
    | select => cases told
    | destroy => cases told

private theorem not_acknowledged_of_final {taken : PluginSession.Step sendCommandAsync}
    (legal : (machine sendCommandAsync).Legal taken) (sound : taken.before.Sound) {call : Nat}
    {report : sendCommandAsync.UserReport} (final : sendCommandAsync.terminal report = true)
    (handed : taken.before.HandsOver taken.after call report taken.outputs) :
    ¬AcknowledgedInProgress taken call := by
  intro acknowledged
  obtain ⟨other, progress, instead⟩ := handsOver_of_acknowledged legal sound acknowledged
  have same : report = other := handed.unique instead
  rw [← same, final] at progress
  cases progress

private theorem tells_step {taken : PluginSession.Step sendCommandAsync}
    (legal : (machine sendCommandAsync).Legal taken) (sound : taken.before.Sound)
    (castable : taken.before.usageType = .groundStation) (call : Nat) : Tells taken call := by
  have settles := settles_step legal sound call
  generalize answered : answers sendCommandAsync call taken.outputs = answer at settles
  cases settles with
  | kept same =>
    by_cases acknowledged : AcknowledgedInProgress taken call
    · obtain ⟨report, progress, handed⟩ := handsOver_of_acknowledged legal sound acknowledged
      have opened := open_of_acknowledged sound acknowledged
      exact .progress opened (same.mpr opened) acknowledged report progress handed
    · apply Tells.idle same acknowledged
      apply List.eq_nil_iff_forall_not_mem.mpr
      intro report told
      cases final : sendCommandAsync.terminal report with
      | true =>
        have member : report ∈ answers sendCommandAsync call taken.outputs :=
          List.mem_filter.mpr ⟨told, final⟩
        rw [answered] at member
        cases member
      | false =>
        exact acknowledged (acknowledged_of_handed legal sound (mem_reportsTo.mp told) final)
  | answered report opened closed =>
    have member : report ∈ answers sendCommandAsync call taken.outputs := by
      rw [answered]
      exact List.mem_singleton_self report
    obtain ⟨told, final⟩ := List.mem_filter.mp member
    have handed := handsOver_step legal sound (mem_reportsTo.mp told) final
    exact .ends opened closed (not_acknowledged_of_final legal sound final handed) report final
      handed
  | warned opened closed uncastable =>
    rw [castable] at uncastable
    cases uncastable

/-- The queue has taken nothing for an open call, and the final report alone for any other. -/
structure Once (session : PluginSession sendCommandAsync) (call : Nat)
    (reports : List sendCommandAsync.UserReport) : Prop where
  pending : session.Open call → reports = []
  answered : ¬session.Open call →
    ∃ report, sendCommandAsync.terminal report = true ∧ reports = [report]

theorem Once.of_same {before after : PluginSession sendCommandAsync} {call : Nat}
    {reports : List sendCommandAsync.UserReport} (same : after.Open call ↔ before.Open call) :
    Once after call reports ↔ Once before call reports := by
  constructor
  · exact fun once => ⟨fun opened => once.pending (same.mpr opened),
      fun closed => once.answered fun opened => closed (same.mp opened)⟩
  · exact fun once => ⟨fun opened => once.pending (same.mp opened),
      fun closed => once.answered fun opened => closed (same.mpr opened)⟩

/-- What the queue took for an open call was progress. -/
def Unfinished (session : PluginSession sendCommandAsync) (call : Nat)
    (reports : List sendCommandAsync.UserReport) : Prop :=
  session.Open call → ∀ report ∈ reports, sendCommandAsync.terminal report = false

private theorem once_step {taken : PluginSession.Step sendCommandAsync} {call : Nat}
    (tells : Tells taken call) {earlier : List sendCommandAsync.UserReport}
    (progress : Unfinished taken.before call earlier) :
    Once taken.after call (earlier ++ enqueued call taken.outputs) ↔
      Once taken.before call earlier ∧ Heeds call taken := by
  cases tells with
  | idle same unacknowledged silent =>
    have heeds : Heeds call taken := ⟨fun acknowledged => absurd acknowledged unacknowledged,
      fun opened closed => absurd (same.mpr opened) closed⟩
    rw [enqueued_of_silent silent, List.append_nil, Once.of_same same]
    exact (and_iff_left heeds).symm
  | progress opened still acknowledged report unfinished handed =>
    have same : taken.after.Open call ↔ taken.before.Open call := ⟨fun _ => opened, fun _ => still⟩
    have heeds : Heeds call taken ↔ taken.before.userCallbacks.length = userCallbackLimit :=
      ⟨fun heeds => heeds.progress acknowledged,
        fun full => ⟨fun _ => full, fun _ closed => absurd still closed⟩⟩
    rw [handed.enqueued_eq, Once.of_same same, heeds]
    split
    next full =>
      rw [List.append_nil]
      exact (and_iff_left full).symm
    next space =>
      constructor
      · intro once
        have nothing := once.pending opened
        simp at nothing
      · exact fun both => absurd both.2 space
  | ends opened closed unacknowledged report final handed =>
    have heeds : Heeds call taken ↔ taken.before.userCallbacks.length ≠ userCallbackLimit :=
      ⟨fun heeds => heeds.ending opened closed,
        fun space => ⟨fun acknowledged => absurd acknowledged unacknowledged, fun _ _ => space⟩⟩
    rw [handed.enqueued_eq, heeds]
    split
    next full =>
      constructor
      · intro once
        obtain ⟨told, final, only⟩ := once.answered closed
        have member : told ∈ earlier := by
          rw [List.append_nil] at only
          rw [only]
          exact List.mem_singleton_self told
        have unfinished := progress opened told member
        rw [final] at unfinished
        cases unfinished
      · exact fun both => absurd full both.2
    next space =>
      constructor
      · intro once
        obtain ⟨told, _, only⟩ := once.answered closed
        have nothing : earlier = [] := by
          cases earlier with
          | nil => rfl
          | cons first rest => simp at only
        exact ⟨⟨fun _ => nothing, fun closed => absurd opened closed⟩, space⟩
      · intro ⟨once, _⟩
        rw [once.pending opened]
        exact ⟨fun opened => absurd opened closed, fun _ => ⟨report, final, rfl⟩⟩

private theorem unfinished_step {taken : PluginSession.Step sendCommandAsync} {call : Nat}
    (tells : Tells taken call) {earlier : List sendCommandAsync.UserReport}
    (progress : Unfinished taken.before call earlier) :
    Unfinished taken.after call (earlier ++ enqueued call taken.outputs) := by
  intro opened
  cases tells with
  | idle same unacknowledged silent =>
    rw [enqueued_of_silent silent, List.append_nil]
    exact progress (same.mp opened)
  | progress earlierOpened still acknowledged report unfinished handed =>
    rw [handed.enqueued_eq]
    intro told member
    rcases List.mem_append.mp member with member | member
    · exact progress earlierOpened told member
    · split at member
      · cases member
      · rw [List.mem_singleton.mp member]
        exact unfinished
  | ends _ closed => exact absurd opened closed

private theorem once_run {sender : Sender} {waiting : Nat} {call : Nat}
    {log : List (PluginSession.Step sendCommandAsync)} {last : PluginSession sendCommandAsync}
    (run : (machine sendCommandAsync).Run
      (start sendCommandAsync .groundStation sender waiting) log last) :
    (Once last call (enqueued call (log.flatMap Taken.outputs)) ↔
      ∀ taken ∈ log, Heeds call taken) ∧
    Unfinished last call (enqueued call (log.flatMap Taken.outputs)) := by
  induction run with
  | nil =>
    refine ⟨⟨fun _ => by simp, fun _ => ⟨fun _ => rfl, ?_⟩⟩, fun _ => by simp [enqueued]⟩
    exact fun closed => absurd (.inl (Nat.zero_le _)) closed
  | @snoc log taken run legal ih =>
    obtain ⟨once, unfinished⟩ := ih
    obtain ⟨sound, castable, _⟩ := settled_run run call
    have tells := tells_step legal sound castable call
    have here : [taken].flatMap Taken.outputs = taken.outputs := by simp
    rw [List.flatMap_append, here, enqueued_append]
    refine ⟨?_, unfinished_step tells unfinished⟩
    rw [once_step tells unfinished, once]
    simp [or_imp, forall_and]

def completions (call : Nat) (outputs : List (SessionOutput sendCommandAsync.UserReport)) :
    List sendCommandAsync.UserReport :=
  reportsTo call (outputs.filterMap SessionOutput.run)

/-- The completion function is not executed before the command has ended, and then once: it has
been, with a final result, or it waits to be. -/
inductive AnsweredOnce (session : PluginSession sendCommandAsync) (call : Nat)
    (outputs : List (SessionOutput sendCommandAsync.UserReport)) : Prop where
  | pending (opened : session.Open call) (unheard : completions call outputs = [])
      (unqueued : reportsTo call session.reportsWaiting = [])
  | queued (closed : ¬session.Open call) (report : sendCommandAsync.UserReport)
      (final : sendCommandAsync.terminal report = true) (unheard : completions call outputs = [])
      (queued : reportsTo call session.reportsWaiting = [report])
  | answered (closed : ¬session.Open call) (report : sendCommandAsync.UserReport)
      (final : sendCommandAsync.terminal report = true)
      (heard : completions call outputs = [report])
      (unqueued : reportsTo call session.reportsWaiting = [])

private theorem answeredOnce_iff {session : PluginSession sendCommandAsync} {call : Nat}
    {outputs : List (SessionOutput sendCommandAsync.UserReport)} :
    AnsweredOnce session call outputs ↔
      Once session call (completions call outputs ++ reportsTo call session.reportsWaiting) := by
  constructor
  · intro answered
    cases answered with
    | pending opened unheard unqueued =>
      rw [unheard, unqueued]
      exact ⟨fun _ => rfl, fun closed => absurd opened closed⟩
    | queued closed report final unheard queued =>
      rw [unheard, queued]
      exact ⟨fun opened => absurd opened closed, fun _ => ⟨report, final, rfl⟩⟩
    | answered closed report final heard unqueued =>
      rw [heard, unqueued]
      exact ⟨fun opened => absurd opened closed, fun _ => ⟨report, final, rfl⟩⟩
  · intro once
    by_cases opened : session.Open call
    · obtain ⟨unheard, unqueued⟩ := List.append_eq_nil_iff.mp (once.pending opened)
      exact .pending opened unheard unqueued
    · obtain ⟨report, final, only⟩ := once.answered opened
      rcases List.append_eq_singleton_iff.mp only with ⟨unheard, queued⟩ | ⟨heard, unqueued⟩
      · exact .queued opened report final unheard queued
      · exact .answered opened report final heard unqueued

/-- A blocking `send_command` is answered once and finally exactly in the sessions in which each
acknowledgement in progress meets a full queue of user callbacks, and the end of the command one
that is not full. -/
theorem answered_once_iff {sender : Sender} {waiting : Nat}
    {log : List (PluginSession.Step sendCommandAsync)} {last : PluginSession sendCommandAsync}
    (run : (machine sendCommandAsync).Run
      (start sendCommandAsync .groundStation sender waiting) log last) (call : Nat) :
    AnsweredOnce last call (log.flatMap Taken.outputs) ↔ ∀ taken ∈ log, Heeds call taken := by
  have queue := congrArg (reportsTo call) (reportsWaiting_run run)
  rw [reportsTo_append] at queue
  rw [answeredOnce_iff]
  unfold completions
  rw [queue]
  exact (once_run run).1

/-- A command that is in progress sets the promise twice, and the first time with `InProgress`. -/
theorem answered_twice :
    let station := start sendCommandAsync .groundStation ⟨⟨245, 190⟩, ⟨1, 1⟩⟩ 0
    let command : CommandBase.CommandLong := { command := 400 }
    let ack (result : UInt8) : Message :=
      ⟨⟨1, 1⟩, ⟨245, 190⟩, .commandAck { command := 400, result := result }⟩
    let actions : List (SessionAction CommandBase.CommandLong) := [.check, .pushBack 0 command,
      .assign 0, .item 0 (.call .start ⟨true, 1⟩),
      .item 0 (.call (.processMessage (ack 5)) ⟨true, 2⟩),
      .item 0 (.call (.processMessage (ack 0)) ⟨true, 3⟩), .runCallback, .runCallback]
    let log := (machine sendCommandAsync).log station actions
    let last := (machine sendCommandAsync).last station actions
    log.length = 8 ∧
      (completions 0 (log.flatMap Taken.outputs)).map Prod.fst = [.inProgress, .success] ∧
      ¬AnsweredOnce last 0 (log.flatMap Taken.outputs) := by
  intro station command ack actions log last
  have twice : (completions 0 (log.flatMap Taken.outputs)).length = 2 := by decide
  refine ⟨by decide, by decide, ?_⟩
  intro answered
  cases answered with
  | pending _ unheard => rw [unheard] at twice; cases twice
  | queued _ _ _ unheard => rw [unheard] at twice; cases twice
  | answered _ _ _ heard => rw [heard] at twice; cases twice

theorem answered_once_iff_direct :
    let station := start sendCommandAsync .groundStation ⟨⟨245, 190⟩, ⟨1, 1⟩⟩ 0
    let command : CommandBase.CommandLong := { command := 400 }
    let ack : Message := ⟨⟨1, 1⟩, ⟨245, 190⟩, .commandAck { command := 400, result := 0 }⟩
    let actions : List (SessionAction CommandBase.CommandLong) := [.check, .pushBack 0 command,
      .assign 0, .item 0 (.call .start ⟨true, 1⟩),
      .item 0 (.call (.processMessage ack) ⟨true, 2⟩), .runCallback]
    let log := (machine sendCommandAsync).log station actions
    let last := (machine sendCommandAsync).last station actions
    log.length = 6 ∧ (completions 0 (log.flatMap Taken.outputs)).map Prod.fst = [.success] ∧
      (AnsweredOnce last 0 (log.flatMap Taken.outputs) ↔ ∀ taken ∈ log, Heeds 0 taken) := by
  intro station command ack actions log last
  have run := (machine sendCommandAsync).run_last station actions (by decide)
  exact ⟨by decide, by decide, answered_once_iff run 0⟩

end CommandImpl
end PilotingMavsdk
