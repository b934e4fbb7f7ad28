import PilotingMavsdk.Proofs.PluginSession

/-! Why a client that waits for each answer can still be answered `Busy`. What it waits for tells it
that the item is done; the weak pointer asks whether `do_work` has destroyed it. -/

namespace PilotingMavsdk
open Library

namespace PluginSession
variable {request : PluginRequest} {usageType : UsageType} {sender : Sender} {waiting : Nat}

/-- Each call begins after the final callback of every call before it has been executed. -/
def Sequential (log : List (Step request)) : Prop :=
  ∀ position, (inside : position < log.length) → log[position].action = .check →
    ∀ call < log[position].before.calls.length,
      ∃ told ∈ ((log.take position).flatMap Taken.outputs).filterMap SessionOutput.run,
        told.1 = call ∧ request.terminal told.2 = true

instance (log : List (Step request)) [DecidableEq request.Arguments] : Decidable (Sequential log) :=
  inferInstanceAs (Decidable (∀ position, (_ : position < log.length) → _))

/-- The call is not answered `Busy`. -/
def Admitted (taken : Step request) : Prop :=
  taken.action = .check → taken.outputs.filterMap SessionOutput.handed = []

instance (taken : Step request) [DecidableEq request.Arguments] : Decidable (Admitted taken) :=
  inferInstanceAs (Decidable (_ → _))

/-- By the time of a call `do_work` has dropped the last item, if that is done. -/
def Dropped (taken : Step request) : Prop :=
  taken.action = .check → ∀ number call life, taken.before.last = some number →
    taken.before.items[number]? = some (call, life) →
      (request.kind.workItemClass.base life.item).done = true → life.destroyed = true

private theorem not_open_of_run {log : List (Step request)} {last : PluginSession request}
    (run : (machine request).Run (start request usageType sender waiting) log last) {call : Nat}
    {report : request.UserReport} (final : request.terminal report = true)
    (executed : (call, report) ∈ (log.flatMap Taken.outputs).filterMap SessionOutput.run) :
    ¬last.Open call := by
  intro opened
  have taken : (call, report) ∈ (log.flatMap Taken.outputs).filterMap SessionOutput.taken := by
    rw [← reportsWaiting_run run]
    exact List.mem_append_left _ executed
  have answer : report ∈ answers request call (log.flatMap Taken.outputs) := by
    apply List.mem_filter.mpr
    exact ⟨mem_reportsTo.mpr (handed_of_taken taken), final⟩
  rw [(settled_run run call).2.2.pending opened] at answer
  cases answer

/-- Of calls that are all over, the last item stands in the way exactly as long as it exists. -/
private theorem admitted_iff_dropped {taken : Step request} (legal : (machine request).Legal taken)
    (sound : taken.before.Sound) (closedBefore : taken.action = .check →
      ∀ call < taken.before.calls.length, ¬taken.before.Open call) :
    Admitted taken ↔ Dropped taken := by
  obtain ⟨before, action, after, outputs⟩ := taken
  have step := stepped legal
  simp only [Admitted, Dropped] at step sound closedBefore ⊢
  constructor
  · rintro admitted rfl number call life last found _
    cases step with
    | busy =>
      have silent := admitted rfl
      rw [handed_handOver] at silent
      cases silent
    | checked free gone => simpa [lastAlive, last, found] using gone
  · rintro dropped rfl
    cases step with
    | busy free alive =>
      simp only [lastAlive] at alive
      split at alive
      · cases alive
      next number last =>
        split at alive
        next call life found =>
          have inside := (sound.made call life (List.mem_of_getElem? found)).1
          have closed : ¬before.Owns call :=
            fun owns => closedBefore rfl call inside (.inr (.inr owns))
          rw [Owns.of_item sound found, Bool.not_eq_false] at closed
          rw [dropped rfl number call life last found closed] at alive
          cases alive
        · cases alive
    | checked => rfl

/-- A client that waits for each answer is never answered `Busy` exactly in the runs in which
`do_work` drops each item of the plugin between its end and the next call. -/
theorem no_spurious_busy_iff {log : List (Step request)} {last : PluginSession request}
    (run : (machine request).Run (start request usageType sender waiting) log last)
    (sequential : Sequential log) :
    (∀ taken ∈ log, Admitted taken) ↔ ∀ taken ∈ log, Dropped taken := by
  have agree (taken : Step request) (member : taken ∈ log) : Admitted taken ↔ Dropped taken := by
    obtain ⟨position, inside, rfl⟩ := List.mem_iff_getElem.mp member
    have split : log = log.take position ++ log[position] :: log.drop (position + 1) := by
      rw [← List.drop_eq_getElem_cons inside, List.take_append_drop]
    obtain ⟨before, legal, _⟩ := run.at split
    apply admitted_iff_dropped legal (settled_run before 0).1
    intro check call made
    obtain ⟨⟨_, report⟩, executed, rfl, final⟩ := sequential position inside check call made
    exact not_open_of_run before final executed
  exact forall₂_congr agree

/-- A command is sent, acknowledged and told to be so, and the next one is refused before the next
`do_work`. -/
theorem spuriously_busy :
    let station := start CommandImpl.sendCommandAsync .groundStation ⟨⟨245, 190⟩, ⟨1, 1⟩⟩ 0
    let command : CommandBase.CommandLong := { command := 400 }
    let ack : Message := ⟨⟨1, 1⟩, ⟨245, 190⟩, .commandAck { command := 400, result := 0 }⟩
    let actions : List (SessionAction CommandBase.CommandLong) := [.check, .pushBack 0 command,
      .assign 0, .item 0 (.call .start ⟨true, 1⟩),
      .item 0 (.call (.processMessage ack) ⟨true, 2⟩), .runCallback, .check]
    let log := (machine CommandImpl.sendCommandAsync).log station actions
    log.length = 7 ∧ Sequential log ∧ ¬∀ taken ∈ log, Admitted taken := by
  decide

theorem no_spurious_busy_iff_dropped :
    let station := start CommandImpl.sendCommandAsync .groundStation ⟨⟨245, 190⟩, ⟨1, 1⟩⟩ 0
    let command : CommandBase.CommandLong := { command := 400 }
    let ack : Message := ⟨⟨1, 1⟩, ⟨245, 190⟩, .commandAck { command := 400, result := 0 }⟩
    let actions : List (SessionAction CommandBase.CommandLong) := [.check, .pushBack 0 command,
      .assign 0, .item 0 (.call .start ⟨true, 1⟩),
      .item 0 (.call (.processMessage ack) ⟨true, 2⟩), .runCallback, .item 0 .destroy, .check]
    let log := (machine CommandImpl.sendCommandAsync).log station actions
    log.length = 8 ∧ Sequential log ∧
      ((∀ taken ∈ log, Admitted taken) ↔ ∀ taken ∈ log, Dropped taken) := by
  intro station command ack actions log
  have run := (machine CommandImpl.sendCommandAsync).run_last station actions (by decide)
  have sequential : Sequential log := by decide
  exact ⟨by decide, sequential, no_spurious_busy_iff run sequential⟩

end PluginSession
end PilotingMavsdk
