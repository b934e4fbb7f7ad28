import PilotingMavsdk.Proofs.Finality

/-! The one report that ends an item. Whatever ends an item empties its callback in the same step,
so nothing is left to be called later. -/

namespace PilotingMavsdk
open Library

/-- Somebody waits for a report exactly as long as the item is not done. -/
def WorkItem.Awaited (item : WorkItem) : Prop := item.callback = !item.done

/-- The user hears the end in the step that ends the item, only there, and nothing later. -/
structure WorkItem.ReportsEnd {Report : Type} (terminal : Report → Bool) (before after : WorkItem)
    (reports : List Report) : Prop where
  stays : before.done = true → after.done = true
  silent : before.done = true → reports = []
  ends : before.done = false → after.done = true →
    ∃ report, terminal report = true ∧ reports = [report]
  goes_on : after.done = false → ∀ report ∈ reports, terminal report = false

namespace WorkItem
variable {Report : Type} {terminal : Report → Bool} {call : Call} {before after : WorkItem}
  {reports : List Report}

theorem Reporting.awaited (reporting : before.Reporting terminal call after reports)
    (awaited : before.Awaited) : after.Awaited := by
  unfold Awaited at awaited ⊢
  cases reporting with
  | going goesOn => rw [goesOn.callback, goesOn.done, awaited]
  | ending _ _ done callback => rw [callback, done]; rfl

private theorem Reporting.reportsEnd (reporting : before.Reporting terminal call after reports)
    (awaited : before.Awaited) : before.ReportsEnd terminal after reports := by
  unfold Awaited at awaited
  cases reporting with
  | going goesOn progress addressed =>
    constructor
    · intro ended
      rwa [goesOn.done]
    · intro ended
      apply addressed
      rw [awaited, ended]
      rfl
    · intro running ended
      rw [goesOn.done, running] at ended
      cases ended
    · exact fun _ => progress
  | @ending report final _ done callback =>
    constructor
    · exact fun _ => done
    · intro ended
      rw [awaited, ended]
      rfl
    · intro running _
      refine ⟨report, final, ?_⟩
      rw [awaited, running]
      rfl
    · intro running
      rw [done] at running
      cases running

theorem ReportsEnd.unchanged (before : WorkItem) : before.ReportsEnd terminal before [] := by
  refine ⟨id, fun _ => rfl, ?_, fun _ => nofun⟩
  intro running ended
  rw [running] at ended
  cases ended

theorem ReportsEnd.alone (reportsEnd : before.ReportsEnd terminal after reports) {report : Report}
    (told : report ∈ reports) (final : terminal report = true) :
    before.done = false ∧ after.done = true ∧ reports = [report] := by
  cases running : before.done with
  | true =>
    rw [reportsEnd.silent running] at told
    cases told
  | false =>
    cases ended : after.done with
    | true =>
      obtain ⟨only, _, rfl⟩ := reportsEnd.ends running ended
      rw [List.mem_singleton.mp told]
      exact ⟨rfl, rfl, rfl⟩
    | false =>
      rw [reportsEnd.goes_on ended report told] at final
      cases final

theorem ReportsEnd.count (reportsEnd : before.ReportsEnd terminal after reports) :
    (if before.done then 1 else 0) + (reports.filter terminal).length =
      if after.done then 1 else 0 := by
  cases running : before.done with
  | true =>
    rw [reportsEnd.silent running, reportsEnd.stays running]
    rfl
  | false =>
    cases ended : after.done with
    | true =>
      obtain ⟨report, final, rfl⟩ := reportsEnd.ends running ended
      simp [final]
    | false =>
      have none : reports.filter terminal = [] := by
        apply List.filter_eq_nil_iff.mpr
        intro report member
        rw [reportsEnd.goes_on ended report member]
        nofun
      rw [none]
      rfl

end WorkItem

namespace Kind

variable (kind : Kind)

def heard (taken : kind.Step) : List kind.Report :=
  taken.outputs.filterMap Effect.reported

def ReportsEnd (taken : kind.Step) : Prop :=
  (kind.workItemClass.base taken.before.item).ReportsEnd kind.terminal
    (kind.workItemClass.base taken.after.item) (kind.heard taken)

variable {kind}

theorem reportsEnd_step {taken : kind.Step}
    (legal : kind.workItemClass.machine.Legal taken)
    (awaited : (kind.workItemClass.base taken.before.item).Awaited) :
    (kind.workItemClass.base taken.after.item).Awaited ∧ kind.ReportsEnd taken := by
  obtain ⟨before, event, after, effects⟩ := taken
  obtain ⟨_, lived⟩ := WorkItemClass.lived legal
  cases lived with
  | @call call environment =>
    have reporting := kind.reporting_handle call environment before.item
    exact ⟨reporting.awaited awaited, reporting.reportsEnd awaited⟩
  | select => exact ⟨awaited, .unchanged _⟩
  | destroy => exact ⟨awaited, .unchanged _⟩

/-- In the life of an item that was given a callback, every step reports as it should, and so at
most one final report is made in all. -/
theorem one_final_report (kind : Kind) {item : kind.State}
    (created : kind.workItemClass.Created item)
    (requested : (kind.workItemClass.base item).callback = true)
    {log : List kind.Step} {last : Life kind.State}
    (run : kind.workItemClass.machine.Run { item := item } log last) :
    (∀ taken ∈ log, kind.ReportsEnd taken) ∧
      ((log.flatMap kind.heard).filter kind.terminal).length =
        if (kind.workItemClass.base last.item).done then 1 else 0 := by
  have running := (kind.created_fields created).2.1
  have together : (∀ taken ∈ log, kind.ReportsEnd taken) ∧
      (kind.workItemClass.base last.item).Awaited ∧
      ((log.flatMap kind.heard).filter kind.terminal).length =
        if (kind.workItemClass.base last.item).done then 1 else 0 := by
    induction run with
    | nil =>
      refine ⟨by simp, ?_, ?_⟩
      · simp [WorkItem.Awaited, requested, running]
      · simp [running]
    | @snoc log taken run legal ih =>
      obtain ⟨earlier, awaited, count⟩ := ih
      obtain ⟨still, here⟩ := reportsEnd_step legal awaited
      refine ⟨?_, still, ?_⟩
      · intro other member
        rcases List.mem_append.mp member with member | member
        · exact earlier other member
        · rwa [List.mem_singleton.mp member]
      · rw [List.flatMap_append, List.filter_append, List.length_append, count]
        simpa using here.count
  exact ⟨together.1, together.2.2⟩

/-- A command in progress is reported twice, and a second final acknowledgement not at all. -/
theorem one_final_report_in_progress :
    let item : commandSend.State :=
      SendWorkItem.create ⟨⟨245, 190⟩, ⟨1, 1⟩⟩ { command := 400 } true
    let ack (result : UInt8) : Message :=
      ⟨⟨1, 1⟩, ⟨245, 190⟩, .commandAck { command := 400, result := result }⟩
    let events : List LifeEvent := [.call .start ⟨true, 1⟩,
      .call (.processMessage (ack 5)) ⟨true, 2⟩, .call (.processMessage (ack 0)) ⟨true, 3⟩,
      .call (.processMessage (ack 0)) ⟨true, 4⟩, .destroy]
    let log := commandSend.workItemClass.machine.log { item := item } events
    log.length = 5 ∧ (∀ taken ∈ log, commandSend.ReportsEnd taken) ∧
      ((log.flatMap commandSend.heard).filter commandSend.terminal).length = 1 := by
  intro item ack events log
  have run := commandSend.workItemClass.machine.run_last { item := item } events (by decide)
  have reported := one_final_report commandSend ⟨_, _, _, rfl⟩ rfl run
  refine ⟨by decide, reported.1, ?_⟩
  have ended : (commandSend.workItemClass.base (commandSend.workItemClass.machine.last
      { item := item } events).item).done = true := by decide
  rw [reported.2, ended]
  rfl

end Kind
end PilotingMavsdk
