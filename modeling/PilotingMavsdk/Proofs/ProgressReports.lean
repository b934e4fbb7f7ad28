import PilotingMavsdk.InspectionProgress

/-! What a progress report says about the message that caused it. The message's item is stored in
one critical section and read in another; a reset between them is reported in its place. -/

namespace PilotingMavsdk
open Library

namespace ProgressMessage

def seq : ProgressMessage → UInt16
  | waypointListCurrentItem seq | waypointListItemReached seq => seq

def item : ProgressMessage → InspectionProgress → Int
  | waypointListCurrentItem _, progress => progress.current
  | waypointListItemReached _, progress => progress.reached

end ProgressMessage

def InspectionData.reported (data : InspectionData) : InspectionProgress where
  current := data.lastCurrentReportedInspectionItem
  reached := data.lastReachedReportedInspectionItem

namespace ProgressReporter

abbrev Step := Taken ProgressReporter ProgressAction InspectionProgress

def Resets : ProgressAction → Prop
  | .uploadInspectionAsync busy => busy = false
  | .disable => True
  | .processMessage _ | .reportProgress | .inspectionProgressAsync _ => False

def Registers : ProgressAction → Prop
  | .inspectionProgressAsync _ => True
  | .processMessage _ | .reportProgress | .uploadInspectionAsync _ | .disable => False

/-- A report has the number of the message for which it is made. -/
def Carries (taken : Step) : Prop :=
  ∀ message, taken.before.reporting = some message →
    ∀ progress ∈ taken.outputs, message.item progress = message.seq.toNat

def Uneventful (taken : Step) : Prop :=
  taken.outputs = [] ∧ ¬Resets taken.action ∧ ¬Registers taken.action

/-- Consecutive reports to a callback, without a reset between them, differ. -/
def Distinct (log : List Step) : Prop :=
  ∀ earlier first between second later, log = earlier ++ first :: (between ++ second :: later) →
    (∀ taken ∈ between, Uneventful taken) →
      ∀ progress ∈ first.outputs, ∀ next ∈ second.outputs, progress ≠ next

/-- Whether there has been a reset since the last message was stored. -/
def interrupted (log : List Step) : Bool :=
  log.foldl (fun reset taken => match taken.action with
    | .processMessage _ => false
    | .uploadInspectionAsync busy => reset || !busy
    | .disable => true
    | .reportProgress | .inspectionProgressAsync _ => reset) false

/-- A report that somebody waits for follows its message without a reset. -/
def OnTime (earlier : List Step) (taken : Step) : Prop :=
  taken.action = .reportProgress → taken.before.inspectionData.progressCallback = true →
    interrupted earlier = false

structure Stores (message : ProgressMessage) (before after : InspectionData) (report : Bool) :
    Prop where
  item : message.item after.inspectionProgress = message.seq.toNat
  report : report = true ↔ message.item before.reported ≠ message.seq.toNat
  reported : after.reported = before.reported
  callback : after.progressCallback = before.progressCallback

theorem stores (message : ProgressMessage) (data : InspectionData) :
    Stores message data (process message data).1 (process message data).2 := by
  cases message with
  | waypointListCurrentItem seq => exact ⟨rfl, decide_eq_true_iff, rfl, rfl⟩
  | waypointListItemReached seq => exact ⟨rfl, decide_eq_true_iff, rfl, rfl⟩

private theorem item_reset (message : ProgressMessage) (data : InspectionData) :
    message.item data.resetInspectionProgress.inspectionProgress = -1 := by
  cases message <;> rfl

inductive Stepped (reporter : ProgressReporter) :
    ProgressAction → ProgressReporter → List InspectionProgress → Prop where
  | processMessage {message : ProgressMessage} (idle : reporter.reporting = none) :
      Stepped reporter (.processMessage message)
        ⟨(process message reporter.inspectionData).1,
          if (process message reporter.inspectionData).2 then some message else none⟩ []
  | reportProgress {message : ProgressMessage} (reporting : reporter.reporting = some message) :
      Stepped reporter .reportProgress ⟨reporter.inspectionData.reportProgress.1, none⟩
        reporter.inspectionData.reportProgress.2
  | busy : Stepped reporter (.uploadInspectionAsync true) reporter []
  | uploadInspectionAsync : Stepped reporter (.uploadInspectionAsync false)
      { reporter with inspectionData := reporter.inspectionData.resetInspectionProgress } []
  | disable : Stepped reporter .disable
      { reporter with inspectionData := reporter.inspectionData.resetInspectionProgress } []
  | inspectionProgressAsync {callback : Bool} :
      Stepped reporter (.inspectionProgressAsync callback)
        { reporter with
          inspectionData := { reporter.inspectionData with progressCallback := callback } } []

theorem stepped {before after : ProgressReporter} {action : ProgressAction}
    {outputs : List InspectionProgress} (step : machine.step before action = some (after, outputs)) :
    Stepped before action after outputs := by
  simp only [machine] at step
  cases action with
  | processMessage message =>
    simp only at step
    split at step
    · cases step
    next idle =>
      cases step
      exact .processMessage idle
  | reportProgress =>
    simp only at step
    split at step
    · cases step
    next message reporting =>
      cases step
      exact .reportProgress reporting
  | uploadInspectionAsync busy =>
    cases busy with
    | true => cases step; exact .busy
    | false => cases step; exact .uploadInspectionAsync
  | disable => cases step; exact .disable
  | inspectionProgressAsync callback => cases step; exact .inspectionProgressAsync

/-- The item of the message that is to be reported, or what is left of it after a reset. -/
def Kept (log : List Step) (reporter : ProgressReporter) : Prop :=
  ∀ message, reporter.reporting = some message →
    message.item reporter.inspectionData.inspectionProgress =
      if interrupted log then -1 else (message.seq.toNat : Int)

private theorem interrupted_snoc (log : List Step) (taken : Step) :
    interrupted (log ++ [taken]) = match taken.action with
      | .processMessage _ => false
      | .uploadInspectionAsync busy => interrupted log || !busy
      | .disable => true
      | .reportProgress | .inspectionProgressAsync _ => interrupted log := by
  rw [interrupted, List.foldl_append]
  rfl

private theorem step_kept (log : List Step) {taken : Step} (legal : machine.Legal taken)
    (kept : Kept log taken.before) : Kept (log ++ [taken]) taken.after := by
  obtain ⟨before, action, after, outputs⟩ := taken
  have step : machine.step before action = some (after, outputs) := legal
  intro message reporting
  rw [interrupted_snoc]
  cases stepped step with
  | @processMessage received =>
    simp only at reporting
    split at reporting
    · cases reporting
      exact (stores message before.inspectionData).item
    · cases reporting
  | reportProgress => cases reporting
  | busy => simpa using kept message reporting
  | uploadInspectionAsync => simpa using item_reset message before.inspectionData
  | disable => exact item_reset message before.inspectionData
  | inspectionProgressAsync => exact kept message reporting

private theorem carries_iff {log : List Step} {taken : Step} (legal : machine.Legal taken)
    (kept : Kept log taken.before) : Carries taken ↔ OnTime log taken := by
  obtain ⟨before, action, after, outputs⟩ := taken
  have step : machine.step before action = some (after, outputs) := legal
  cases stepped step with
  | @reportProgress message reporting =>
    have item := kept message reporting
    simp only [Carries, OnTime, reporting, Option.some_inj, forall_eq', forall_const,
      InspectionData.reportProgress]
    cases before.inspectionData.progressCallback with
    | false => simp
    | true =>
      simp only [if_true, List.mem_singleton, forall_eq, forall_const, item]
      cases interrupted log with
      | false => simp
      | true =>
        have negative : (-1 : Int) ≠ (message.seq.toNat : Int) := by omega
        simp [negative]
  | processMessage | busy | uploadInspectionAsync | disable | inspectionProgressAsync =>
    simp [Carries, OnTime]

private theorem carries_throughout_iff {log : List Step} {last : ProgressReporter}
    (run : machine.Run {} log last) :
    (∀ taken ∈ log, Carries taken) ↔ Machine.Throughout OnTime log := by
  have start : Kept [] {} := nofun
  have allowed : Machine.Throughout (fun _ (_ : Step) => True) log := fun _ _ _ _ => trivial
  have both : Machine.Throughout (fun _ => Carries) log ↔ Machine.Throughout OnTime log := by
    refine run.throughout_iff ?_ ?_ allowed start
    · exact fun log taken legal kept _ => carries_iff legal kept
    · exact fun log taken legal kept _ _ => step_kept log legal kept
  rw [← both]
  constructor
  · intro all earlier taken later split
    exact all taken (by simp [split])
  · intro all taken member
    obtain ⟨earlier, later, split⟩ := List.append_of_mem member
    exact all earlier taken later split

/-- Since this was reported nothing else has been, and what is about to be reported differs. -/
structure Since (progress : InspectionProgress) (reporter : ProgressReporter) : Prop where
  reported : reporter.inspectionData.reported = progress
  callback : reporter.inspectionData.progressCallback = true
  differs : ∀ message, reporter.reporting = some message →
    message.item reporter.inspectionData.inspectionProgress ≠ message.item progress

private theorem since_report {taken : Step} (legal : machine.Legal taken)
    {progress : InspectionProgress}
    (reported : progress ∈ taken.outputs) : Since progress taken.after ∧
      (∃ message, taken.before.reporting = some message) ∧
      progress = taken.before.inspectionData.inspectionProgress := by
  obtain ⟨before, action, after, outputs⟩ := taken
  have step : machine.step before action = some (after, outputs) := legal
  cases stepped step with
  | @reportProgress message reporting =>
    simp only [InspectionData.reportProgress] at reported ⊢
    split at reported
    next callback =>
      rw [List.mem_singleton.mp reported]
      exact ⟨⟨rfl, callback, nofun⟩, ⟨message, reporting⟩, rfl⟩
    · cases reported
  | processMessage | busy | uploadInspectionAsync | disable | inspectionProgressAsync =>
    cases reported

private theorem step_since {taken : Step} (legal : machine.Legal taken)
    (uneventful : Uneventful taken)
    {progress : InspectionProgress} (since : Since progress taken.before) :
    Since progress taken.after := by
  obtain ⟨before, action, after, outputs⟩ := taken
  obtain ⟨silent, keeps, same⟩ := uneventful
  have step : machine.step before action = some (after, outputs) := legal
  cases stepped step with
  | @processMessage received =>
    have stored := stores received before.inspectionData
    refine ⟨stored.reported.trans since.reported, stored.callback.trans since.callback, ?_⟩
    intro message reporting
    simp only at reporting
    split at reporting
    next report =>
      cases reporting
      rw [stored.item, ← since.reported]
      exact (stored.report.mp report).symm
    · cases reporting
  | reportProgress =>
    have callback : before.inspectionData.progressCallback = true := since.callback
    simp [InspectionData.reportProgress, callback] at silent
  | busy => exact since
  | uploadInspectionAsync => exact absurd rfl keeps
  | disable => exact absurd trivial keeps
  | inspectionProgressAsync => exact absurd trivial same

theorem distinct {log : List Step} {last : ProgressReporter} (run : machine.Run {} log last) :
    Distinct log := by
  intro earlier first between second later split uneventful progress reported next following
  obtain ⟨_, legal, rest⟩ := run.at split
  obtain ⟨middle, again, _⟩ := rest.at rfl
  have start := (since_report legal reported).1
  have since : Since progress second.before :=
    (middle.guarded (fun _ legal quiet => step_since legal quiet) uneventful start).1
  obtain ⟨_, ⟨message, reporting⟩, same⟩ := since_report again following
  have differs := since.differs message reporting
  rw [← same] at differs
  rintro rfl
  exact differs rfl

/-- In every run, reports carry the items of their messages and consecutive ones differ, if and
only if no reset comes between storing an item and reporting it to a callback. -/
theorem progress_reports_iff {log : List Step} {last : ProgressReporter}
    (run : machine.Run {} log last) :
    ((∀ taken ∈ log, Carries taken) ∧ Distinct log) ↔ Machine.Throughout OnTime log := by
  rw [← carries_throughout_iff run]
  exact and_iff_left (distinct run)

/-- Two reports of the same inspection, a new upload, and a report of the next one. -/
theorem progress_reports_two_inspections :
    let log := machine.log {} [.inspectionProgressAsync true,
      .processMessage (.waypointListCurrentItem 3), .reportProgress,
      .processMessage (.waypointListItemReached 3), .reportProgress,
      .uploadInspectionAsync false, .processMessage (.waypointListCurrentItem 0), .reportProgress]
    log.flatMap Taken.outputs = [⟨3, -1⟩, ⟨3, 3⟩, ⟨0, -1⟩] ∧
      (((∀ taken ∈ log, Carries taken) ∧ Distinct log) ↔ Machine.Throughout OnTime log) := by
  intro log
  obtain ⟨last, run⟩ := machine.run_log {} [.inspectionProgressAsync true,
    .processMessage (.waypointListCurrentItem 3), .reportProgress,
    .processMessage (.waypointListItemReached 3), .reportProgress,
    .uploadInspectionAsync false, .processMessage (.waypointListCurrentItem 0), .reportProgress]
    (by decide)
  exact ⟨by decide, progress_reports_iff run⟩

/-- The connection is lost while the receive thread is between its two sections. -/
theorem reset_reported : ¬∀ {log : List Step} {last : ProgressReporter},
    machine.Run {} log last → (∀ taken ∈ log, Carries taken) ∧ Distinct log := by
  intro all
  let actions : List ProgressAction := [.inspectionProgressAsync true,
    .processMessage (.waypointListCurrentItem 3), .disable, .reportProgress]
  have run := machine.run_last {} actions (by decide)
  have report := List.getElem_mem (show 3 < (machine.log {} actions).length by decide)
  have carries := (all run).1 _ report (.waypointListCurrentItem 3) (by decide) ⟨-1, -1⟩ (by decide)
  exact absurd carries (by decide)

end ProgressReporter
end PilotingMavsdk
