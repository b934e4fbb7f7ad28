import Mathlib.Data.List.Nodup

/-! What is done in one instant, one task after the other, in an order that nobody controls. Where
all tasks but one or two change nothing, the order matters little or not at all. -/

namespace PilotingMavsdk.Library

universe u v
variable {State Other Message Report : Type u} {Task : Type v}

/-- The state that a task leaves, the messages that it sends and what it tells the user. -/
structure Reaction (State Message Report : Type u) where
  state : State
  sent : List Message := []
  told : List Report := []

namespace Reaction

def map (convert : State → Other) (reaction : Reaction State Message Report) :
    Reaction Other Message Report :=
  ⟨convert reaction.state, reaction.sent, reaction.told⟩

def andThen (first : Reaction State Message Report)
    (next : State → Reaction Other Message Report) : Reaction Other Message Report :=
  let second := next first.state
  ⟨second.state, first.sent ++ second.sent, first.told ++ second.told⟩

def inOrder (react : Task → State → Reaction State Message Report) :
    List Task → State → Reaction State Message Report
  | [], state => { state := state }
  | task :: tasks, state => (react task state).andThen (inOrder react tasks)

structure Yields (holds : State → Prop) (sent : List Message) (told : List Report)
    (reaction : Reaction State Message Report) : Prop where
  holds : holds reaction.state
  sent : reaction.sent = sent
  told : reaction.told = told

/-- From every state with the property the task leads to one with it and does nothing else. -/
def Quiet (holds : State → Prop) (react : State → Reaction State Message Report) : Prop :=
  ∀ state, holds state → (react state).Yields holds [] []

/-- The property still holds and only allowed messages are sent. -/
structure Keeps (holds : State → Prop) (allowed : Message → Prop)
    (reaction : Reaction State Message Report) : Prop where
  holds : holds reaction.state
  sent : ∀ message ∈ reaction.sent, allowed message

variable {react : Task → State → Reaction State Message Report} {before during after : State → Prop}
  {sent later : List Message} {told more : List Report} {tasks : List Task} {state : State}

theorem inOrder_append (first second : List Task) (state : State) :
    inOrder react (first ++ second) state =
      (inOrder react first state).andThen (inOrder react second) := by
  induction first generalizing state with
  | nil => rfl
  | cons task first ih => simp [inOrder, andThen, ih]

theorem inOrder_singleton (task : Task) (state : State) :
    inOrder react [task] state = react task state := by
  simp [inOrder, andThen]

theorem Yields.imp {reaction : Reaction State Message Report}
    (yields : reaction.Yields before sent told)
    (implies : ∀ state, before state → after state) : reaction.Yields after sent told :=
  ⟨implies _ yields.holds, yields.sent, yields.told⟩

theorem Yields.andThen {reaction : Reaction State Message Report}
    {next : State → Reaction State Message Report} (yields : reaction.Yields during sent told)
    (follows : ∀ state, during state → (next state).Yields after later more) :
    (reaction.andThen next).Yields after (sent ++ later) (told ++ more) := by
  have second := follows _ yields.holds
  refine ⟨second.holds, ?_, ?_⟩
  · simp only [Reaction.andThen, yields.sent, second.sent]
  · simp only [Reaction.andThen, yields.told, second.told]

theorem quiet_inOrder (quiet : ∀ task ∈ tasks, Quiet before (react task)) :
    Quiet before (inOrder react tasks) := by
  induction tasks with
  | nil => exact fun state holds => ⟨holds, rfl, rfl⟩
  | cons task tasks ih =>
    intro state holds
    exact (quiet task (by simp) state holds).andThen
      (ih fun other member => quiet other (by simp [member]))

theorem Keeps.map {reaction : Reaction State Message Report} {allowed : Message → Prop}
    {convert : State → Other} {converted : Other → Prop} (keeps : reaction.Keeps before allowed)
    (converts : ∀ state, before state → converted (convert state)) :
    (reaction.map convert).Keeps converted allowed :=
  ⟨converts _ keeps.holds, keeps.sent⟩

theorem keeps_inOrder {allowed : Message → Prop}
    (keeps : ∀ task ∈ tasks, ∀ state, before state → (react task state).Keeps before allowed)
    (holds : before state) : (inOrder react tasks state).Keeps before allowed := by
  induction tasks generalizing state with
  | nil => exact ⟨holds, by simp [inOrder]⟩
  | cons task tasks ih =>
    have first := keeps task (by simp) state holds
    have rest := ih (fun other member => keeps other (by simp [member])) first.holds
    refine ⟨rest.holds, ?_⟩
    intro message member
    rcases List.mem_append.mp member with earlier | later
    · exact first.sent message earlier
    · exact rest.sent message later

theorem inOrder_once {task : Task} (nodup : tasks.Nodup) (present : task ∈ tasks)
    (early : ∀ other ∈ tasks, other ≠ task → Quiet before (react other))
    (late : ∀ other ∈ tasks, other ≠ task → Quiet after (react other))
    (matters : ∀ state, before state → (react task state).Yields after sent told)
    (holds : before state) : (inOrder react tasks state).Yields after sent told := by
  obtain ⟨first, second, rfl⟩ := List.append_of_mem present
  have outside := List.nodup_middle.mp nodup
  rw [List.nodup_cons, List.mem_append, not_or] at outside
  have quietFirst : Quiet before (inOrder react first) := by
    apply quiet_inOrder
    intro other member
    exact early other (by simp [member]) (by rintro rfl; exact outside.1.1 member)
  have quietSecond : Quiet after (inOrder react second) := by
    apply quiet_inOrder
    intro other member
    exact late other (by simp [member]) (by rintro rfl; exact outside.1.2 member)
  have rest : ∀ middle, before middle →
      (inOrder react (task :: second) middle).Yields after (sent ++ []) (told ++ []) :=
    fun middle there => (matters middle there).andThen quietSecond
  rw [inOrder_append]
  simpa using (quietFirst state holds).andThen rest

theorem inOrder_twice {task other : Task} (nodup : tasks.Nodup)
    (ordered : [task, other].Sublist tasks)
    (early : ∀ third ∈ tasks, third ≠ task → third ≠ other → Quiet before (react third))
    (between : ∀ third ∈ tasks, third ≠ task → third ≠ other → Quiet during (react third))
    (late : ∀ third ∈ tasks, third ≠ task → third ≠ other → Quiet after (react third))
    (first : ∀ state, before state → (react task state).Yields during sent told)
    (second : ∀ state, during state → (react other state).Yields after later more)
    (holds : before state) :
    (inOrder react tasks state).Yields after (sent ++ later) (told ++ more) := by
  obtain ⟨head, tail, rfl, inHead, inTail⟩ := List.cons_sublist_iff.mp ordered
  rw [List.singleton_sublist] at inTail
  obtain ⟨nodupHead, nodupTail, apart⟩ := List.nodup_append.mp nodup
  have firstHalf : (inOrder react head state).Yields during sent told := by
    apply inOrder_once nodupHead inHead _ _ first holds
    · intro third member differs
      exact early third (by simp [member]) differs (apart third member other inTail)
    · intro third member differs
      exact between third (by simp [member]) differs (apart third member other inTail)
  rw [inOrder_append]
  apply firstHalf.andThen
  intro middle there
  apply inOrder_once nodupTail inTail _ _ second there
  · intro third member differs
    exact between third (by simp [member]) (apart task inHead third member).symm differs
  · intro third member differs
    exact late third (by simp [member]) (apart task inHead third member).symm differs

theorem sublist_or_sublist {task other : Task} (present : task ∈ tasks) (also : other ∈ tasks)
    (differs : task ≠ other) : [task, other].Sublist tasks ∨ [other, task].Sublist tasks := by
  obtain ⟨first, second, rfl⟩ := List.append_of_mem present
  rcases List.mem_append.mp also with earlier | later
  · right
    rw [List.cons_sublist_iff]
    exact ⟨first, task :: second, rfl, earlier, by simp⟩
  · left
    have inSecond : other ∈ second := by
      rcases List.mem_cons.mp later with same | member
      · exact absurd same.symm differs
      · exact member
    rw [List.cons_sublist_iff]
    exact ⟨first ++ [task], second, by simp, by simp, by simpa using inSecond⟩

/-- Where all that comes before it is quiet, a task tells what it has to tell. -/
theorem told_inOrder {task : Task} {bad : Report → Prop} (present : task ∈ tasks)
    (early : ∀ other, other ≠ task → [other, task].Sublist tasks → Quiet before (react other))
    (tells : ∀ state, before state → ∃ report ∈ (react task state).told, bad report)
    (holds : before state) : ∃ report ∈ (inOrder react tasks state).told, bad report := by
  obtain ⟨first, second, rfl, absent⟩ := List.eq_append_cons_of_mem present
  have quiet : Quiet before (inOrder react first) := by
    apply quiet_inOrder
    intro other member
    apply early other (by rintro rfl; exact absent member)
    rw [List.cons_sublist_iff]
    exact ⟨first, task :: second, rfl, member, by simp⟩
  obtain ⟨report, member, isBad⟩ := tells _ (quiet state holds).holds
  refine ⟨report, ?_, isBad⟩
  rw [inOrder_append]
  simp only [andThen, inOrder, List.mem_append]
  exact .inr (.inl member)

end Reaction
end PilotingMavsdk.Library
