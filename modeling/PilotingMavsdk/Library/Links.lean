import PilotingMavsdk.Library.Dialogue

/-! Joined parties whose messages may be lost, doubled and late, and what a step is whether or not they
may. What both parties say holds in either case. -/

namespace PilotingMavsdk.Library

universe u

variable {First Second State FirstAct SecondAct Act Choice Message Report : Type u}

inductive LossyAction (FirstAct SecondAct Choice Message : Type u) where
  | first (act : FirstAct)
  | second (act : SecondAct)
  | toFirst (message : Message) (choice : Choice)
  | toSecond (message : Message) (choice : Choice)

/-- The queues keep all messages ever sent. Each may arrive at any time, again and again or never at
all. -/
def Link.lossy [DecidableEq Message] (first : Party First FirstAct Choice Message Report)
    (second : Party Second SecondAct Choice Message Report) :
    Machine (Link First Second Message) (LossyAction FirstAct SecondAct Choice Message) Report where
  step link
    | .first act =>
      match first.act act link.first with
      | some (after, sent, reports) =>
        some ({ link with first := after, toSecond := link.toSecond ++ sent }, reports)
      | none => none
    | .second act =>
      match second.act act link.second with
      | some (after, sent, reports) =>
        some ({ link with second := after, toFirst := link.toFirst ++ sent }, reports)
      | none => none
    | .toFirst message choice =>
      if message ∈ link.toFirst then
        match first.hear message choice link.first with
        | some (after, sent, reports) =>
          some ({ link with first := after, toSecond := link.toSecond ++ sent }, reports)
        | none => none
      else none
    | .toSecond message choice =>
      if message ∈ link.toSecond then
        match second.hear message choice link.second with
        | some (after, sent, reports) =>
          some ({ link with second := after, toFirst := link.toFirst ++ sent }, reports)
        | none => none
      else none

/-- How a queue hands out its messages: each once and in order, or any of them at any time. -/
inductive Delivery where
  | inOrder
  | lossy
deriving DecidableEq, Repr

def Delivery.Takes (message : Message) (queue left : List Message) : Delivery → Prop
  | .inOrder => queue = message :: left
  | .lossy => message ∈ queue ∧ left = queue

theorem Delivery.Takes.mem {delivery : Delivery} {message : Message} {queue left : List Message}
    (takes : delivery.Takes message queue left) : message ∈ queue ∧ left ⊆ queue := by
  cases delivery with
  | inOrder =>
    rw [show queue = message :: left from takes]
    exact ⟨List.mem_cons_self, List.subset_cons_self message left⟩
  | lossy =>
    obtain ⟨waiting, same⟩ := takes
    rw [same]
    exact ⟨waiting, List.Subset.refl queue⟩

/-- A party goes on by itself, or with a message that is under way. -/
inductive Link.Moves (delivery : Delivery) (first : Party First FirstAct Choice Message Report)
    (second : Party Second SecondAct Choice Message Report) (link : Link First Second Message) :
    Link First Second Message → List Report → Prop where
  | first {act : FirstAct} {after : First} {sent : List Message} {reports : List Report}
      (acted : first.act act link.first = some (after, sent, reports)) :
      Moves delivery first second link
        { link with first := after, toSecond := link.toSecond ++ sent } reports
  | second {act : SecondAct} {after : Second} {sent : List Message} {reports : List Report}
      (acted : second.act act link.second = some (after, sent, reports)) :
      Moves delivery first second link
        { link with second := after, toFirst := link.toFirst ++ sent } reports
  | toFirst {message : Message} {choice : Choice} {after : First} {sent left : List Message}
      {reports : List Report} (takes : delivery.Takes message link.toFirst left)
      (heard : first.hear message choice link.first = some (after, sent, reports)) :
      Moves delivery first second link
        { link with first := after, toFirst := left, toSecond := link.toSecond ++ sent } reports
  | toSecond {message : Message} {choice : Choice} {after : Second} {sent left : List Message}
      {reports : List Report} (takes : delivery.Takes message link.toSecond left)
      (heard : second.hear message choice link.second = some (after, sent, reports)) :
      Moves delivery first second link
        { link with second := after, toSecond := left, toFirst := link.toFirst ++ sent } reports

section
variable {first : Party First FirstAct Choice Message Report}
  {second : Party Second SecondAct Choice Message Report} {link after : Link First Second Message}
  {reports : List Report}

theorem Link.moves_machine_iff : link.Moves .inOrder first second after reports ↔
    ∃ action, (Link.machine first second).step link action = some (after, reports) := by
  constructor
  · intro moves
    cases moves with
    | @first act _ _ _ acted => exact ⟨.first act, by simp [Link.machine, acted]⟩
    | @second act _ _ _ acted => exact ⟨.second act, by simp [Link.machine, acted]⟩
    | @toFirst message choice _ _ left _ takes heard =>
      have waiting : link.toFirst = message :: left := takes
      exact ⟨.toFirst choice, by simp [Link.machine, waiting, heard]⟩
    | @toSecond message choice _ _ left _ takes heard =>
      have waiting : link.toSecond = message :: left := takes
      exact ⟨.toSecond choice, by simp [Link.machine, waiting, heard]⟩
  · rintro ⟨action, step⟩
    simp only [Link.machine] at step
    cases action with
    | first act =>
      simp only at step
      split at step
      next acted => cases step; exact .first acted
      · cases step
    | second act =>
      simp only at step
      split at step
      next acted => cases step; exact .second acted
      · cases step
    | toFirst choice =>
      simp only at step
      split at step
      · cases step
      next message rest waiting =>
        split at step
        next heard => cases step; exact .toFirst (show Delivery.Takes _ _ _ .inOrder from waiting) heard
        · cases step
    | toSecond choice =>
      simp only at step
      split at step
      · cases step
      next message rest waiting =>
        split at step
        next heard => cases step; exact .toSecond (show Delivery.Takes _ _ _ .inOrder from waiting) heard
        · cases step

theorem Link.moves_lossy_iff [DecidableEq Message] :
    link.Moves .lossy first second after reports ↔
      ∃ action, (Link.lossy first second).step link action = some (after, reports) := by
  constructor
  · intro moves
    cases moves with
    | @first act _ _ _ acted => exact ⟨.first act, by simp [Link.lossy, acted]⟩
    | @second act _ _ _ acted => exact ⟨.second act, by simp [Link.lossy, acted]⟩
    | @toFirst message choice _ _ _ _ takes heard =>
      obtain ⟨waiting, rfl⟩ := takes
      exact ⟨.toFirst message choice, by simp [Link.lossy, waiting, heard]⟩
    | @toSecond message choice _ _ _ _ takes heard =>
      obtain ⟨waiting, rfl⟩ := takes
      exact ⟨.toSecond message choice, by simp [Link.lossy, waiting, heard]⟩
  · rintro ⟨action, step⟩
    simp only [Link.lossy] at step
    cases action with
    | first act =>
      simp only at step
      split at step
      next acted => cases step; exact .first acted
      · cases step
    | second act =>
      simp only at step
      split at step
      next acted => cases step; exact .second acted
      · cases step
    | toFirst message choice =>
      simp only at step
      split at step
      next waiting =>
        split at step
        next heard => cases step; exact .toFirst ⟨waiting, rfl⟩ heard
        · cases step
      · cases step
    | toSecond message choice =>
      simp only at step
      split at step
      next waiting =>
        split at step
        next heard => cases step; exact .toSecond ⟨waiting, rfl⟩ heard
        · cases step
      · cases step

end

section
variable {first : Party First FirstAct Choice Message Report}
  {second : Party Second SecondAct Choice Message Report}
  {Invariant : List Report → Link First Second Message → Prop} {start last : Link First Second Message}

theorem Link.machine_invariant
    (step : ∀ {trace link after reports}, Invariant trace link →
      link.Moves .inOrder first second after reports → Invariant (trace ++ reports) after)
    (initial : Invariant [] start)
    {log : List (Taken (Link First Second Message) (LinkAction FirstAct SecondAct Choice) Report)}
    (run : (Link.machine first second).Run start log last) :
    Invariant (log.flatMap Taken.outputs) last := by
  induction run with
  | nil => exact initial
  | snoc run legal ih =>
    rw [List.flatMap_append]
    simpa using step ih (Link.moves_machine_iff.mpr ⟨_, legal⟩)

theorem Link.lossy_invariant [DecidableEq Message]
    (step : ∀ {trace link after reports}, Invariant trace link →
      link.Moves .lossy first second after reports → Invariant (trace ++ reports) after)
    (initial : Invariant [] start)
    {log : List (Taken (Link First Second Message)
      (LossyAction FirstAct SecondAct Choice Message) Report)}
    (run : (Link.lossy first second).Run start log last) :
    Invariant (log.flatMap Taken.outputs) last := by
  induction run with
  | nil => exact initial
  | snoc run legal ih =>
    rw [List.flatMap_append]
    simpa using step ih (Link.moves_lossy_iff.mpr ⟨_, legal⟩)

end

/-- Whatever the party hears, its state stays as it should be, and it sends only what is allowed. -/
structure Party.Speaks (party : Party State Act Choice Message Report) (holds : State → Prop)
    (allowed : Message → Prop) : Prop where
  act : ∀ {state act after sent reports}, holds state →
    party.act act state = some (after, sent, reports) →
    holds after ∧ ∀ message ∈ sent, allowed message
  hear : ∀ {state message choice after sent reports}, holds state →
    party.hear message choice state = some (after, sent, reports) →
    holds after ∧ ∀ message ∈ sent, allowed message

structure Link.Spoken (holdsFirst : First → Prop) (holdsSecond : Second → Prop)
    (fromFirst fromSecond : Message → Prop) (link : Link First Second Message) : Prop where
  first : holdsFirst link.first
  second : holdsSecond link.second
  toFirst : ∀ message ∈ link.toFirst, fromSecond message
  toSecond : ∀ message ∈ link.toSecond, fromFirst message

theorem allowed_append {allowed : Message → Prop} {messages sent : List Message}
    (earlier : ∀ message ∈ messages, allowed message) (now : ∀ message ∈ sent, allowed message) :
    ∀ message ∈ messages ++ sent, allowed message := by
  intro message member
  rcases List.mem_append.mp member with member | member
  · exact earlier message member
  · exact now message member

theorem Link.Spoken.moves {delivery : Delivery} {first : Party First FirstAct Choice Message Report}
    {second : Party Second SecondAct Choice Message Report} {holdsFirst : First → Prop}
    {holdsSecond : Second → Prop} {fromFirst fromSecond : Message → Prop}
    {link after : Link First Second Message} {reports : List Report}
    (firstSpeaks : first.Speaks holdsFirst fromFirst)
    (secondSpeaks : second.Speaks holdsSecond fromSecond)
    (spoken : link.Spoken holdsFirst holdsSecond fromFirst fromSecond)
    (moves : link.Moves delivery first second after reports) :
    after.Spoken holdsFirst holdsSecond fromFirst fromSecond := by
  cases moves with
  | first acted =>
    obtain ⟨still, allowed⟩ := firstSpeaks.act spoken.first acted
    exact ⟨still, spoken.second, spoken.toFirst, allowed_append spoken.toSecond allowed⟩
  | second acted =>
    obtain ⟨still, allowed⟩ := secondSpeaks.act spoken.second acted
    exact ⟨spoken.first, still, allowed_append spoken.toFirst allowed, spoken.toSecond⟩
  | toFirst takes heard =>
    obtain ⟨still, allowed⟩ := firstSpeaks.hear spoken.first heard
    exact ⟨still, spoken.second, fun message member => spoken.toFirst message (takes.mem.2 member),
      allowed_append spoken.toSecond allowed⟩
  | toSecond takes heard =>
    obtain ⟨still, allowed⟩ := secondSpeaks.hear spoken.second heard
    exact ⟨spoken.first, still, allowed_append spoken.toFirst allowed,
      fun message member => spoken.toSecond message (takes.mem.2 member)⟩

end PilotingMavsdk.Library
