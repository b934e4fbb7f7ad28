import PilotingMavsdk.Library.Machine

/-! Two parties joined by a queue in either direction, and dialogues between them: at every stage
one party is to go on, by itself or upon the only message under way. Parties that keep to such a
script come to its end in boundedly many steps, whatever the order in which these are taken. -/

namespace PilotingMavsdk.Library

universe u

variable {First Second State FirstAct SecondAct Act Choice Message Report Stage : Type u}

/-- What a party does by itself, and what it does with a message. Each yields the state after it,
the messages sent and what is reported to the user. -/
structure Party (State Act Choice Message Report : Type u) where
  act : Act → State → Option (State × List Message × List Report)
  hear : Message → Choice → State → Option (State × List Message × List Report)

structure Link (First Second Message : Type u) where
  first : First
  second : Second
  toFirst : List Message := []
  toSecond : List Message := []

inductive LinkAction (FirstAct SecondAct Choice : Type u) where
  | first (act : FirstAct)
  | second (act : SecondAct)
  | toFirst (choice : Choice)
  | toSecond (choice : Choice)

/-- Every message arrives once and in order. -/
def Link.machine (first : Party First FirstAct Choice Message Report)
    (second : Party Second SecondAct Choice Message Report) :
    Machine (Link First Second Message) (LinkAction FirstAct SecondAct Choice) Report where
  step link
    | .first act =>
      match first.act act link.first with
      | some (after, sent, reports) =>
        some ({ link with first := after, toSecond := link.toSecond ++ sent }, reports)
      | none => none
    | .second act =>
      match second.act act link.second with
      | some (after, sent, reports) =>
        some ({ link with second := after, toFirst := link.toFirst ++ sent }, reports)
      | none => none
    | .toFirst choice =>
      match link.toFirst with
      | [] => none
      | message :: rest =>
        match first.hear message choice link.first with
        | some (after, sent, reports) =>
          some ({ link with
            first := after
            toFirst := rest
            toSecond := link.toSecond ++ sent }, reports)
        | none => none
    | .toSecond choice =>
      match link.toSecond with
      | [] => none
      | message :: rest =>
        match second.hear message choice link.second with
        | some (after, sent, reports) =>
          some ({ link with
            second := after
            toSecond := rest
            toFirst := link.toFirst ++ sent }, reports)
        | none => none

inductive Side where
  | first
  | second
deriving DecidableEq, Repr

/-- Whose turn it is, what it waits for (nothing, if it goes on by itself), and what it does. -/
structure Turn (Stage Message Report : Type u) where
  side : Side
  heard : Option Message
  said : Option Message
  told : List Report
  next : Stage

/-- What is said at one turn is heard at the next one, by the other party. -/
def Turn.Linked (turn : Turn Stage Message Report) : Option (Turn Stage Message Report) → Prop
  | none => turn.said = none
  | some following =>
    following.heard = turn.said ∧ (turn.said ≠ none → following.side ≠ turn.side)

/-- `told` is what has been reported before a stage. Where there is no turn the dialogue has
ended. -/
structure Script (Stage Message Report : Type u) where
  turn : Stage → Option (Turn Stage Message Report)
  rank : Stage → Nat
  told : Stage → List Report
  rank_next : ∀ {stage turn'}, turn stage = some turn' → rank turn'.next < rank stage
  told_next : ∀ {stage turn'}, turn stage = some turn' →
    told turn'.next = told stage ++ turn'.told
  heard_next : ∀ {stage turn'}, turn stage = some turn' → turn'.Linked (turn turn'.next)

namespace Script
variable (script : Script Stage Message Report)

/-- The messages under way to that side. -/
def pending (side : Side) (stage : Stage) : List Message :=
  match script.turn stage with
  | none => []
  | some turn => if turn.side = side then turn.heard.toList else []

variable {script}

theorem pending_next {stage : Stage} {turn : Turn Stage Message Report}
    (going : script.turn stage = some turn) (side : Side) :
    script.pending side turn.next = if side = turn.side then [] else turn.said.toList := by
  have linked := script.heard_next going
  unfold pending
  cases following : script.turn turn.next with
  | none =>
    rw [following] at linked
    have silent : turn.said = none := linked
    simp [silent]
  | some after =>
    rw [following] at linked
    obtain ⟨heard, other⟩ := linked
    cases said : turn.said with
    | none => simp [heard, said]
    | some message =>
      have differs := other (by simp [said])
      have opposite : after.side = side ↔ side ≠ turn.side := by
        cases side <;> cases here : turn.side <;> cases there : after.side <;> simp_all
      simp only [heard, said, opposite]
      split <;> simp_all

theorem pending_turn {stage : Stage} {turn : Turn Stage Message Report}
    (going : script.turn stage = some turn) (side : Side) :
    script.pending side stage = if turn.side = side then turn.heard.toList else [] := by
  simp [pending, going]

end Script

/-- The party plays its side of the script. `At stage` says where it then is. It may also do
something silent on its own that makes it lighter. -/
structure Party.Keeps (party : Party State Act Choice Message Report) (side : Side)
    (script : Script Stage Message Report) (At : Stage → State → Prop) (weight : State → Nat) :
    Prop where
  act : ∀ {stage state act after sent reports}, At stage state →
    party.act act state = some (after, sent, reports) →
    (∃ turn, script.turn stage = some turn ∧ turn.side = side ∧ turn.heard = none ∧
      At turn.next after ∧ sent = turn.said.toList ∧ reports = turn.told) ∨
    (At stage after ∧ sent = [] ∧ reports = [] ∧ weight after < weight state)
  hear : ∀ {stage state turn message choice after sent reports}, At stage state →
    script.turn stage = some turn → turn.side = side → turn.heard = some message →
    party.hear message choice state = some (after, sent, reports) →
    At turn.next after ∧ sent = turn.said.toList ∧ reports = turn.told
  wait : ∀ {stage state turn}, At stage state → script.turn stage = some turn →
    turn.side ≠ side → At turn.next state
  can_act : ∀ {stage state turn}, At stage state → script.turn stage = some turn →
    turn.side = side → turn.heard = none → ∃ act, (party.act act state).isSome = true
  can_hear : ∀ {stage state turn message}, At stage state → script.turn stage = some turn →
    turn.side = side → turn.heard = some message →
    ∃ choice, (party.hear message choice state).isSome = true
  light : ∀ state, weight state ≤ 1

/-- Both parties are at that stage, and so are the queues. -/
structure OnScript (script : Script Stage Message Report) (AtFirst : Stage → First → Prop)
    (AtSecond : Stage → Second → Prop) (stage : Stage) (link : Link First Second Message) :
    Prop where
  first : AtFirst stage link.first
  second : AtSecond stage link.second
  toFirst : link.toFirst = script.pending .first stage
  toSecond : link.toSecond = script.pending .second stage

section
variable {first : Party First FirstAct Choice Message Report}
  {second : Party Second SecondAct Choice Message Report} {script : Script Stage Message Report}
  {AtFirst : Stage → First → Prop} {AtSecond : Stage → Second → Prop}
  {firstWeight : First → Nat} {secondWeight : Second → Nat}

def Script.remaining (script : Script Stage Message Report) (firstWeight : First → Nat)
    (secondWeight : Second → Nat) (stage : Stage) (link : Link First Second Message) : Nat :=
  3 * script.rank stage + firstWeight link.first + secondWeight link.second

theorem Script.remaining_next {stage : Stage} {turn : Turn Stage Message Report}
    (going : script.turn stage = some turn) (firstLight : ∀ state, firstWeight state ≤ 1)
    (secondLight : ∀ state, secondWeight state ≤ 1) (before after : Link First Second Message) :
    script.remaining firstWeight secondWeight turn.next after <
      script.remaining firstWeight secondWeight stage before := by
  have falls := script.rank_next going
  have first := firstLight after.first
  have second := secondLight after.second
  unfold remaining
  omega

theorem Script.turn_of_pending {stage : Stage} {side : Side} {message : Message}
    {rest : List Message} (waiting : message :: rest = script.pending side stage) :
    ∃ turn, script.turn stage = some turn ∧ turn.side = side ∧ turn.heard = some message ∧
      rest = [] := by
  unfold pending at waiting
  split at waiting
  · cases waiting
  next turn going =>
    split at waiting
    next here =>
      cases heard : turn.heard with
      | none =>
        rw [heard] at waiting
        cases waiting
      | some other =>
        rw [heard] at waiting
        cases waiting
        exact ⟨turn, going, here, heard, rfl⟩
    · cases waiting

/-- The party has taken its turn, or has only become lighter. -/
inductive Party.Went (script : Script Stage Message Report) (side : Side)
    (At : Stage → State → Prop) (weight : State → Nat) (stage : Stage) (before after : State)
    (sent : List Message) (reports : List Report) : Stage → Prop where
  | turn {turn : Turn Stage Message Report} (going : script.turn stage = some turn)
      (mine : turn.side = side) (arrived : At turn.next after) (said : sent = turn.said.toList)
      (told : reports = turn.told) :
      Went script side At weight stage before after sent reports turn.next
  | silent (stays : At stage after) (said : sent = []) (told : reports = [])
      (lighter : weight after < weight before) :
      Went script side At weight stage before after sent reports stage

theorem Party.Keeps.acted {party : Party State Act Choice Message Report} {side : Side}
    {At : Stage → State → Prop} {weight : State → Nat}
    (keeps : party.Keeps side script At weight) {stage : Stage} {state after : State} {act : Act}
    {sent : List Message} {reports : List Report} (here : At stage state)
    (acted : party.act act state = some (after, sent, reports)) :
    ∃ next, Went script side At weight stage state after sent reports next ∧
      script.pending side next = script.pending side stage := by
  rcases keeps.act here acted with
    ⟨turn, going, mine, own, arrived, said, told⟩ | ⟨stays, said, told, lighter⟩
  · refine ⟨turn.next, .turn going mine arrived said told, ?_⟩
    rw [Script.pending_next going, if_pos mine.symm, Script.pending_turn going, if_pos mine, own]
    rfl
  · exact ⟨stage, .silent stays said told lighter, rfl⟩

theorem Party.Keeps.heard {party : Party State Act Choice Message Report} {side : Side}
    {At : Stage → State → Prop} {weight : State → Nat}
    (keeps : party.Keeps side script At weight) {stage : Stage} {state after : State}
    {message : Message} {rest : List Message} {choice : Choice} {sent : List Message}
    {reports : List Report} (here : At stage state)
    (waiting : message :: rest = script.pending side stage)
    (heard : party.hear message choice state = some (after, sent, reports)) :
    ∃ next, Went script side At weight stage state after sent reports next ∧
      script.pending side next = rest := by
  obtain ⟨turn, going, mine, hearing, rfl⟩ := Script.turn_of_pending waiting
  obtain ⟨arrived, said, told⟩ := keeps.hear here going mine hearing heard
  refine ⟨turn.next, .turn going mine arrived said told, ?_⟩
  rw [Script.pending_next going, if_pos mine.symm]

theorem OnScript.firstWent (firstLight : ∀ state, firstWeight state ≤ 1)
    (secondKeeps : second.Keeps .second script AtSecond secondWeight) {stage next : Stage}
    {link : Link First Second Message} (onScript : OnScript script AtFirst AtSecond stage link)
    {after : First} {sent : List Message} {reports : List Report}
    (went : Party.Went script .first AtFirst firstWeight stage link.first after sent reports next) :
    OnScript script AtFirst AtSecond next
        ⟨after, link.second, script.pending .first next, link.toSecond ++ sent⟩ ∧
      script.told next = script.told stage ++ reports ∧
      script.remaining firstWeight secondWeight next
          ⟨after, link.second, script.pending .first next, link.toSecond ++ sent⟩ <
        script.remaining firstWeight secondWeight stage link := by
  cases went with
  | @turn turn going mine arrived said told =>
    subst said told
    refine ⟨⟨arrived, ?_, rfl, ?_⟩, script.told_next going, ?_⟩
    · exact secondKeeps.wait onScript.second going (by simp [mine])
    · simp only [onScript.toSecond, Script.pending_turn going, Script.pending_next going, mine]
      rfl
    · exact script.remaining_next going firstLight secondKeeps.light _ _
  | silent stays said told lighter =>
    subst said told
    refine ⟨⟨stays, onScript.second, rfl, ?_⟩, by simp, ?_⟩
    · rw [List.append_nil]
      exact onScript.toSecond
    · unfold Script.remaining
      simp only
      omega

theorem OnScript.secondWent (secondLight : ∀ state, secondWeight state ≤ 1)
    (firstKeeps : first.Keeps .first script AtFirst firstWeight) {stage next : Stage}
    {link : Link First Second Message} (onScript : OnScript script AtFirst AtSecond stage link)
    {after : Second} {sent : List Message} {reports : List Report}
    (went : Party.Went script .second AtSecond secondWeight stage link.second after sent reports
      next) :
    OnScript script AtFirst AtSecond next
        ⟨link.first, after, link.toFirst ++ sent, script.pending .second next⟩ ∧
      script.told next = script.told stage ++ reports ∧
      script.remaining firstWeight secondWeight next
          ⟨link.first, after, link.toFirst ++ sent, script.pending .second next⟩ <
        script.remaining firstWeight secondWeight stage link := by
  cases went with
  | @turn turn going mine arrived said told =>
    subst said told
    refine ⟨⟨?_, arrived, ?_, rfl⟩, script.told_next going, ?_⟩
    · exact firstKeeps.wait onScript.first going (by simp [mine])
    · simp only [onScript.toFirst, Script.pending_turn going, Script.pending_next going, mine]
      rfl
    · exact script.remaining_next going firstKeeps.light secondLight _ _
  | silent stays said told lighter =>
    subst said told
    refine ⟨⟨onScript.first, stays, ?_, rfl⟩, by simp, ?_⟩
    · rw [List.append_nil]
      exact onScript.toFirst
    · unfold Script.remaining
      simp only
      omega

theorem OnScript.step (firstKeeps : first.Keeps .first script AtFirst firstWeight)
    (secondKeeps : second.Keeps .second script AtSecond secondWeight)
    {taken : Taken (Link First Second Message) (LinkAction FirstAct SecondAct Choice) Report}
    (legal : (Link.machine first second).Legal taken) {stage : Stage}
    (onScript : OnScript script AtFirst AtSecond stage taken.before) :
    ∃ next, OnScript script AtFirst AtSecond next taken.after ∧
      script.told next = script.told stage ++ taken.outputs ∧
      script.remaining firstWeight secondWeight next taken.after <
        script.remaining firstWeight secondWeight stage taken.before := by
  obtain ⟨link, action, after, outputs⟩ := taken
  simp only [Machine.Legal, Link.machine] at legal onScript ⊢
  cases action with
  | first act =>
    simp only at legal
    split at legal
    next state sent reports acted =>
      cases legal
      obtain ⟨next, went, queue⟩ := firstKeeps.acted onScript.first acted
      have moved := onScript.firstWent firstKeeps.light secondKeeps went
      rw [queue, ← onScript.toFirst] at moved
      exact ⟨next, moved⟩
    · cases legal
  | second act =>
    simp only at legal
    split at legal
    next state sent reports acted =>
      cases legal
      obtain ⟨next, went, queue⟩ := secondKeeps.acted onScript.second acted
      have moved := onScript.secondWent secondKeeps.light firstKeeps went
      rw [queue, ← onScript.toSecond] at moved
      exact ⟨next, moved⟩
    · cases legal
  | toFirst choice =>
    simp only at legal
    split at legal
    · cases legal
    next message rest waiting =>
      split at legal
      next state sent reports heard =>
        cases legal
        obtain ⟨next, went, queue⟩ := firstKeeps.heard onScript.first
          (waiting.symm.trans onScript.toFirst) heard
        have moved := onScript.firstWent firstKeeps.light secondKeeps went
        rw [queue] at moved
        exact ⟨next, moved⟩
      · cases legal
  | toSecond choice =>
    simp only at legal
    split at legal
    · cases legal
    next message rest waiting =>
      split at legal
      next state sent reports heard =>
        cases legal
        obtain ⟨next, went, queue⟩ := secondKeeps.heard onScript.second
          (waiting.symm.trans onScript.toSecond) heard
        have moved := onScript.secondWent secondKeeps.light firstKeeps went
        rw [queue] at moved
        exact ⟨next, moved⟩
      · cases legal

theorem OnScript.ended (firstKeeps : first.Keeps .first script AtFirst firstWeight)
    (secondKeeps : second.Keeps .second script AtSecond secondWeight) {stage : Stage}
    {link : Link First Second Message} (onScript : OnScript script AtFirst AtSecond stage link)
    (stuck : ∀ action, (Link.machine first second).step link action = none) :
    script.turn stage = none := by
  cases going : script.turn stage with
  | none => rfl
  | some turn =>
    exfalso
    have toFirst := onScript.toFirst
    have toSecond := onScript.toSecond
    rw [Script.pending_turn going] at toFirst toSecond
    cases mine : turn.side with
    | first =>
      rw [if_pos mine] at toFirst
      cases heard : turn.heard with
      | none =>
        obtain ⟨act, possible⟩ := firstKeeps.can_act onScript.first going mine heard
        obtain ⟨result, acted⟩ := Option.isSome_iff_exists.mp possible
        have none := stuck (.first act)
        simp [Link.machine, acted] at none
      | some message =>
        obtain ⟨choice, possible⟩ := firstKeeps.can_hear onScript.first going mine heard
        obtain ⟨result, hearing⟩ := Option.isSome_iff_exists.mp possible
        have none := stuck (.toFirst choice)
        simp [Link.machine, toFirst, heard, hearing] at none
    | second =>
      rw [if_pos mine] at toSecond
      cases heard : turn.heard with
      | none =>
        obtain ⟨act, possible⟩ := secondKeeps.can_act onScript.second going mine heard
        obtain ⟨result, acted⟩ := Option.isSome_iff_exists.mp possible
        have none := stuck (.second act)
        simp [Link.machine, acted] at none
      | some message =>
        obtain ⟨choice, possible⟩ := secondKeeps.can_hear onScript.second going mine heard
        obtain ⟨result, hearing⟩ := Option.isSome_iff_exists.mp possible
        have none := stuck (.toSecond choice)
        simp [Link.machine, toSecond, heard, hearing] at none

/-- Every run of parties that keep to a script is bounded and follows it, and one that cannot be
continued has come to its end. -/
theorem OnScript.run (firstKeeps : first.Keeps .first script AtFirst firstWeight)
    (secondKeeps : second.Keeps .second script AtSecond secondWeight) {stage : Stage}
    {start last : Link First Second Message}
    {log : List (Taken (Link First Second Message) (LinkAction FirstAct SecondAct Choice) Report)}
    (run : (Link.machine first second).Run start log last)
    (onScript : OnScript script AtFirst AtSecond stage start) :
    ∃ next, OnScript script AtFirst AtSecond next last ∧
      script.told next = script.told stage ++ log.flatMap Taken.outputs ∧
      log.length + script.remaining firstWeight secondWeight next last ≤
        script.remaining firstWeight secondWeight stage start := by
  induction run with
  | nil => exact ⟨stage, onScript, by simp, by simp⟩
  | @snoc log taken run legal ih =>
    obtain ⟨middle, there, told, bound⟩ := ih
    obtain ⟨next, here, more, less⟩ := there.step firstKeeps secondKeeps legal
    refine ⟨next, here, ?_, ?_⟩
    · rw [more, told, List.flatMap_append, List.append_assoc]
      simp
    · rw [List.length_append, List.length_singleton]
      omega

/-- No run is longer than some bound, and one that cannot be continued has reported exactly
that. -/
def Link.Completes (first : Party First FirstAct Choice Message Report)
    (second : Party Second SecondAct Choice Message Report) (start : Link First Second Message)
    (reports : List Report) : Prop :=
  ∃ bound, ∀ log last, (Link.machine first second).Run start log last →
    log.length ≤ bound ∧ ((∀ action, (Link.machine first second).step last action = none) →
      log.flatMap Taken.outputs = reports)

theorem OnScript.completes (firstKeeps : first.Keeps .first script AtFirst firstWeight)
    (secondKeeps : second.Keeps .second script AtSecond secondWeight) {stage : Stage}
    {start : Link First Second Message} {reports : List Report}
    (onScript : OnScript script AtFirst AtSecond stage start) (silent : script.told stage = [])
    (ends : ∀ {stage link}, OnScript script AtFirst AtSecond stage link →
      script.turn stage = none → script.told stage = reports) :
    Link.Completes first second start reports := by
  refine ⟨script.remaining firstWeight secondWeight stage start, ?_⟩
  intro log last run
  obtain ⟨next, there, told, bound⟩ := onScript.run firstKeeps secondKeeps run
  constructor
  · omega
  · intro stuck
    rw [silent, List.nil_append] at told
    rw [← told]
    exact ends there (there.ended firstKeeps secondKeeps stuck)

end

end PilotingMavsdk.Library
