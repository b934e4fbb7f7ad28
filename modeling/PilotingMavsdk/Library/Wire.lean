import Mathlib.Data.List.Forall2
import PilotingMavsdk.Library.Links

/-! Parties whose messages go out through a port and come in through another one, as datagrams. If
each datagram is read as the message that it was written for, all runs are runs without ports. -/

namespace PilotingMavsdk.Library

universe u

variable {First Second State Port FirstAct SecondAct Act Choice Memory Arrival Message Datagram
  Report : Type u}

/-- `Memory` and `Arrival` are what is left to chance when a message is written and when a datagram
is read. A port may refuse either. -/
structure Wire (Port Memory Arrival Message Datagram : Type u) where
  write : Memory → Message → Port → Option (Port × List Datagram)
  read : Arrival → Datagram → Port → Option (Port × List Message)

structure Wired (State Port : Type u) where
  state : State
  port : Port

def Party.hearAll (party : Party State Act Choice Message Report) :
    List Message → List Choice → State → Option (State × List Message × List Report)
  | [], [], state => some (state, [], [])
  | message :: messages, choice :: choices, state =>
    match party.hear message choice state with
    | some (middle, sent, reports) =>
      (party.hearAll messages choices middle).map fun (last, more, later) =>
        (last, sent ++ more, reports ++ later)
    | none => none
  | _, _, _ => none

theorem Party.hearAll_singleton {party : Party State Act Choice Message Report} {message : Message}
    {choices : List Choice} {state : State} {result : State × List Message × List Report} :
    party.hearAll [message] choices state = some result ↔
      ∃ choice, choices = [choice] ∧ party.hear message choice state = some result := by
  cases choices with
  | nil => simp [Party.hearAll]
  | cons choice choices =>
    cases choices with
    | nil => cases heard : party.hear message choice state <;> simp [Party.hearAll, heard]
    | cons other choices =>
      cases heard : party.hear message choice state <;> simp [Party.hearAll, heard]

namespace Wire
variable (wire : Wire Port Memory Arrival Message Datagram)

def writeAll (memory : Nat → Memory) : List Message → Port → Option (Port × List Datagram)
  | [], port => some (port, [])
  | message :: messages, port =>
    match wire.write (memory messages.length) message port with
    | some (middle, datagrams) =>
      (writeAll memory messages middle).map fun (last, more) => (last, datagrams ++ more)
    | none => none

/-- The same party with a port. It does only what lets it write all its messages. -/
def party (party : Party State Act Choice Message Report) :
    Party (Wired State Port) (Act × (Nat → Memory)) (Arrival × List Choice × (Nat → Memory))
      Datagram Report where
  act action wired :=
    match party.act action.1 wired.state with
    | some (after, sent, reports) =>
      (wire.writeAll action.2 sent wired.port).map fun (port, datagrams) =>
        (⟨after, port⟩, datagrams, reports)
    | none => none
  hear datagram choice wired :=
    match wire.read choice.1 datagram wired.port with
    | some (read, messages) =>
      match party.hearAll messages choice.2.1 wired.state with
      | some (after, sent, reports) =>
        (wire.writeAll choice.2.2 sent read).map fun (port, datagrams) =>
          (⟨after, port⟩, datagrams, reports)
      | none => none
    | none => none

/-- A ready port writes a message that fits as one datagram, which bears the message for the port on
the other side. -/
structure Faithful (wire : Wire Port Memory Arrival Message Datagram) (Fits : Side → Message → Prop)
    (Ready : Side → Port → Prop) (Bears : Side → Message → Datagram → Prop) : Prop where
  write : ∀ {side message port} (memory : Memory), Fits side message →
    Ready side port →
    ∃ after datagram, wire.write memory message port = some (after, [datagram]) ∧
      Bears side message datagram ∧ Ready side after
  read : ∀ {writer reader message datagram port} (arrival : Arrival), writer ≠ reader →
    Bears writer message datagram → Ready reader port →
    ∃ after, wire.read arrival datagram port = some (after, [message]) ∧ Ready reader after

namespace Faithful
variable {wire} {Fits : Side → Message → Prop} {Ready : Side → Port → Prop}
  {Bears : Side → Message → Datagram → Prop} {party : Party State Act Choice Message Report}
  {side other : Side} {wired : Wired State Port}

theorem writeAll (faithful : wire.Faithful Fits Ready Bears) (memory : Nat → Memory)
    {messages : List Message} {port : Port} (fits : ∀ message ∈ messages, Fits side message)
    (ready : Ready side port) :
    ∃ after datagrams, wire.writeAll memory messages port = some (after, datagrams) ∧
      List.Forall₂ (Bears side) messages datagrams ∧ Ready side after := by
  induction messages generalizing port with
  | nil => exact ⟨port, [], rfl, .nil, ready⟩
  | cons message messages ih =>
    obtain ⟨middle, datagram, written, bears, still⟩ :=
      faithful.write (memory messages.length) (fits message (by simp)) ready
    obtain ⟨last, more, rest, others, done⟩ :=
      ih (fun other member => fits other (by simp [member])) still
    refine ⟨last, datagram :: more, ?_, .cons bears others, done⟩
    rw [Wire.writeAll, written]
    simp only
    rw [rest]
    rfl

theorem acted (faithful : wire.Faithful Fits Ready Bears) {action : Act × (Nat → Memory)}
    {after : Wired State Port} {datagrams : List Datagram} {reports : List Report}
    (ready : Ready side wired.port)
    (acted : (wire.party party).act action wired = some (after, datagrams, reports)) :
    ∃ sent, party.act action.1 wired.state = some (after.state, sent, reports) ∧
      ((∀ message ∈ sent, Fits side message) →
        List.Forall₂ (Bears side) sent datagrams ∧ Ready side after.port) := by
  simp only [Wire.party] at acted
  split at acted
  next state sent told done =>
    obtain ⟨⟨port, written⟩, writes, same⟩ := Option.map_eq_some_iff.mp acted
    cases same
    refine ⟨sent, done, ?_⟩
    intro fits
    obtain ⟨_, _, expected, bears, still⟩ := faithful.writeAll action.2 fits ready
    cases writes.symm.trans expected
    exact ⟨bears, still⟩
  · cases acted

theorem heard (faithful : wire.Faithful Fits Ready Bears)
    {choice : Arrival × List Choice × (Nat → Memory)} {message : Message} {datagram : Datagram}
    {after : Wired State Port} {datagrams : List Datagram} {reports : List Report}
    (ready : Ready side wired.port) (opposite : other ≠ side) (bears : Bears other message datagram)
    (heard : (wire.party party).hear datagram choice wired = some (after, datagrams, reports)) :
    ∃ one sent, party.hear message one wired.state = some (after.state, sent, reports) ∧
      ((∀ message ∈ sent, Fits side message) →
        List.Forall₂ (Bears side) sent datagrams ∧ Ready side after.port) := by
  obtain ⟨middle, reads, still⟩ := faithful.read choice.1 opposite bears ready
  simp only [Wire.party, reads] at heard
  split at heard
  next state sent told done =>
    obtain ⟨⟨port, written⟩, writes, same⟩ := Option.map_eq_some_iff.mp heard
    cases same
    obtain ⟨one, _, hears⟩ := Party.hearAll_singleton.mp done
    refine ⟨one, sent, hears, ?_⟩
    intro fits
    obtain ⟨_, _, expected, bears, ends⟩ := faithful.writeAll choice.2.2 fits still
    cases writes.symm.trans expected
    exact ⟨bears, ends⟩
  · cases heard

theorem can_act (faithful : wire.Faithful Fits Ready Bears) (memory : Nat → Memory) {act : Act}
    {after : State} {sent : List Message} {reports : List Report} (ready : Ready side wired.port)
    (acted : party.act act wired.state = some (after, sent, reports))
    (fits : ∀ message ∈ sent, Fits side message) :
    ((wire.party party).act (act, memory) wired).isSome = true := by
  obtain ⟨_, _, written, _⟩ := faithful.writeAll memory fits ready
  simp [Wire.party, acted, written]

theorem can_hear (faithful : wire.Faithful Fits Ready Bears) (arrival : Arrival)
    (memory : Nat → Memory) {choice : Choice} {message : Message} {datagram : Datagram}
    {after : State} {sent : List Message} {reports : List Report} (ready : Ready side wired.port)
    (opposite : other ≠ side) (bears : Bears other message datagram)
    (heard : party.hear message choice wired.state = some (after, sent, reports))
    (fits : ∀ message ∈ sent, Fits side message) :
    ((wire.party party).hear datagram (arrival, [choice], memory) wired).isSome = true := by
  obtain ⟨middle, reads, still⟩ := faithful.read arrival opposite bears ready
  obtain ⟨_, _, written, _⟩ := faithful.writeAll memory fits still
  have hears : party.hearAll [message] [choice] wired.state = some (after, sent, reports) :=
    Party.hearAll_singleton.mpr ⟨choice, rfl, heard⟩
  simp [Wire.party, reads, hears, written]

end Faithful

/-- The datagrams under way bear messages under way, in their order where there is one. -/
def Carries (Bears : Message → Datagram → Prop) (messages : List Message)
    (datagrams : List Datagram) : Delivery → Prop
  | .inOrder => List.Forall₂ Bears messages datagrams
  | .lossy => ∀ datagram ∈ datagrams, ∃ message ∈ messages, Bears message datagram

namespace Carries
variable {Bears : Message → Datagram → Prop} {messages sent : List Message}
  {datagrams written : List Datagram} {delivery : Delivery}

theorem of_forall₂ (bear : List.Forall₂ Bears messages datagrams) :
    Carries Bears messages datagrams delivery := by
  cases delivery with
  | inOrder => exact bear
  | lossy =>
    intro datagram member
    obtain ⟨place, inside, rfl⟩ := List.mem_iff_getElem.mp member
    have short : place < messages.length := by
      rw [bear.length_eq]
      exact inside
    exact ⟨messages[place], List.getElem_mem short, bear.get short inside⟩

theorem append (carries : Carries Bears messages datagrams delivery)
    (bear : List.Forall₂ Bears sent written) :
    Carries Bears (messages ++ sent) (datagrams ++ written) delivery := by
  cases delivery with
  | inOrder => exact List.rel_append carries bear
  | lossy =>
    intro datagram member
    rcases List.mem_append.mp member with member | member
    · obtain ⟨message, inside, bears⟩ := carries datagram member
      exact ⟨message, List.mem_append_left _ inside, bears⟩
    · have new : Carries Bears sent written .lossy := of_forall₂ bear
      obtain ⟨message, inside, bears⟩ := new datagram member
      exact ⟨message, List.mem_append_right _ inside, bears⟩

theorem takes {datagram : Datagram} {left : List Datagram}
    (carries : Carries Bears messages datagrams delivery)
    (takes : delivery.Takes datagram datagrams left) :
    ∃ message rest, delivery.Takes message messages rest ∧ Bears message datagram ∧
      Carries Bears rest left delivery := by
  cases delivery with
  | inOrder =>
    have pairs : List.Forall₂ Bears messages datagrams := carries
    rw [show datagrams = datagram :: left from takes] at pairs
    obtain ⟨message, rest, bears, others, queue⟩ := List.forall₂_cons_right_iff.mp pairs
    exact ⟨message, rest, queue, bears, others⟩
  | lossy =>
    obtain ⟨waiting, rfl⟩ := takes
    obtain ⟨message, inside, bears⟩ := carries datagram waiting
    exact ⟨message, messages, ⟨inside, rfl⟩, bears, carries⟩

end Carries

/-- The parties are in these states, and what is under way between them are these messages. -/
structure Covers (delivery : Delivery) (Ready : Side → Port → Prop)
    (Bears : Side → Message → Datagram → Prop) (link : Link First Second Message)
    (wired : Link (Wired First Port) (Wired Second Port) Datagram) : Prop where
  first : wired.first.state = link.first
  second : wired.second.state = link.second
  firstPort : Ready .first wired.first.port
  secondPort : Ready .second wired.second.port
  toFirst : Carries (Bears .second) link.toFirst wired.toFirst delivery
  toSecond : Carries (Bears .first) link.toSecond wired.toSecond delivery

def Fitting (Fits : Side → Message → Prop) (link : Link First Second Message) : Prop :=
  (∀ message ∈ link.toFirst, Fits .second message) ∧ ∀ message ∈ link.toSecond, Fits .first message

section
variable {wire} {Fits : Side → Message → Prop} {Ready : Side → Port → Prop}
  {Bears : Side → Message → Datagram → Prop} {first : Party First FirstAct Choice Message Report}
  {second : Party Second SecondAct Choice Message Report} {delivery : Delivery}
  {link : Link First Second Message}
  {wired : Link (Wired First Port) (Wired Second Port) Datagram}

/-- Every step with ports is one without. -/
theorem Covers.moves (faithful : wire.Faithful Fits Ready Bears)
    (covers : Covers delivery Ready Bears link wired)
    {after : Link (Wired First Port) (Wired Second Port) Datagram} {reports : List Report}
    (moves : wired.Moves delivery (wire.party first) (wire.party second) after reports) :
    ∃ next, link.Moves delivery first second next reports ∧
      (Fitting Fits next → Covers delivery Ready Bears next after) := by
  obtain ⟨firstState, secondState, firstPort, secondPort, toFirst, toSecond⟩ := covers
  cases moves with
  | first acted =>
    obtain ⟨sent, done, written⟩ := faithful.acted firstPort acted
    rw [firstState] at done
    refine ⟨_, .first done, ?_⟩
    intro fitting
    obtain ⟨bear, ready⟩ := written fun message member =>
      fitting.2 message (List.mem_append_right _ member)
    exact ⟨rfl, secondState, ready, secondPort, toFirst, toSecond.append bear⟩
  | second acted =>
    obtain ⟨sent, done, written⟩ := faithful.acted secondPort acted
    rw [secondState] at done
    refine ⟨_, .second done, ?_⟩
    intro fitting
    obtain ⟨bear, ready⟩ := written fun message member =>
      fitting.1 message (List.mem_append_right _ member)
    exact ⟨firstState, rfl, firstPort, ready, toFirst.append bear, toSecond⟩
  | toFirst takes heard =>
    obtain ⟨message, rest, taken, bears, others⟩ := toFirst.takes takes
    obtain ⟨one, sent, done, written⟩ := faithful.heard firstPort (by decide) bears heard
    rw [firstState] at done
    refine ⟨_, .toFirst taken done, ?_⟩
    intro fitting
    obtain ⟨bear, ready⟩ := written fun message member =>
      fitting.2 message (List.mem_append_right _ member)
    exact ⟨rfl, secondState, ready, secondPort, others, toSecond.append bear⟩
  | toSecond takes heard =>
    obtain ⟨message, rest, taken, bears, others⟩ := toSecond.takes takes
    obtain ⟨one, sent, done, written⟩ := faithful.heard secondPort (by decide) bears heard
    rw [secondState] at done
    refine ⟨_, .toSecond taken done, ?_⟩
    intro fitting
    obtain ⟨bear, ready⟩ := written fun message member =>
      fitting.1 message (List.mem_append_right _ member)
    exact ⟨firstState, rfl, firstPort, ready, toFirst.append bear, others⟩

theorem Covers.run (faithful : wire.Faithful Fits Ready Bears) {start : Link First Second Message}
    (reach : ∀ log last, (Link.machine first second).Run start log last → Fitting Fits last)
    {last : Link (Wired First Port) (Wired Second Port) Datagram}
    {log : List (Taken (Link (Wired First Port) (Wired Second Port) Datagram)
      (LinkAction (FirstAct × (Nat → Memory)) (SecondAct × (Nat → Memory))
        (Arrival × List Choice × (Nat → Memory))) Report)}
    (run : (Link.machine (wire.party first) (wire.party second)).Run wired log last)
    (covers : Covers .inOrder Ready Bears start wired) :
    ∃ other link, (Link.machine first second).Run start other link ∧
      Covers .inOrder Ready Bears link last ∧ other.map Taken.outputs = log.map Taken.outputs := by
  refine run.simulated ?_ covers
  intro moves link taken before here legal
  obtain ⟨after, moved, still⟩ := here.moves faithful (Link.moves_machine_iff.mpr ⟨_, legal⟩)
  obtain ⟨action, step⟩ := Link.moves_machine_iff.mp moved
  refine ⟨action, after, step, still (reach (moves ++ [⟨link, action, after, taken.outputs⟩]) _ ?_)⟩
  exact before.snoc step

theorem Covers.run_lossy [DecidableEq Message] [DecidableEq Datagram]
    (faithful : wire.Faithful Fits Ready Bears) {start : Link First Second Message}
    (reach : ∀ log last, (Link.lossy first second).Run start log last → Fitting Fits last)
    {last : Link (Wired First Port) (Wired Second Port) Datagram}
    {log : List (Taken (Link (Wired First Port) (Wired Second Port) Datagram)
      (LossyAction (FirstAct × (Nat → Memory)) (SecondAct × (Nat → Memory))
        (Arrival × List Choice × (Nat → Memory)) Datagram) Report)}
    (run : (Link.lossy (wire.party first) (wire.party second)).Run wired log last)
    (covers : Covers .lossy Ready Bears start wired) :
    ∃ other link, (Link.lossy first second).Run start other link ∧
      Covers .lossy Ready Bears link last ∧ other.map Taken.outputs = log.map Taken.outputs := by
  refine run.simulated ?_ covers
  intro moves link taken before here legal
  obtain ⟨after, moved, still⟩ := here.moves faithful (Link.moves_lossy_iff.mpr ⟨_, legal⟩)
  obtain ⟨action, step⟩ := Link.moves_lossy_iff.mp moved
  refine ⟨action, after, step, still (reach (moves ++ [⟨link, action, after, taken.outputs⟩]) _ ?_)⟩
  exact before.snoc step

/-- What all steps without ports keep holds with ports, if it keeps all messages writable. -/
theorem Covers.invariant (Invariant : List Report → Link First Second Message → Prop)
    (faithful : wire.Faithful Fits Ready Bears)
    (step : ∀ {trace link after reports}, Invariant trace link →
      link.Moves .inOrder first second after reports → Invariant (trace ++ reports) after)
    (fitting : ∀ {trace link}, Invariant trace link → Fitting Fits link)
    {start : Link First Second Message} (initial : Invariant [] start)
    {last : Link (Wired First Port) (Wired Second Port) Datagram}
    {log : List (Taken (Link (Wired First Port) (Wired Second Port) Datagram)
      (LinkAction (FirstAct × (Nat → Memory)) (SecondAct × (Nat → Memory))
        (Arrival × List Choice × (Nat → Memory))) Report)}
    (run : (Link.machine (wire.party first) (wire.party second)).Run wired log last)
    (covers : Covers .inOrder Ready Bears start wired) :
    ∃ link, Covers .inOrder Ready Bears link last ∧
      Invariant (log.flatMap Taken.outputs) link := by
  obtain ⟨other, link, same, here, outputs⟩ := covers.run faithful
    (fun _ _ run => fitting (Link.machine_invariant step initial run)) run
  refine ⟨link, here, ?_⟩
  rw [List.flatMap_def, ← outputs, ← List.flatMap_def]
  exact Link.machine_invariant step initial same

theorem Covers.invariant_lossy [DecidableEq Message] [DecidableEq Datagram]
    (Invariant : List Report → Link First Second Message → Prop)
    (faithful : wire.Faithful Fits Ready Bears)
    (step : ∀ {trace link after reports}, Invariant trace link →
      link.Moves .lossy first second after reports → Invariant (trace ++ reports) after)
    (fitting : ∀ {trace link}, Invariant trace link → Fitting Fits link)
    {start : Link First Second Message} (initial : Invariant [] start)
    {last : Link (Wired First Port) (Wired Second Port) Datagram}
    {log : List (Taken (Link (Wired First Port) (Wired Second Port) Datagram)
      (LossyAction (FirstAct × (Nat → Memory)) (SecondAct × (Nat → Memory))
        (Arrival × List Choice × (Nat → Memory)) Datagram) Report)}
    (run : (Link.lossy (wire.party first) (wire.party second)).Run wired log last)
    (covers : Covers .lossy Ready Bears start wired) :
    ∃ link, Covers .lossy Ready Bears link last ∧ Invariant (log.flatMap Taken.outputs) link := by
  obtain ⟨other, link, same, here, outputs⟩ := covers.run_lossy faithful
    (fun _ _ run => fitting (Link.lossy_invariant step initial run)) run
  refine ⟨link, here, ?_⟩
  rw [List.flatMap_def, ← outputs, ← List.flatMap_def]
  exact Link.lossy_invariant step initial same

theorem Covers.can_move [Nonempty Memory] [Nonempty Arrival]
    (faithful : wire.Faithful Fits Ready Bears)
    (covers : Covers .inOrder Ready Bears link wired) {after : Link First Second Message}
    {reports : List Report} (moves : link.Moves .inOrder first second after reports)
    (fitting : Fitting Fits after) :
    ∃ next told, wired.Moves .inOrder (wire.party first) (wire.party second) next told := by
  obtain ⟨memory⟩ := ‹Nonempty Memory›
  obtain ⟨arrival⟩ := ‹Nonempty Arrival›
  obtain ⟨firstState, secondState, firstPort, secondPort, toFirst, toSecond⟩ := covers
  cases moves with
  | first acted =>
    rw [← firstState] at acted
    have can := faithful.can_act (fun _ => memory) firstPort acted fun message member =>
      fitting.2 message (List.mem_append_right _ member)
    obtain ⟨result, done⟩ := Option.isSome_iff_exists.mp can
    exact ⟨_, _, .first done⟩
  | second acted =>
    rw [← secondState] at acted
    have can := faithful.can_act (fun _ => memory) secondPort acted fun message member =>
      fitting.1 message (List.mem_append_right _ member)
    obtain ⟨result, done⟩ := Option.isSome_iff_exists.mp can
    exact ⟨_, _, .second done⟩
  | toFirst takes heard =>
    have pairs : List.Forall₂ (Bears .second) link.toFirst wired.toFirst := toFirst
    rw [show link.toFirst = _ :: _ from takes] at pairs
    obtain ⟨datagram, datagrams, bears, _, queue⟩ := List.forall₂_cons_left_iff.mp pairs
    rw [← firstState] at heard
    have can := faithful.can_hear arrival (fun _ => memory) firstPort (by decide) bears heard
      fun message member => fitting.2 message (List.mem_append_right _ member)
    obtain ⟨result, done⟩ := Option.isSome_iff_exists.mp can
    exact ⟨_, _, .toFirst (show Delivery.Takes _ _ _ .inOrder from queue) done⟩
  | toSecond takes heard =>
    have pairs : List.Forall₂ (Bears .first) link.toSecond wired.toSecond := toSecond
    rw [show link.toSecond = _ :: _ from takes] at pairs
    obtain ⟨datagram, datagrams, bears, _, queue⟩ := List.forall₂_cons_left_iff.mp pairs
    rw [← secondState] at heard
    have can := faithful.can_hear arrival (fun _ => memory) secondPort (by decide) bears heard
      fun message member => fitting.1 message (List.mem_append_right _ member)
    obtain ⟨result, done⟩ := Option.isSome_iff_exists.mp can
    exact ⟨_, _, .toSecond (show Delivery.Takes _ _ _ .inOrder from queue) done⟩

/-- Parties that complete without ports complete with them, and report the same. -/
theorem Covers.completes [Nonempty Memory] [Nonempty Arrival]
    (faithful : wire.Faithful Fits Ready Bears) {start : Link First Second Message}
    (covers : Covers .inOrder Ready Bears start wired) {reports : List Report}
    (reach : ∀ log last, (Link.machine first second).Run start log last → Fitting Fits last)
    (completes : Link.Completes first second start reports) :
    Link.Completes (wire.party first) (wire.party second) wired reports := by
  obtain ⟨bound, ends⟩ := completes
  refine ⟨bound, ?_⟩
  intro log last run
  obtain ⟨other, link, same, here, outputs⟩ := covers.run faithful reach run
  obtain ⟨short, reported⟩ := ends other link same
  have length := congrArg List.length outputs
  rw [List.length_map, List.length_map] at length
  refine ⟨by omega, ?_⟩
  intro stuck
  rw [List.flatMap_def, ← outputs, ← List.flatMap_def]
  apply reported
  intro action
  by_contra possible
  obtain ⟨⟨after, told⟩, step⟩ := Option.ne_none_iff_exists'.mp possible
  have legal : (Link.machine first second).Legal ⟨link, action, after, told⟩ := step
  obtain ⟨next, said, moves⟩ := here.can_move faithful (Link.moves_machine_iff.mpr ⟨action, step⟩)
    (reach _ after (.snoc same legal))
  obtain ⟨again, can⟩ := Link.moves_machine_iff.mp moves
  rw [stuck again] at can
  cases can

end

section
variable {Stage : Type u} {script : Script Stage Message Report} {Fits : Side → Message → Prop}

theorem fits_of_pending
    (fits : ∀ {stage turn message writer}, script.turn stage = some turn →
      turn.heard = some message → writer ≠ turn.side → Fits writer message)
    {side writer : Side} {stage : Stage} {message : Message} (opposite : writer ≠ side)
    (waiting : message ∈ script.pending side stage) : Fits writer message := by
  rw [Script.pending] at waiting
  split at waiting
  · cases waiting
  next turn going =>
    split at waiting
    next mine =>
      rw [← mine] at opposite
      exact fits going (Option.mem_toList.mp waiting) opposite
    · cases waiting

/-- Parties that keep to a script whose messages all fit come to its end with ports as well. -/
theorem Covers.completes_script [Nonempty Memory] [Nonempty Arrival]
    {first : Party First FirstAct Choice Message Report}
    {second : Party Second SecondAct Choice Message Report}
    {AtFirst : Stage → First → Prop} {AtSecond : Stage → Second → Prop}
    {firstWeight : First → Nat} {secondWeight : Second → Nat}
    {wire : Wire Port Memory Arrival Message Datagram} {Ready : Side → Port → Prop}
    {Bears : Side → Message → Datagram → Prop} (faithful : wire.Faithful Fits Ready Bears)
    (firstKeeps : first.Keeps .first script AtFirst firstWeight)
    (secondKeeps : second.Keeps .second script AtSecond secondWeight) {stage : Stage}
    {start : Link First Second Message} {reports : List Report}
    (onScript : OnScript script AtFirst AtSecond stage start)
    {wired : Link (Wired First Port) (Wired Second Port) Datagram}
    (covers : Covers .inOrder Ready Bears start wired)
    (fits : ∀ {stage turn message writer}, script.turn stage = some turn →
      turn.heard = some message → writer ≠ turn.side → Fits writer message)
    (completes : Link.Completes first second start reports) :
    Link.Completes (wire.party first) (wire.party second) wired reports := by
  refine covers.completes faithful ?_ completes
  intro log last run
  obtain ⟨next, there, _⟩ := onScript.run firstKeeps secondKeeps run
  constructor
  · intro message waiting
    rw [there.toFirst] at waiting
    exact fits_of_pending fits (by decide) waiting
  · intro message waiting
    rw [there.toSecond] at waiting
    exact fits_of_pending fits (by decide) waiting

end

end Wire
end PilotingMavsdk.Library
