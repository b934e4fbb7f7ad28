import PilotingMavsdk.Message

/-! What all work items share: the state of the base class and of the fields that each derived
class repeats, and the calls a handler makes on the sender, on the timeout handler and on the
user's callback, in the order in which it makes them. -/

namespace PilotingMavsdk

/-- The key of a timer, the address of its `Timeout` object. Zero is `nullptr`. -/
abbrev Cookie := Nat

/-- What the calls of one handler return. A handler sends at most one message and adds at most
one timer, so one value of each kind is enough. -/
structure Environment where
  sent : Bool
  cookie : Cookie
deriving DecidableEq, Repr

/-- `MAVLinkInspectionTransfer::Result`; the other list transfers lack `CurrentInvalid`. -/
inductive Result where
  | success
  | connectionError
  | timeout
  | cancelled
  | invalidSequence
  | currentInvalid
  | protocolError
deriving DecidableEq, Repr

def retries : Nat := 4

inductive Effect (Report : Type) where
  | sendMessage (message : Message) (sent : Bool)
  | addTimeout (cookie : Cookie)
  | refreshTimeout (cookie : Cookie)
  | removeTimeout (cookie : Cookie)
  | callback (report : Report)
deriving DecidableEq, Repr

/-- Everything but the calls that postpone or remove the item's own timer. -/
@[simp] def Effect.loud {Report : Type} : Effect Report → Bool
  | .sendMessage _ _ | .addTimeout _ | .callback _ => true
  | .refreshTimeout _ | .removeTimeout _ => false

@[simp] def Effect.timer {Report : Type} : Effect Report → Bool
  | .sendMessage _ _ | .callback _ => false
  | .addTimeout _ | .refreshTimeout _ | .removeTimeout _ => true

/-- What the user's callback is called with. -/
def Effect.reported {Report : Type} : Effect Report → Option Report
  | .callback report => some report
  | _ => none

/-- What a call of `add` or `remove` makes of the pending timers. -/
def Effect.pendingAfter {Report : Type} (pending : List Cookie) (effect : Effect Report) :
    List Cookie :=
  match effect with
  | .addTimeout cookie => pending ++ [cookie]
  | .removeTimeout cookie => pending.filter (· ≠ cookie)
  | _ => pending

/-- The call does nothing, because no such timer is pending. -/
@[simp] def Effect.Idle {Report : Type} (pending : List Cookie) : Effect Report → Prop
  | .refreshTimeout cookie | .removeTimeout cookie => cookie ∉ pending
  | _ => False

theorem Effect.pendingAfter_of_idle {Report : Type} {pending : List Cookie}
    {effects : List (Effect Report)} (idle : ∀ effect ∈ effects, effect.Idle pending) :
    effects.foldl Effect.pendingAfter pending = pending := by
  induction effects with
  | nil => rfl
  | cons effect effects ih =>
    have first := idle effect (by simp)
    have same : Effect.pendingAfter pending effect = pending := by
      cases effect with
      | refreshTimeout => rfl
      | removeTimeout cookie =>
        apply List.filter_eq_self.mpr
        intro other member
        simpa using fun same : other = cookie => first (same ▸ member)
      | sendMessage | addTimeout | callback => cases first
    rw [List.foldl_cons, same]
    exact ih fun other member => idle other (by simp [member])

/-- `handlers` are the ids under which the dispatch table holds a callback of this item. The
callback itself is only tested for emptiness, called and reset. -/
structure WorkItem where
  sender : Sender
  handlers : List Nat := []
  started : Bool := false
  done : Bool := false
  callback : Bool
  cookie : Cookie := 0
  retriesDone : Nat := 0
deriving DecidableEq, Repr

/-- What one call of a member function leaves behind. -/
structure Outcome (Item Report : Type) where
  item : Item
  effects : List (Effect Report) := []
deriving DecidableEq, Repr

namespace Outcome
variable {Item Report : Type}

def after (effects : List (Effect Report)) (outcome : Outcome Item Report) : Outcome Item Report :=
  ⟨outcome.item, effects ++ outcome.effects⟩

def followedBy (outcome : Outcome Item Report) (effects : List (Effect Report)) :
    Outcome Item Report :=
  ⟨outcome.item, outcome.effects ++ effects⟩

def pendingAfter (outcome : Outcome Item Report) (pending : List Cookie) : List Cookie :=
  outcome.effects.foldl Effect.pendingAfter pending

/-- `if (!_sender.send_message(message)) { failed; return; } sent;` -/
def sending (environment : Environment) (message : Message) (failed sent : Outcome Item Report) :
    Outcome Item Report :=
  (if environment.sent then sent else failed).after [.sendMessage message environment.sent]

@[simp] theorem after_item (effects : List (Effect Report)) (outcome : Outcome Item Report) :
    (outcome.after effects).item = outcome.item := rfl

@[simp] theorem after_effects (effects : List (Effect Report)) (outcome : Outcome Item Report) :
    (outcome.after effects).effects = effects ++ outcome.effects := rfl

@[simp] theorem followedBy_item (effects : List (Effect Report)) (outcome : Outcome Item Report) :
    (outcome.followedBy effects).item = outcome.item := rfl

@[simp] theorem followedBy_effects (effects : List (Effect Report))
    (outcome : Outcome Item Report) :
    (outcome.followedBy effects).effects = outcome.effects ++ effects := rfl

/-- Nothing is sent, no timer is added and no callback is called. -/
def Silent (outcome : Outcome Item Report) : Prop := ∀ effect ∈ outcome.effects, effect.loud = false

@[simp] theorem silent_mk (item : Item) (effects : List (Effect Report)) :
    Silent ⟨item, effects⟩ ↔ ∀ effect ∈ effects, effect.loud = false := Iff.rfl

@[simp] theorem silent_after (effects : List (Effect Report)) (outcome : Outcome Item Report) :
    (outcome.after effects).Silent ↔
      (∀ effect ∈ effects, effect.loud = false) ∧ outcome.Silent := by
  simp [Silent, or_imp, forall_and]

@[simp] theorem silent_followedBy (effects : List (Effect Report))
    (outcome : Outcome Item Report) : (outcome.followedBy effects).Silent ↔
      outcome.Silent ∧ (∀ effect ∈ effects, effect.loud = false) := by
  simp [Silent, or_imp, forall_and]

@[simp] theorem not_silent_sending (environment : Environment) (message : Message)
    (failed sent : Outcome Item Report) : ¬(sending environment message failed sent).Silent := by
  simp [sending]

@[simp] theorem pendingAfter_mk (item : Item) (effects : List (Effect Report))
    (pending : List Cookie) :
    pendingAfter ⟨item, effects⟩ pending = effects.foldl Effect.pendingAfter pending := rfl

@[simp] theorem pendingAfter_after (effects : List (Effect Report))
    (outcome : Outcome Item Report) (pending : List Cookie) :
    (outcome.after effects).pendingAfter pending =
      outcome.pendingAfter (effects.foldl Effect.pendingAfter pending) := by
  simp [pendingAfter]

@[simp] theorem pendingAfter_followedBy (effects : List (Effect Report))
    (outcome : Outcome Item Report) (pending : List Cookie) :
    (outcome.followedBy effects).pendingAfter pending =
      effects.foldl Effect.pendingAfter (outcome.pendingAfter pending) := by
  simp [pendingAfter]

@[simp] theorem sending_item (environment : Environment) (message : Message)
    (failed sent : Outcome Item Report) : (sending environment message failed sent).item =
      if environment.sent then sent.item else failed.item := by
  simp only [sending, after_item]
  split <;> rfl

@[simp] theorem pendingAfter_sending (environment : Environment) (message : Message)
    (failed sent : Outcome Item Report) (pending : List Cookie) :
    (sending environment message failed sent).pendingAfter pending =
      if environment.sent then sent.pendingAfter pending else failed.pendingAfter pending := by
  cases sent : environment.sent <;> simp [sending, sent, Effect.pendingAfter]

theorem sending_sent (environment : Environment) (message : Message)
    (failed sent : Outcome Item Report) (delivered : environment.sent = true) :
    sending environment message failed sent = sent.after [.sendMessage message true] := by
  simp [sending, delivered]

end Outcome
end PilotingMavsdk
