import PilotingMavsdk.Library.Indexed
import PilotingMavsdk.WorkItem

/-! The four list protocols: inspection, checklist, alarm and HL action. Their work items are
copies of each other up to the message types and constants collected here. -/

namespace PilotingMavsdk
open Library

structure ListProtocol (Header Item Ack : Type) where
  payload : ListMessage Header Item → Payload
  decode : Payload → Option (ListMessage Header Item)
  id : ListMessage.Kind → Nat
  noHeader : Header
  seq : Item → UInt16
  /-- The item as the pack call writes it: its own fields under the given number. -/
  numbered : UInt16 → Item → Item
  /-- The acknowledgement types that the work items send. -/
  accepted : UInt8
  cancelled : UInt8
  toAck : UInt8 → Ack
  unknownAck : Ack
  decode_payload : ∀ message, decode (payload message) = some message
  payload_of_decode : ∀ {wire message}, decode wire = some message → wire = payload message
  id_payload : ∀ message, (payload message).msgId = id message.kind
  id_injective : Function.Injective id
  seq_numbered : ∀ number item, seq (numbered number item) = number
  numbered_seq : ∀ item, numbered (seq item) item = item

inductive InspectionAck where
  | accepted | error | unsupported | noSpace | invalid
  | invalidParam1 | invalidParam2 | invalidParam3 | invalidParam4 | invalidParam5 | invalidParam6
  | invalidParam7
  | invalidSequence | cancelled | unknown
deriving DecidableEq, Repr

/-- The `Ack` of the checklist, alarm and HL action transfers. -/
inductive ListAck where
  | accepted | error | noSpace | invalidSequence | cancelled | unknown
deriving DecidableEq, Repr

/-- `WAYPOINT_LIST_RESULT`. -/
def InspectionAck.ofType (type : UInt8) : InspectionAck :=
  match type.toNat with
  | 0 => .accepted
  | 1 => .error
  | 2 => .unsupported
  | 3 => .noSpace
  | 4 => .invalid
  | 5 => .invalidParam1
  | 6 => .invalidParam2
  | 7 => .invalidParam3
  | 8 => .invalidParam4
  | 9 => .invalidParam5
  | 10 => .invalidParam6
  | 11 => .invalidParam7
  | 12 => .invalidSequence
  | 13 => .cancelled
  | _ => .unknown

/-- `CHECK_LIST_RESULT`, and with the same values `ALARM_LIST_RESULT` and
`HL_ACTION_LIST_RESULT`. -/
def ListAck.ofType (type : UInt8) : ListAck :=
  match type.toNat with
  | 0 => .accepted
  | 1 => .error
  | 2 => .noSpace
  | 3 => .invalidSequence
  | 4 => .cancelled
  | _ => .unknown

def inspection : ListProtocol PlanId WaypointItem InspectionAck where
  payload := .waypointList
  decode
    | .waypointList message => some message
    | _ => none
  id
    | .count => 180
    | .read => 181
    | .item => 182
    | .ack => 183
    | .request => 184
  noHeader := {}
  seq := WaypointItem.seq
  numbered number item := { item with seq := number }
  accepted := 0
  cancelled := 13
  toAck := InspectionAck.ofType
  unknownAck := .unknown
  decode_payload _ := rfl
  payload_of_decode {wire message} decoded := by cases wire <;> simp_all
  id_payload message := by cases message <;> rfl
  id_injective := by intro first second same; cases first <;> cases second <;> simp_all
  seq_numbered _ _ := rfl
  numbered_seq _ := rfl

def checklist : ListProtocol Unit ChecklistItem ListAck where
  payload := .checkList
  decode
    | .checkList message => some message
    | _ => none
  id
    | .request => 188
    | .count => 189
    | .read => 190
    | .item => 191
    | .ack => 193
  noHeader := ()
  seq := ChecklistItem.index
  numbered number item := { item with index := number }
  accepted := 0
  cancelled := 4
  toAck := ListAck.ofType
  unknownAck := .unknown
  decode_payload _ := rfl
  payload_of_decode {wire message} decoded := by cases wire <;> simp_all
  id_payload message := by cases message <;> rfl
  id_injective := by intro first second same; cases first <;> cases second <;> simp_all
  seq_numbered _ _ := rfl
  numbered_seq _ := rfl

/-- The work items send the `CHECK_LIST_*` constants, whose values are those of
`ALARM_LIST_ACCEPTED` and `ALARM_LIST_CANCELLED`. -/
def alarm : ListProtocol Unit AlarmItem ListAck where
  payload := .alarmList
  decode
    | .alarmList message => some message
    | _ => none
  id
    | .request => 194
    | .count => 195
    | .read => 196
    | .item => 197
    | .ack => 198
  noHeader := ()
  seq := AlarmItem.index
  numbered number item := { item with index := number }
  accepted := 0
  cancelled := 4
  toAck := ListAck.ofType
  unknownAck := .unknown
  decode_payload _ := rfl
  payload_of_decode {wire message} decoded := by cases wire <;> simp_all
  id_payload message := by cases message <;> rfl
  id_injective := by intro first second same; cases first <;> cases second <;> simp_all
  seq_numbered _ _ := rfl
  numbered_seq _ := rfl

/-- Here too the work items send `CHECK_LIST_ACCEPTED` and `CHECK_LIST_CANCELLED`. -/
def hlAction : ListProtocol Unit HLActionItem ListAck where
  payload := .hlActionList
  decode
    | .hlActionList message => some message
    | _ => none
  id
    | .request => 199
    | .count => 200
    | .read => 201
    | .item => 202
    | .ack => 203
  noHeader := ()
  seq := HLActionItem.index
  numbered number item := { item with index := number }
  accepted := 0
  cancelled := 4
  toAck := ListAck.ofType
  unknownAck := .unknown
  decode_payload _ := rfl
  payload_of_decode {wire message} decoded := by cases wire <;> simp_all
  id_payload message := by cases message <;> rfl
  id_injective := by intro first second same; cases first <;> cases second <;> simp_all
  seq_numbered _ _ := rfl
  numbered_seq _ := rfl

namespace ListProtocol
variable {Header Item Ack : Type} (protocol : ListProtocol Header Item Ack)

@[simp] theorem payload_inj {first second : ListMessage Header Item} :
    protocol.payload first = protocol.payload second ↔ first = second := by
  constructor
  · intro same
    have decoded := congrArg protocol.decode same
    simpa [protocol.decode_payload] using decoded
  · rintro rfl
    rfl

def dispatched (item : WorkItem) (message : Message) : Option (ListMessage Header Item) :=
  if message.payload.msgId ∈ item.handlers then protocol.decode message.payload else none

/-- The loop of `start()`: `if (count++ != item.seq)`. -/
def sequenceValid : Nat → List Item → Bool
  | _, [] => true
  | count, item :: rest =>
    if count ≠ (protocol.seq item).toNat then false else sequenceValid (count + 1) rest

def position (item : Item) : Nat := (protocol.seq item).toNat

theorem sequenceValid_iff (items : List Item) :
    protocol.sequenceValid 0 items = true ↔ Indexed protocol.position items := by
  have shifted : ∀ (items : List Item) (count : Nat), protocol.sequenceValid count items = true ↔
      ∀ place item, items[place]? = some item → protocol.position item = count + place := by
    intro items
    induction items with
    | nil => simp [sequenceValid]
    | cons item items ih =>
      intro count
      simp only [sequenceValid, ne_eq, ite_not, Bool.if_false_right, Bool.and_eq_true,
        decide_eq_true_eq, ih]
      constructor
      · intro ⟨first, rest⟩ place other found
        cases place with
        | zero =>
          simp only [List.getElem?_cons_zero, Option.some.injEq] at found
          subst other
          exact first.symm
        | succ place =>
          rw [List.getElem?_cons_succ] at found
          rw [rest place other found]
          omega
      · intro all
        refine ⟨(all 0 item rfl).symm, ?_⟩
        intro place other found
        rw [all (place + 1) other (by simpa using found)]
        omega
  simpa [Indexed] using shifted items 0

theorem length_le {items : List Item} (valid : Indexed protocol.position items) :
    items.length ≤ 65536 := by
  by_contra long
  have inside : 65536 < items.length := by omega
  have number := valid 65536 _ (List.getElem?_eq_getElem inside)
  have bound := UInt16.toNat_lt (protocol.seq items[65536])
  simp only [position] at number
  omega

end ListProtocol
end PilotingMavsdk
