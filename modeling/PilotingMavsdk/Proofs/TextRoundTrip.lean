import PilotingMavsdk.TextFields

/-! Which strings come through a text field. The handlers read on until they find a zero, so a
string that fills its field comes through only if what follows the field begins with one. -/

namespace PilotingMavsdk
open Library

theorem trimmedLength_le (payload : Bytes) (length : Nat) :
    trimmedLength payload length ≤ length := by
  induction length using trimmedLength.induct payload with
  | case1 => exact Nat.le_refl 0
  | case2 => exact Nat.le_refl 1
  | case3 length zero ih =>
    rw [trimmedLength, if_pos zero]
    exact Nat.le_succ_of_le ih
  | case4 length other =>
    have kept : trimmedLength payload (length + 2) = length + 2 := by
      rw [trimmedLength, if_neg other]
    exact Nat.le_of_eq kept

private theorem take_trimmedLength (payload : Bytes) (length : Nat)
    (inside : length ≤ payload.length) :
    payload.take (trimmedLength payload length) ++
      List.replicate (length - trimmedLength payload length) 0 = payload.take length := by
  induction length using trimmedLength.induct payload with
  | case1 => simp [trimmedLength]
  | case2 => simp [trimmedLength]
  | case3 length zero ih =>
    have shorter := trimmedLength_le payload (length + 1)
    have left : length + 2 - trimmedLength payload (length + 1) =
        length + 1 - trimmedLength payload (length + 1) + 1 := by omega
    have last : payload.take (length + 2) =
        payload.take (length + 1) ++ payload[length + 1]?.toList := List.take_add_one
    rw [trimmedLength, if_pos zero, left, List.replicate_succ', ← List.append_assoc,
      ih (by omega), last, zero]
    rfl
  | case4 length other =>
    rw [trimmedLength, if_neg other, Nat.sub_self]
    simp

theorem decode_trimPayload (payload : Bytes) :
    decode payload.length (trimPayload payload) = payload := by
  have shorter := trimmedLength_le payload payload.length
  have whole := take_trimmedLength payload payload.length (Nat.le_refl _)
  have length : (trimPayload payload).length = trimmedLength payload payload.length := by
    rw [trimPayload, List.length_take]
    omega
  rw [decode, length, List.take_of_length_le (by omega), trimPayload, whole, List.take_length]

private theorem received_eq (message : TextMessage) (behind : Bytes) :
    message.received behind = message.pack ++ behind := by
  rw [TextMessage.received, decode_trimPayload]

/-- The first byte of `c_str()`. -/
def StdString.first (string : StdString) : UInt8 := string.text.headD 0

private theorem StdString.head_copy (string : StdString) (width : Nat) (rest : Bytes) :
    (string.copy (width + 1) ++ rest).head? = some string.first := by
  cases whole : string.text with
  | nil => simp [StdString.copy, fixedWidth, StdString.first, whole]
  | cons byte text => simp [StdString.copy, fixedWidth, StdString.first, whole]

namespace TextField
variable {field : TextField} {before rest : Bytes} (string : StdString)

private theorem read_iff (place : before.length = field.offset) :
    field.read (before ++ (string.copy field.width ++ rest)) =
        some (string.text.take field.width) ↔
      string.text.length < field.width ∨ rest.head? = some 0 := by
  rw [read, ← place, List.drop_left]
  exact cString_fixedWidth_iff string.nulFree

private theorem readWithNull_eq (place : before.length = field.offset) :
    field.readWithNull (before ++ (string.copy field.width ++ rest)) =
      some (string.text.take field.width) := by
  have width : (string.copy field.width).length = field.width := length_fixedWidth
  rw [readWithNull, ← place, List.drop_left, List.take_left' width]
  exact cString_fixedWidth_zero string.nulFree

end TextField

/-- A string that is sent in a field, and the byte that follows the field in the receiver's
memory. -/
structure SentField where
  width : Nat
  string : StdString
  next : Option UInt8

def TextMessage.fields (behind : Bytes) : TextMessage → List SentField
  | .waypointListCount _ _ planUuid _ _ => [⟨37, planUuid, behind.head?⟩]
  | .waypointListItem _ _ _ taskUuid taskTypeUuid _ autocontinue _ _ _ _ _ _ _ =>
    [⟨37, taskUuid, some taskTypeUuid.first⟩, ⟨37, taskTypeUuid, some autocontinue⟩]
  | .checkListItem _ _ _ name description | .alarmListItem _ _ _ name description =>
    [⟨20, name, some description.first⟩, ⟨231, description, behind.head?⟩]
  | .hlActionListItem _ _ _ _ name description =>
    [⟨20, name, some description.first⟩, ⟨229, description, behind.head?⟩]
  | .textStatus _ text => [⟨254, text, behind.head?⟩]

namespace SentField

/-- What both sides would expect of a text field. -/
def ComesThrough (result : Option Bytes) (field : SentField) : Prop :=
  result = some (field.string.text.take field.width)

/-- The string leaves room for its zero, or the handler adds one, or one follows the field. -/
def Fits (handler : TextHandler) (field : SentField) : Prop :=
  field.string.text.length < field.width ∨ handler = .processTextStatus ∨ field.next = some 0

private theorem fits_iff {handler : TextHandler} {field : SentField}
    (other : handler ≠ .processTextStatus) : field.Fits handler ↔
      field.string.text.length < field.width ∨ field.next = some 0 := by
  rw [Fits]
  simp [other]

end SentField

/-- Each string of a handler comes through exactly if it fits. -/
def Exact (handler : TextHandler) : List (Option Bytes) → List SentField → Prop :=
  List.Forall₂ fun result field => field.ComesThrough result ↔ field.Fits handler

section
variable {handler : TextHandler} (other : handler ≠ .processTextStatus)
include other

private theorem exact_read {field : TextField} {before rest : Bytes}
    (place : before.length = field.offset) (string : StdString) :
    Exact handler [field.read (before ++ (string.copy field.width ++ rest))]
      [⟨field.width, string, rest.head?⟩] := by
  refine .cons ?_ .nil
  rw [SentField.fits_iff other]
  exact TextField.read_iff string place

/-- Of two fields that follow each other, the first one may be read on into the second one. -/
private theorem exact_read_two (first second : TextField) {memory before rest : Bytes}
    (name description : StdString) (place : before.length = first.offset)
    (next : first.offset + first.width = second.offset) (wide : 0 < second.width)
    (layout : memory =
      before ++ (name.copy first.width ++ (description.copy second.width ++ rest))) :
    Exact handler [first.read memory, second.read memory]
      [⟨first.width, name, some description.first⟩, ⟨second.width, description, rest.head?⟩] := by
  have further : (before ++ name.copy first.width).length = second.offset := by
    rw [List.length_append, place, StdString.copy, length_fixedWidth, next]
  refine .cons ?_ ?_
  · rw [SentField.fits_iff other]
    have head : (description.copy second.width ++ rest).head? = some description.first := by
      rw [← Nat.sub_add_cancel wide]
      exact description.head_copy _ rest
    rw [layout, ← head]
    exact TextField.read_iff name place
  · have regrouped : memory =
        (before ++ name.copy first.width) ++ (description.copy second.width ++ rest) := by
      rw [layout, List.append_assoc]
    rw [regrouped]
    exact exact_read other further description

private theorem exact_count (targetSystem targetComponent : UInt8) (planUuid : StdString)
    (syncId : UInt32) (count : UInt16) (behind : Bytes) :
    let message :=
      TextMessage.waypointListCount targetSystem targetComponent planUuid syncId count
    Exact handler [TextField.planUuid.read (message.pack ++ behind)] (message.fields behind) := by
  let before := uint32Bytes syncId ++ uint16Bytes count ++ [targetSystem, targetComponent]
  have place : before.length = TextField.planUuid.offset := rfl
  show Exact handler [TextField.planUuid.read ((before ++ planUuid.copy 37) ++ behind)] _
  rw [List.append_assoc]
  exact exact_read other place planUuid

private theorem exact_listItem (targetSystem targetComponent : UInt8) (index : UInt16)
    (name description : StdString) (behind : Bytes) :
    let message := TextMessage.checkListItem targetSystem targetComponent index name description
    Exact handler [TextField.listItemName.read (message.pack ++ behind),
      TextField.listItemDescription.read (message.pack ++ behind)] (message.fields behind) := by
  let before := uint16Bytes index ++ [targetSystem, targetComponent]
  have place : before.length = TextField.listItemName.offset := rfl
  apply exact_read_two other .listItemName .listItemDescription name description place rfl
    (by decide)
  simp only [before, TextMessage.pack, List.append_assoc]
  rfl

private theorem exact_hlActionItem (targetSystem targetComponent : UInt8) (index command : UInt16)
    (name description : StdString) (behind : Bytes) :
    let message :=
      TextMessage.hlActionListItem targetSystem targetComponent index command name description
    Exact handler [TextField.hlActionName.read (message.pack ++ behind),
      TextField.hlActionDescription.read (message.pack ++ behind)] (message.fields behind) := by
  let before := uint16Bytes index ++ uint16Bytes command ++ [targetSystem, targetComponent]
  have place : before.length = TextField.hlActionName.offset := rfl
  apply exact_read_two other .hlActionName .hlActionDescription name description place rfl
    (by decide)
  simp only [before, TextMessage.pack, List.append_assoc]
  rfl

private theorem exact_inspectionItem (targetSystem targetComponent : UInt8) (seq : UInt16)
    (taskUuid taskTypeUuid : StdString) (command : UInt16) (autocontinue : UInt8)
    (param1 param2 param3 param4 x y z : UInt32) (behind : Bytes) :
    let message := TextMessage.waypointListItem targetSystem targetComponent seq taskUuid
      taskTypeUuid command autocontinue param1 param2 param3 param4 x y z
    Exact handler [TextField.taskUuid.read (message.pack ++ behind),
      TextField.taskTypeUuid.read (message.pack ++ behind)] (message.fields behind) := by
  let before := uint32Bytes param1 ++ uint32Bytes param2 ++ uint32Bytes param3 ++
    uint32Bytes param4 ++ uint32Bytes x ++ uint32Bytes y ++ uint32Bytes z ++ uint16Bytes seq ++
    uint16Bytes command ++ [targetSystem, targetComponent]
  have place : before.length = TextField.taskUuid.offset := by
    simp [before, uint32Bytes, uint16Bytes, TextField.taskUuid]
  have layout : (TextMessage.waypointListItem targetSystem targetComponent seq taskUuid taskTypeUuid
      command autocontinue param1 param2 param3 param4 x y z).pack ++ behind =
      before ++ (taskUuid.copy 37 ++ (taskTypeUuid.copy 37 ++ ([autocontinue] ++ behind))) := by
    simp only [before, TextMessage.pack, List.append_assoc]
  exact exact_read_two other .taskUuid .taskTypeUuid taskUuid taskTypeUuid place rfl (by decide)
    layout

end

private theorem exact_textStatus (type : TextStatusType) (text : StdString) (behind : Bytes) :
    let message := TextMessage.textStatus type text
    Exact .processTextStatus [TextField.text.readWithNull (message.pack ++ behind)]
      (message.fields behind) := by
  intro message
  have place : [type.severity].length = TextField.text.offset := rfl
  have memory : message.pack ++ behind = [type.severity] ++ (text.copy 254 ++ behind) := by
    simp only [message, TextMessage.pack, List.append_assoc]
  rw [memory]
  refine .cons (iff_of_true ?_ (.inr (.inl rfl))) .nil
  exact TextField.readWithNull_eq text place

/-- Whatever the strings are, whatever lies behind them in the sender's memory and behind the
structure in the receiver's, and whatever the other fields contain: a string that a handler stores
is the beginning of the one that was sent if and only if it is shorter than its field, or the
handler adds a zero, or one follows the field. -/
theorem comesThrough_iff (message : TextMessage) (behind : Bytes) :
    ∀ handler ∈ message.handlers, ∀ stored ∈ handler.store (message.received behind),
      Exact handler stored (message.fields behind) := by
  intro handler handles stored stores
  rw [received_eq] at stores
  cases message with
  | waypointListCount targetSystem targetComponent planUuid syncId count =>
    rcases List.mem_pair.mp handles with rfl | rfl
    · simp only [TextHandler.store] at stores
      split at stores
      · cases stores
      · cases stores
        exact exact_count (by decide) targetSystem targetComponent planUuid syncId count behind
    · cases stores
      exact exact_count (by decide) targetSystem targetComponent planUuid syncId count behind
  | waypointListItem targetSystem targetComponent seq taskUuid taskTypeUuid command autocontinue
      param1 param2 param3 param4 x y z =>
    cases List.mem_singleton.mp handles
    cases stores
    exact exact_inspectionItem (by decide) targetSystem targetComponent seq taskUuid taskTypeUuid
      command autocontinue param1 param2 param3 param4 x y z behind
  | checkListItem targetSystem targetComponent index name description
  | alarmListItem targetSystem targetComponent index name description =>
    cases List.mem_singleton.mp handles
    cases stores
    exact exact_listItem (by decide) targetSystem targetComponent index name description behind
  | hlActionListItem targetSystem targetComponent index command name description =>
    cases List.mem_singleton.mp handles
    cases stores
    exact exact_hlActionItem (by decide) targetSystem targetComponent index command name
      description behind
  | textStatus type text =>
    cases List.mem_singleton.mp handles
    simp only [TextHandler.store] at stores
    split at stores
    · cases stores
      exact exact_textStatus type text behind
    · cases stores

def shortCheck : TextMessage :=
  .checkListItem 1 1 0 ⟨[65, 66], by decide, fun _ => 255⟩ ⟨[67], by decide, fun _ => 255⟩

/-- The name fills its field, and the empty description that follows begins with a zero. -/
def fullCheck : TextMessage :=
  .checkListItem 1 1 0 ⟨List.replicate 20 65, by decide, fun _ => 255⟩
    ⟨[], by decide, fun _ => 255⟩

theorem shortCheck_comesThrough :
    Exact .processChecklistItem [TextField.listItemName.read (shortCheck.received [1]),
      TextField.listItemDescription.read (shortCheck.received [1])] (shortCheck.fields [1]) ∧
    Exact .processChecklistItem [TextField.listItemName.read (fullCheck.received [1]),
      TextField.listItemDescription.read (fullCheck.received [1])] (fullCheck.fields [1]) ∧
    TextField.listItemName.read (fullCheck.received [1]) = some (List.replicate 20 65) := by
  refine ⟨?_, ?_, by decide +kernel⟩
  · exact comesThrough_iff shortCheck [1] .processChecklistItem (List.mem_singleton_self _) _ rfl
  · exact comesThrough_iff fullCheck [1] .processChecklistItem (List.mem_singleton_self _) _ rfl

private theorem uint16At_uint16Bytes (before rest : Bytes) (value : UInt16) :
    uint16At before.length (before ++ (uint16Bytes value ++ rest)) = value := by
  have small := value.toNat_lt
  have split : value.toNat % 256 + 256 * (value.toNat / 256 % 256) = value.toNat := by omega
  have first : (before ++ (uint16Bytes value ++ rest)).getD before.length 0 =
      UInt8.ofNat value.toNat := by
    simp [uint16Bytes]
  have second : (before ++ (uint16Bytes value ++ rest)).getD (before.length + 1) 0 =
      UInt8.ofNat (value.toNat / 256) := by
    simp [uint16Bytes]
  rw [uint16At, first, second]
  simp only [UInt8.toNat_ofNat', split]
  exact UInt16.ofNat_toNat

/-- Every message but the count of an empty plan has its strings stored. -/
theorem store_isSome {message : TextMessage} (behind : Bytes)
    (counted : ∀ targetSystem targetComponent planUuid syncId,
      message ≠ .waypointListCount targetSystem targetComponent planUuid syncId 0) :
    ∀ handler ∈ message.handlers, (handler.store (message.received behind)).isSome = true := by
  intro handler handles
  rw [received_eq]
  cases message with
  | waypointListCount targetSystem targetComponent planUuid syncId count =>
    rcases List.mem_pair.mp handles with rfl | rfl
    · have nonzero : count ≠ 0 := by
        rintro rfl
        exact counted targetSystem targetComponent planUuid syncId rfl
      have read := uint16At_uint16Bytes (uint32Bytes syncId)
        ([targetSystem, targetComponent] ++ planUuid.copy 37 ++ behind) count
      have place : (uint32Bytes syncId).length = 4 := rfl
      simp only [TextHandler.store, TextMessage.pack, List.append_assoc] at read ⊢
      rw [place] at read
      rw [read, if_neg nonzero]
      rfl
    · rfl
  | waypointListItem | checkListItem | alarmListItem | hlActionListItem =>
    cases List.mem_singleton.mp handles
    rfl
  | textStatus type text =>
    cases List.mem_singleton.mp handles
    cases type <;> rfl

/-- A name that fills its field is read on into the description. -/
theorem name_read_on : ¬∀ (message : TextMessage) (behind : Bytes),
    ∀ handler ∈ message.handlers, ∀ stored ∈ handler.store (message.received behind),
      List.Forall₂ (fun result field => field.ComesThrough result) stored
        (message.fields behind) := by
  intro through
  let name : StdString := ⟨List.replicate 20 65, by decide, fun _ => 0⟩
  let description : StdString := ⟨[66], by decide, fun _ => 0⟩
  have stored := through (.checkListItem 1 1 0 name description) [] .processChecklistItem
    (List.mem_singleton_self _) _ rfl
  have read := exact_listItem (by decide : TextHandler.processChecklistItem ≠ .processTextStatus)
    1 1 0 name description []
  rw [received_eq] at stored
  obtain ⟨nameStored, _⟩ := List.forall₂_cons.mp stored
  obtain ⟨whenFits, _⟩ := List.forall₂_cons.mp read
  have fits := whenFits.mp nameStored
  revert fits
  simp [SentField.Fits, name, description, StdString.first]

end PilotingMavsdk
