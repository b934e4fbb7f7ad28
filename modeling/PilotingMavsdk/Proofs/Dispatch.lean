import Mathlib.Algebra.Group.Nat.Defs
import PilotingMavsdk.MavlinkMessageHandler

/-! Who hears of a message. Among ids of 16 bits the table is exact for every history of
registrations; a longer id is cut off when it is registered and never found again. -/

namespace PilotingMavsdk

namespace HandlerCall
variable {Callback : Type}

/-- The call ends what was registered for the id under this cookie. -/
def Ends (id : MessageId) (cookie : Cookie) : HandlerCall Callback → Prop
  | register _ _ _ => False
  | unregister other otherCookie => other = id ∧ otherCookie = cookie
  | unregisterAll otherCookie => otherCookie = cookie

instance (id : MessageId) (cookie : Cookie) :
    (call : HandlerCall Callback) → Decidable (call.Ends id cookie)
  | register _ _ _ => .isFalse not_false
  | unregister _ _ => inferInstanceAs (Decidable (_ ∧ _))
  | unregisterAll _ => inferInstanceAs (Decidable (_ = _))

/-- The callbacks that were registered for the id and not unregistered since, one for each
registration and in their order. -/
def registered (id : MessageId) : List (HandlerCall Callback) → List Callback
  | [] => []
  | register other callback cookie :: later =>
    if other = id ∧ ∀ call ∈ later, ¬call.Ends id cookie then callback :: registered id later
    else registered id later
  | unregister _ _ :: later | unregisterAll _ :: later => registered id later

def Fits : HandlerCall Callback → Prop
  | register id _ _ | unregister id _ => id.toNat < 2 ^ 16
  | unregisterAll _ => True

instance : (call : HandlerCall Callback) → Decidable call.Fits
  | register _ _ _ | unregister _ _ => inferInstanceAs (Decidable (_ < _))
  | unregisterAll _ => .isTrue trivial

end HandlerCall

namespace MAVLinkMessageHandler
open HandlerCall
variable {Callback : Type}

private theorem eraseAll_eq_filter (matching : Entry Callback → Bool)
    (entries : List (Entry Callback)) :
    eraseAll matching entries = entries.filter (!matching ·) := by
  induction entries with
  | nil => rfl
  | cons entry rest ih =>
    cases here : matching entry <;> simp [eraseAll, here, ih]

private theorem toNat_msgIdParameter {id : MessageId} (fits : id.toNat < 2 ^ 16) :
    (msgIdParameter id).toNat = id.toNat := by
  have cut : (msgIdParameter id).toNat = id.toNat % 2 ^ 16 := by
    simp [msgIdParameter]
  rw [cut, Nat.mod_eq_of_lt fits]

def Lasts (id : MessageId) (calls : List (HandlerCall Callback)) (entry : Entry Callback) : Prop :=
  entry.msgId.toNat = id.toNat ∧ ∀ call ∈ calls, ¬call.Ends id entry.cookie

instance (id : MessageId) (calls : List (HandlerCall Callback)) (entry : Entry Callback) :
    Decidable (Lasts id calls entry) :=
  inferInstanceAs (Decidable (_ ∧ _))

private theorem lasts_cons {id : MessageId} {call : HandlerCall Callback}
    {calls : List (HandlerCall Callback)} {entry : Entry Callback} :
    Lasts id (call :: calls) entry ↔ ¬call.Ends id entry.cookie ∧ Lasts id calls entry := by
  simp only [Lasts, List.forall_mem_cons]
  exact and_left_comm

private theorem msgId_eq_iff {id other : MessageId} {entry : Entry Callback}
    (own : entry.msgId.toNat = id.toNat) (fits : other.toNat < 2 ^ 16) :
    entry.msgId = msgIdParameter other ↔ other = id := by
  rw [← UInt16.toNat_inj, toNat_msgIdParameter fits, own, BitVec.toNat_inj]
  exact eq_comm

private theorem registerOne_lasts {id other : MessageId} (fits : other.toNat < 2 ^ 16)
    (callback : Callback) (cookie : Cookie) (calls : List (HandlerCall Callback))
    (handler : MAVLinkMessageHandler Callback) :
    (handler.registerOne (msgIdParameter other) callback cookie).table.filter (Lasts id calls ·) =
      handler.table.filter (Lasts id calls ·) ++
        if other = id ∧ ∀ call ∈ calls, ¬call.Ends id cookie then
          [⟨msgIdParameter other, callback, cookie⟩] else [] := by
  have single : Lasts id calls ⟨msgIdParameter other, callback, cookie⟩ ↔
      other = id ∧ ∀ call ∈ calls, ¬call.Ends id cookie := by
    rw [Lasts, toNat_msgIdParameter fits, BitVec.toNat_inj]
  simp only [registerOne, List.filter_append, List.filter_cons, List.filter_nil,
    decide_eq_true_eq, single]

private theorem unregisterOne_lasts {id other : MessageId} (fits : other.toNat < 2 ^ 16)
    (cookie : Cookie) (calls : List (HandlerCall Callback))
    (handler : MAVLinkMessageHandler Callback) :
    (handler.unregisterOne (msgIdParameter other) cookie).table.filter (Lasts id calls ·) =
      handler.table.filter (Lasts id (.unregister other cookie :: calls) ·) := by
  simp only [unregisterOne, eraseAll_eq_filter, List.filter_filter]
  apply List.filter_congr
  intro entry _
  rw [Bool.eq_iff_iff]
  simp only [Bool.and_eq_true, Bool.not_eq_true', Bool.and_eq_false_iff, decide_eq_true_eq,
    decide_eq_false_iff_not, lasts_cons, HandlerCall.Ends]
  constructor
  · rintro ⟨lasts, kept⟩
    refine ⟨?_, lasts⟩
    rintro ⟨sameId, sameCookie⟩
    rcases kept with kept | kept
    · exact kept ((msgId_eq_iff lasts.1 fits).mpr sameId)
    · exact kept sameCookie.symm
  · rintro ⟨goesOn, lasts⟩
    refine ⟨lasts, ?_⟩
    by_cases sameId : entry.msgId = msgIdParameter other
    · right
      intro sameCookie
      exact goesOn ⟨(msgId_eq_iff lasts.1 fits).mp sameId, sameCookie.symm⟩
    · exact .inl sameId

private theorem unregisterAll_lasts {id : MessageId} (cookie : Cookie)
    (calls : List (HandlerCall Callback)) (handler : MAVLinkMessageHandler Callback) :
    (handler.unregisterAll cookie).table.filter (Lasts id calls ·) =
      handler.table.filter (Lasts id (.unregisterAll cookie :: calls) ·) := by
  simp only [unregisterAll, eraseAll_eq_filter, List.filter_filter]
  apply List.filter_congr
  intro entry _
  rw [Bool.eq_iff_iff]
  simp only [Bool.and_eq_true, Bool.not_eq_true', decide_eq_true_eq, decide_eq_false_iff_not,
    lasts_cons, HandlerCall.Ends]
  rw [and_comm, eq_comm]

/-- What is called after some more calls: what lasts of the table, and then what they register. -/
private theorem processMessage_foldl (id : MessageId) {calls : List (HandlerCall Callback)}
    (fits : ∀ call ∈ calls, call.Fits) (handler : MAVLinkMessageHandler Callback) :
    (calls.foldl apply handler).processMessage id =
      (handler.table.filter (Lasts id calls ·)).map Entry.callback ++ registered id calls := by
  induction calls generalizing handler with
  | nil => simp [processMessage, Lasts, registered]
  | cons call calls ih =>
    have here := fits call List.mem_cons_self
    rw [List.foldl_cons, ih (fun other member => fits other (List.mem_cons_of_mem _ member))]
    cases call with
    | register other callback cookie =>
      have same : handler.table.filter (Lasts id (.register other callback cookie :: calls) ·) =
          handler.table.filter (Lasts id calls ·) := by
        simp only [lasts_cons, HandlerCall.Ends, not_false_iff, true_and]
      rw [apply, registerOne_lasts here, same, registered, List.map_append, List.append_assoc]
      split <;> rfl
    | unregister other cookie =>
      rw [apply, unregisterOne_lasts here]
      rfl
    | unregisterAll cookie =>
      rw [apply, unregisterAll_lasts]
      rfl

/-- From an empty table, and with ids that the parameter can hold, a message is given to what is
registered for its id and to nothing else. -/
theorem processMessage_eq_registered (calls : List (HandlerCall Callback))
    (fits : ∀ call ∈ calls, call.Fits) (id : MessageId) :
    (calls.foldl apply {}).processMessage id = registered id calls := by
  rw [processMessage_foldl id fits]
  rfl

theorem processMessage_after_unregister :
    (([.register 300 "camera" 1, .register 300 "gimbal" 2, .register 76 "camera" 1,
        .register 300 "camera" 1, .unregister 300 2] : List (HandlerCall String)).foldl
        apply {}).processMessage 300 = ["camera", "camera"] := by
  rw [processMessage_eq_registered _ (by decide)]
  rfl

/-- A longer id is cut off in the table: its own messages are not found. -/
theorem longer_id_not_dispatched :
    ¬∀ calls : List (HandlerCall String), ∀ id : MessageId,
      (calls.foldl apply {}).processMessage id = registered id calls := by
  intro exact_for_all
  have here := exact_for_all [.register 65536 "camera" 1] 65536
  revert here
  decide

end MAVLinkMessageHandler
end PilotingMavsdk
