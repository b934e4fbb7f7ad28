import PilotingMavsdk.MavlinkMessageCrcs

/-! The search in the table of messages ends at an entry, and as the table is sorted it finds what
is there. -/

namespace PilotingMavsdk
open Library

abbrev Sorted (entries : List MavlinkMsgEntry) : Prop :=
  entries.Pairwise fun first second => first.msgid < second.msgid

private theorem searchMsgEntry_ends {entries : List MavlinkMsgEntry} (filled : entries ≠ [])
    (msgid : UInt32) :
    ∃ place, place < entries.length ∧ searchMsgEntry entries msgid = some place := by
  have positive := List.length_pos_iff.mpr filled
  obtain ⟨place, -, most, ends⟩ := @bisect_ends
    (fun mid => entries[mid]?.map fun entry => compare msgid entry.msgid) entries.length 0
    (entries.length - 1) (by simp; omega) (Nat.zero_le _) (by omega)
  exact ⟨place, by omega, ends⟩

private theorem searchMsgEntry_msgid {entries : List MavlinkMsgEntry} (sorted : Sorted entries)
    {place : Nat} (inside : place < entries.length) :
    searchMsgEntry entries entries[place].msgid = some place := by
  apply bisect_eq
  · intro mid less
    have there : mid < entries.length := by omega
    rw [List.getElem?_eq_getElem there, Option.map_some, Option.some_inj, Std.compare_eq_gt]
    exact List.pairwise_iff_getElem.mp sorted mid place there inside less
  · rw [List.getElem?_eq_getElem inside, Option.map_some, Std.compare_self]
  · intro mid more last
    have there : mid < entries.length := by omega
    rw [List.getElem?_eq_getElem there, Option.map_some, Option.some_inj, Std.compare_eq_lt]
    exact List.pairwise_iff_getElem.mp sorted place mid inside there more
  · exact Nat.zero_le place
  · omega
  · omega

private theorem getMsgEntry_eq_some_iff {entries : List MavlinkMsgEntry} (sorted : Sorted entries)
    {msgid : UInt32} {entry : MavlinkMsgEntry} :
    getMsgEntry entries msgid = some entry ↔ entry ∈ entries ∧ entry.msgid = msgid := by
  constructor
  · intro found
    obtain ⟨place, -, there⟩ := Option.bind_eq_some_iff.mp found
    rw [Option.filter_eq_some_iff] at there
    exact ⟨List.mem_of_getElem? there.1, of_decide_eq_true there.2⟩
  · rintro ⟨member, rfl⟩
    obtain ⟨place, inside, rfl⟩ := List.mem_iff_getElem.mp member
    simp only [getMsgEntry, searchMsgEntry_msgid sorted inside, Option.bind_some,
      List.getElem?_eq_getElem inside, Option.filter_some, beq_self_eq_true, if_true]

private theorem sorted_mavlinkMessageCrcs : Sorted mavlinkMessageCrcs := by
  decide +kernel

/-- For every number of a message the loop of the search ends at an entry of the table without a
look outside, and the search returns the entry of the table with this number, and nothing if there
is none. -/
theorem mavlinkGetMsgEntry_eq_some_iff (msgid : UInt32) :
    (∃ place, place < mavlinkMessageCrcs.length ∧
      searchMsgEntry mavlinkMessageCrcs msgid = some place) ∧
    ∀ entry, mavlinkGetMsgEntry msgid = some entry ↔
      entry ∈ mavlinkMessageCrcs ∧ entry.msgid = msgid :=
  ⟨searchMsgEntry_ends (List.cons_ne_nil _ _) msgid,
    fun _ => getMsgEntry_eq_some_iff sorted_mavlinkMessageCrcs⟩

end PilotingMavsdk
