import PilotingMavsdk.MavlinkChannels

/-! What the pool of channels and the receivers say of one another. They agree for as long as no
connection is started twice and the channels that the parser has buffers for are not all taken. -/

namespace PilotingMavsdk
open Library

namespace MAVLinkChannels

def Used (channels : MAVLinkChannels) (channel : UInt8) : Prop :=
  channels.channelsUsed[channel.toNat]? = some true

instance (channels : MAVLinkChannels) (channel : UInt8) : Decidable (channels.Used channel) :=
  inferInstanceAs (Decidable (_ = _))

/-- What checking a channel out does: it was free, all below it were used, and it alone is marked. -/
structure CheckedOut (channels : MAVLinkChannels) (channel : UInt8) (after : MAVLinkChannels) :
    Prop where
  inside : channel.toNat < maxChannels
  free : ¬channels.Used channel
  below : ∀ other : UInt8, other < channel → channels.Used other
  marked : ∀ other, after.Used other ↔ other = channel ∨ channels.Used other

def HasBuffer (channel : UInt8) : Prop := channel.toNat < mavlinkCommNumBuffers

instance (channel : UInt8) : Decidable (HasBuffer channel) := inferInstanceAs (Decidable (_ < _))

def Spare (channels : MAVLinkChannels) : Prop :=
  ∃ channel, HasBuffer channel ∧ ¬channels.Used channel

private theorem spare_iff (channels : MAVLinkChannels) :
    (∃ i : Fin mavlinkCommNumBuffers, ¬channels.Used (UInt8.ofNat i)) ↔ channels.Spare := by
  constructor
  · intro ⟨i, unused⟩
    refine ⟨UInt8.ofNat i, ?_, unused⟩
    rw [HasBuffer, UInt8.toNat_ofNat', Nat.mod_eq_of_lt (i.isLt.trans (by decide))]
    exact i.isLt
  · intro ⟨channel, buffer, unused⟩
    refine ⟨⟨channel.toNat, buffer⟩, ?_⟩
    rwa [UInt8.ofNat_toNat]

instance (channels : MAVLinkChannels) : Decidable channels.Spare :=
  decidable_of_iff _ (spare_iff channels)

variable {channels after : MAVLinkChannels} {channel : UInt8}

private theorem checkoutFreeChannel_some
    (taken : channels.checkoutFreeChannel = some (channel, after)) :
    channels.CheckedOut channel after := by
  unfold checkoutFreeChannel at taken
  split at taken
  next i found =>
    cases taken
    have number : (UInt8.ofNat i).toNat = i.val := by
      rw [UInt8.toNat_ofNat', Nat.mod_eq_of_lt (i.isLt.trans (by decide))]
    obtain ⟨free, position, inside, here, earlier⟩ := List.find?_eq_some_iff_getElem.mp found
    have first : position = i.val := by
      rw [← here, List.getElem_finRange]
      rfl
    subst first
    refine ⟨lt_of_eq_of_lt number i.isLt, ?_, ?_, ?_⟩
    · rw [Used, number, Vector.getElem?_eq_getElem i.isLt]
      simpa using free
    · intro other below
      have lower : other.toNat < i.val := lt_of_lt_of_eq (UInt8.lt_iff_toNat_lt.mp below) number
      have used := earlier other.toNat lower
      rw [Used, Vector.getElem?_eq_getElem (lower.trans i.isLt)]
      simpa using used
    · intro other
      have same : i.val = other.toNat ↔ other = UInt8.ofNat i := by
        rw [← UInt8.toNat_inj, number]
        exact eq_comm
      simp only [Used, Vector.getElem?_set, same]
      split
      next new => exact iff_of_true rfl (.inl new)
      next old => exact (or_iff_right old).symm
  · cases taken

private theorem checkoutFreeChannel_none (full : channels.checkoutFreeChannel = none)
    (inside : channel.toNat < maxChannels) : channels.Used channel := by
  unfold checkoutFreeChannel at full
  split at full
  · cases full
  next found =>
    have used := List.find?_eq_none.mp found ⟨channel.toNat, inside⟩ (List.mem_finRange _)
    rw [Used, Vector.getElem?_eq_getElem inside]
    simpa using used

private theorem checkinUsedChannel_used (other : UInt8) :
    (channels.checkinUsedChannel channel).Used other ↔ channels.Used other ∧ other ≠ channel := by
  unfold checkinUsedChannel
  split
  next inside =>
    simp only [Used, Vector.getElem?_set, UInt8.toNat_inj]
    by_cases same : channel = other
    · simp [same]
    · simp [same, Ne.symm same]
  next outside =>
    have unused : ¬channels.Used channel := by
      rw [Used, Vector.getElem?_eq_none (Nat.le_of_not_lt outside)]
      simp
    constructor
    · intro used
      refine ⟨used, ?_⟩
      rintro rfl
      exact unused used
    · exact And.left

end MAVLinkChannels

namespace ChannelOwners
open MAVLinkChannels
variable {Connection : Type}

/-- The pool marks what the live receivers have; no two of them have one channel. -/
structure Agree (owners : ChannelOwners Connection) : Prop where
  distinct : ∀ first second channel, owners.mavlinkReceiver first = some channel →
    owners.mavlinkReceiver second = some channel → first = second
  used_iff : ∀ channel, owners.channels.Used channel ↔
    ∃ connection, owners.mavlinkReceiver connection = some channel

/-- All of this, with buffers for all channels that are in use. -/
structure Sound (owners : ChannelOwners Connection) : Prop extends Agree owners where
  buffered : ∀ connection channel, owners.mavlinkReceiver connection = some channel →
    HasBuffer channel

private theorem sound_init : Sound ({} : ChannelOwners Connection) := by
  refine ⟨⟨by simp, ?_⟩, by simp⟩
  intro channel
  simp [Used, Vector.getElem?_replicate]

variable [DecidableEq Connection] {owners : ChannelOwners Connection}

/-- Calls that are in order: a connection is not started while it has a receiver, nor while all
channels that the parser has buffers for are taken. -/
def InOrder (owners : ChannelOwners Connection) : ConnectionCall Connection → Prop
  | .startMavlinkReceiver connection =>
    owners.mavlinkReceiver connection = none ∧ owners.channels.Spare
  | .stopMavlinkReceiver _ => True

instance (owners : ChannelOwners Connection) :
    (connectionCall : ConnectionCall Connection) → Decidable (owners.InOrder connectionCall)
  | .startMavlinkReceiver _ => inferInstanceAs (Decidable (_ ∧ _))
  | .stopMavlinkReceiver _ => .isTrue trivial

private theorem update_none_iff {receivers : Connection → Option UInt8}
    {connection other : Connection}
    {channel : UInt8} : Function.update receivers connection none other = some channel ↔
      other ≠ connection ∧ receivers other = some channel := by
  by_cases same : other = connection
  · subst same; simp
  · simp [same]

private theorem update_some_iff {receivers : Connection → Option UInt8}
    {connection other : Connection}
    {new channel : UInt8} : Function.update receivers connection (some new) other = some channel ↔
      other = connection ∧ new = channel ∨
        other ≠ connection ∧ receivers other = some channel := by
  by_cases same : other = connection
  · subst same; simp
  · simp [same]

private theorem stopMavlinkReceiver_sound (sound : owners.Sound) (connection : Connection) :
    (owners.stopMavlinkReceiver connection).Sound := by
  unfold stopMavlinkReceiver
  split
  · exact sound
  next usedChannel live =>
    refine ⟨⟨?_, ?_⟩, ?_⟩
    · intro first second channel one two
      exact sound.distinct first second channel (update_none_iff.mp one).2
        (update_none_iff.mp two).2
    · intro channel
      simp only [checkinUsedChannel_used, update_none_iff, sound.used_iff]
      constructor
      · rintro ⟨⟨other, has⟩, differ⟩
        refine ⟨other, ?_, has⟩
        rintro rfl
        exact differ (Option.some.inj (has.symm.trans live))
      · rintro ⟨other, differ, has⟩
        refine ⟨⟨other, has⟩, ?_⟩
        rintro rfl
        exact differ (sound.distinct other connection channel has live)
    · intro other channel has
      exact sound.buffered other channel (update_none_iff.mp has).2

private theorem hasBuffer_checkedOut {channels after : MAVLinkChannels} {channel free : UInt8}
    (taken : channels.CheckedOut channel after) (buffer : HasBuffer free)
    (unused : ¬channels.Used free) : HasBuffer channel := by
  have lowest : ¬free < channel := fun below => unused (taken.below free below)
  exact (UInt8.le_iff_toNat_le.mp (UInt8.not_lt.mp lowest)).trans_lt buffer

private theorem startMavlinkReceiver_sound (sound : owners.Sound) {connection : Connection}
    (inOrder : owners.InOrder (.startMavlinkReceiver connection)) :
    (owners.startMavlinkReceiver connection).1.Sound ∧
      ∀ channel ∈ (owners.startMavlinkReceiver connection).2, HasBuffer channel := by
  obtain ⟨stopped, free, buffer, unused⟩ := inOrder
  unfold startMavlinkReceiver
  split
  · exact ⟨sound, by simp⟩
  next new channels found =>
    have taken := checkoutFreeChannel_some found
    have newBuffer := hasBuffer_checkedOut taken buffer unused
    have nobody (other : Connection) : owners.mavlinkReceiver other ≠ some new := by
      intro has
      exact taken.free ((sound.used_iff new).mpr ⟨other, has⟩)
    refine ⟨⟨⟨?_, ?_⟩, ?_⟩, by simpa using newBuffer⟩
    · intro first second channel one two
      rcases update_some_iff.mp one with ⟨rfl, rfl⟩ | ⟨-, old⟩ <;>
        rcases update_some_iff.mp two with ⟨rfl, same⟩ | ⟨-, other⟩
      · rfl
      · exact absurd other (nobody second)
      · exact absurd (same ▸ old) (nobody first)
      · exact sound.distinct first second channel old other
    · intro channel
      simp only [taken.marked, update_some_iff, sound.used_iff]
      constructor
      · rintro (rfl | ⟨other, has⟩)
        · exact ⟨connection, .inl ⟨rfl, rfl⟩⟩
        · refine ⟨other, .inr ⟨?_, has⟩⟩
          rintro rfl
          rw [stopped] at has
          cases has
      · rintro ⟨other, ⟨-, rfl⟩ | ⟨-, has⟩⟩
        · exact .inl rfl
        · exact .inr ⟨other, has⟩
    · intro other channel has
      rcases update_some_iff.mp has with ⟨-, rfl⟩ | ⟨-, old⟩
      · exact newBuffer
      · exact sound.buffered other channel old

/-- A receiver that is replaced leaves its channel marked behind, and nobody has it any more. -/
private theorem inOrder_of_agree (sound : owners.Sound) {connection : Connection}
    (agree : (owners.startMavlinkReceiver connection).1.Agree)
    (buffered : ∀ channel ∈ (owners.startMavlinkReceiver connection).2, HasBuffer channel) :
    owners.InOrder (.startMavlinkReceiver connection) := by
  unfold startMavlinkReceiver at agree buffered
  split at agree
  next full =>
    have last : owners.channels.Used 31 := checkoutFreeChannel_none full (by decide)
    obtain ⟨other, has⟩ := (sound.used_iff 31).mp last
    exact absurd (sound.buffered other 31 has) (by decide)
  next new channels found =>
    have taken := checkoutFreeChannel_some found
    rw [found] at buffered
    refine ⟨?_, new, buffered new List.mem_cons_self, taken.free⟩
    cases live : owners.mavlinkReceiver connection with
    | none => rfl
    | some old =>
      have used : owners.channels.Used old := (sound.used_iff old).mpr ⟨connection, live⟩
      have stillUsed : channels.Used old := (taken.marked old).mpr (.inr used)
      obtain ⟨other, has⟩ := (agree.used_iff old).mp stillUsed
      rcases update_some_iff.mp has with ⟨-, rfl⟩ | ⟨differ, earlier⟩
      · exact absurd used taken.free
      · exact absurd (sound.distinct other connection old earlier live) differ

/-- Pool and receivers agree after the call, and what it handed out is an index of the parser's
tables. -/
def InPlace (result : ChannelOwners Connection × List UInt8) : Prop :=
  result.1.Agree ∧ ∀ channel ∈ result.2, HasBuffer channel

private theorem call_sound (sound : owners.Sound) {connectionCall : ConnectionCall Connection}
    (inOrder : owners.InOrder connectionCall) : (owners.call connectionCall).1.Sound := by
  cases connectionCall with
  | startMavlinkReceiver connection => exact (startMavlinkReceiver_sound sound inOrder).1
  | stopMavlinkReceiver connection => exact stopMavlinkReceiver_sound sound connection

private theorem call_inPlace_iff (sound : owners.Sound)
    (connectionCall : ConnectionCall Connection) :
    owners.InOrder connectionCall ↔ InPlace (owners.call connectionCall) := by
  cases connectionCall with
  | startMavlinkReceiver connection =>
    constructor
    · intro inOrder
      obtain ⟨next, buffered⟩ := startMavlinkReceiver_sound sound inOrder
      exact ⟨next.toAgree, buffered⟩
    · intro ⟨agree, buffered⟩
      exact inOrder_of_agree sound agree buffered
  | stopMavlinkReceiver connection =>
    exact iff_of_true trivial ⟨(stopMavlinkReceiver_sound sound connection).toAgree, by simp [call]⟩

private theorem legal_iff
    {taken : Taken (ChannelOwners Connection) (ConnectionCall Connection) UInt8} :
    machine.Legal taken ↔ taken.before.call taken.action = (taken.after, taken.outputs) := by
  simp only [Machine.Legal, machine, Option.some.injEq]

private theorem inOrder_iff_inPlace
    (taken : Taken (ChannelOwners Connection) (ConnectionCall Connection) UInt8)
    (legal : machine.Legal taken) (sound : taken.before.Sound) :
    InPlace (taken.after, taken.outputs) ↔ taken.before.InOrder taken.action := by
  rw [← legal_iff.mp legal]
  exact (call_inPlace_iff sound taken.action).symm

private theorem sound_of_inPlace
    (taken : Taken (ChannelOwners Connection) (ConnectionCall Connection) UInt8)
    (legal : machine.Legal taken) (sound : taken.before.Sound)
    (inPlace : InPlace (taken.after, taken.outputs)) : taken.after.Sound := by
  have next := call_sound sound ((inOrder_iff_inPlace taken legal sound).mp inPlace)
  rwa [legal_iff.mp legal] at next

/-- All is in place after every call if and only if all calls were in order. -/
theorem channels_in_place_iff
    {log : List (Taken (ChannelOwners Connection) (ConnectionCall Connection) UInt8)}
    {last : ChannelOwners Connection} (run : machine.Run {} log last) :
    (∀ taken ∈ log, InPlace (taken.after, taken.outputs)) ↔
      ∀ taken ∈ log, taken.before.InOrder taken.action :=
  run.all_iff inOrder_iff_inPlace sound_of_inPlace sound_init

/-- Two links are opened, one of them is closed and opened again. -/
def reopened : List (ConnectionCall String) :=
  [.startMavlinkReceiver "udp", .startMavlinkReceiver "serial", .stopMavlinkReceiver "udp",
    .startMavlinkReceiver "udp"]

theorem channels_in_place_reopened :
    (machine.log {} reopened).length = reopened.length ∧
      ∀ taken ∈ machine.log {} reopened, InPlace (taken.after, taken.outputs) := by
  obtain ⟨last, run⟩ := machine.run_log {} reopened (by decide)
  exact ⟨by decide, (channels_in_place_iff run).mpr (by decide)⟩

/-- A connection that is started twice keeps one channel, and two are marked. -/
theorem channels_leak :
    ¬∀ log last, machine.Run ({} : ChannelOwners String) log last →
      ∀ taken ∈ log, InPlace (taken.after, taken.outputs) := by
  intro all
  let twice : List (ConnectionCall String) :=
    [.startMavlinkReceiver "udp", .startMavlinkReceiver "udp"]
  obtain ⟨last, run⟩ := machine.run_log {} twice (by decide)
  obtain ⟨agree, -⟩ := all _ last run _ (List.mem_cons_of_mem _ List.mem_cons_self)
  obtain ⟨connection, has⟩ := (agree.used_iff 0).mp (by decide)
  by_cases same : connection = "udp" <;> simp [same] at has

end ChannelOwners
end PilotingMavsdk
