import PilotingMavsdk.Library.Bisection

/-! `MAVLINK_MESSAGE_CRCS`, the table of the messages of the dialect, and the search in it. -/

namespace PilotingMavsdk
open Library

/-- `mavlink_msg_entry_t`, without the place of the addressee. -/
structure MavlinkMsgEntry where
  msgid : UInt32
  crcExtra : UInt8
  minMsgLen : UInt8
  maxMsgLen : UInt8
deriving DecidableEq, Repr

def mavlinkMessageCrcs : List MavlinkMsgEntry :=
  [⟨0, 50, 9, 9⟩, ⟨1, 124, 31, 31⟩, ⟨2, 137, 12, 12⟩, ⟨4, 237, 14, 14⟩, ⟨5, 217, 28, 28⟩,
   ⟨6, 104, 3, 3⟩, ⟨7, 119, 32, 32⟩, ⟨8, 117, 36, 36⟩, ⟨11, 89, 6, 6⟩, ⟨19, 137, 24, 24⟩,
   ⟨20, 214, 20, 20⟩, ⟨21, 159, 2, 2⟩, ⟨22, 220, 25, 25⟩, ⟨23, 168, 23, 23⟩, ⟨24, 24, 30, 52⟩,
   ⟨25, 23, 101, 101⟩, ⟨26, 170, 22, 24⟩, ⟨27, 144, 26, 29⟩, ⟨28, 67, 16, 16⟩, ⟨29, 115, 14, 16⟩,
   ⟨30, 39, 28, 28⟩, ⟨31, 246, 32, 48⟩, ⟨32, 185, 28, 28⟩, ⟨33, 104, 28, 28⟩, ⟨34, 237, 22, 22⟩,
   ⟨35, 244, 22, 22⟩, ⟨36, 222, 21, 37⟩, ⟨37, 212, 6, 7⟩, ⟨38, 9, 6, 7⟩, ⟨39, 254, 37, 38⟩,
   ⟨40, 230, 4, 5⟩, ⟨41, 28, 4, 4⟩, ⟨42, 28, 2, 2⟩, ⟨43, 132, 2, 3⟩, ⟨44, 221, 4, 5⟩,
   ⟨45, 232, 2, 3⟩, ⟨46, 11, 2, 2⟩, ⟨47, 153, 3, 4⟩, ⟨48, 41, 13, 21⟩, ⟨49, 39, 12, 20⟩,
   ⟨50, 78, 37, 37⟩, ⟨51, 196, 4, 5⟩, ⟨52, 132, 7, 7⟩, ⟨54, 15, 27, 27⟩, ⟨55, 3, 25, 25⟩,
   ⟨61, 167, 72, 72⟩, ⟨62, 183, 26, 26⟩, ⟨63, 119, 181, 181⟩, ⟨64, 191, 225, 225⟩,
   ⟨65, 118, 42, 42⟩, ⟨66, 148, 6, 6⟩, ⟨67, 21, 4, 4⟩, ⟨69, 243, 11, 11⟩, ⟨70, 124, 18, 38⟩,
   ⟨73, 38, 37, 38⟩, ⟨74, 20, 20, 20⟩, ⟨75, 158, 35, 35⟩, ⟨76, 152, 33, 33⟩, ⟨77, 143, 3, 10⟩,
   ⟨80, 14, 4, 4⟩, ⟨81, 106, 22, 22⟩, ⟨82, 49, 39, 39⟩, ⟨83, 22, 37, 37⟩, ⟨84, 143, 53, 53⟩,
   ⟨85, 140, 51, 51⟩, ⟨86, 5, 53, 53⟩, ⟨87, 150, 51, 51⟩, ⟨89, 231, 28, 28⟩, ⟨90, 183, 56, 56⟩,
   ⟨91, 63, 42, 42⟩, ⟨92, 54, 33, 33⟩, ⟨93, 47, 81, 81⟩, ⟨100, 175, 26, 34⟩, ⟨101, 102, 32, 117⟩,
   ⟨102, 158, 32, 117⟩, ⟨103, 208, 20, 57⟩, ⟨104, 56, 32, 116⟩, ⟨105, 93, 62, 63⟩,
   ⟨106, 138, 44, 44⟩, ⟨107, 108, 64, 65⟩, ⟨108, 32, 84, 84⟩, ⟨109, 185, 9, 9⟩, ⟨110, 84, 254, 254⟩,
   ⟨111, 34, 16, 16⟩, ⟨112, 174, 12, 12⟩, ⟨113, 124, 36, 39⟩, ⟨114, 237, 44, 44⟩, ⟨115, 4, 64, 64⟩,
   ⟨116, 76, 22, 24⟩, ⟨117, 128, 6, 6⟩, ⟨118, 56, 14, 14⟩, ⟨119, 116, 12, 12⟩, ⟨120, 134, 97, 97⟩,
   ⟨121, 237, 2, 2⟩, ⟨122, 203, 2, 2⟩, ⟨123, 250, 113, 113⟩, ⟨124, 87, 35, 37⟩, ⟨125, 203, 6, 6⟩,
   ⟨126, 220, 79, 79⟩, ⟨127, 25, 35, 35⟩, ⟨128, 226, 35, 35⟩, ⟨129, 46, 22, 24⟩, ⟨130, 29, 13, 13⟩,
   ⟨131, 223, 255, 255⟩, ⟨132, 85, 14, 39⟩, ⟨133, 6, 18, 18⟩, ⟨134, 229, 43, 43⟩, ⟨135, 203, 8, 8⟩,
   ⟨136, 1, 22, 22⟩, ⟨137, 195, 14, 16⟩, ⟨138, 109, 36, 120⟩, ⟨139, 168, 43, 43⟩,
   ⟨140, 181, 41, 41⟩, ⟨141, 47, 32, 32⟩, ⟨142, 72, 243, 243⟩, ⟨143, 131, 14, 16⟩,
   ⟨144, 127, 93, 93⟩, ⟨146, 103, 100, 100⟩, ⟨147, 154, 36, 54⟩, ⟨148, 178, 60, 78⟩,
   ⟨149, 200, 30, 60⟩, ⟨162, 189, 8, 9⟩, ⟨180, 75, 45, 45⟩, ⟨181, 71, 4, 4⟩, ⟨182, 214, 109, 109⟩,
   ⟨183, 207, 3, 3⟩, ⟨184, 188, 2, 2⟩, ⟨185, 6, 4, 4⟩, ⟨186, 237, 2, 2⟩, ⟨187, 11, 2, 2⟩,
   ⟨188, 190, 2, 2⟩, ⟨189, 176, 4, 4⟩, ⟨190, 78, 4, 4⟩, ⟨191, 120, 255, 255⟩, ⟨192, 36, 44, 54⟩,
   ⟨193, 79, 3, 3⟩, ⟨194, 107, 2, 2⟩, ⟨195, 225, 4, 4⟩, ⟨196, 76, 4, 4⟩, ⟨197, 47, 255, 255⟩,
   ⟨198, 40, 3, 3⟩, ⟨199, 215, 2, 2⟩, ⟨200, 211, 4, 4⟩, ⟨201, 184, 4, 4⟩, ⟨202, 47, 255, 255⟩,
   ⟨203, 157, 3, 3⟩, ⟨204, 33, 11, 11⟩, ⟨205, 12, 255, 255⟩, ⟨225, 208, 65, 65⟩, ⟨230, 163, 42, 42⟩,
   ⟨231, 105, 40, 40⟩, ⟨232, 151, 63, 65⟩, ⟨233, 35, 182, 182⟩, ⟨234, 150, 40, 40⟩,
   ⟨235, 179, 42, 42⟩, ⟨241, 90, 32, 32⟩, ⟨242, 104, 52, 60⟩, ⟨243, 85, 53, 61⟩, ⟨244, 95, 6, 6⟩,
   ⟨245, 130, 2, 2⟩, ⟨246, 184, 38, 38⟩, ⟨247, 81, 19, 19⟩, ⟨248, 8, 254, 254⟩, ⟨249, 204, 36, 36⟩,
   ⟨250, 49, 30, 30⟩, ⟨251, 170, 18, 18⟩, ⟨252, 44, 18, 18⟩, ⟨253, 83, 51, 54⟩, ⟨254, 46, 9, 9⟩,
   ⟨256, 71, 42, 42⟩, ⟨257, 131, 9, 9⟩, ⟨258, 187, 32, 232⟩, ⟨259, 92, 235, 235⟩, ⟨260, 146, 5, 13⟩,
   ⟨261, 179, 27, 60⟩, ⟨262, 12, 18, 22⟩, ⟨263, 133, 255, 255⟩, ⟨264, 49, 28, 28⟩,
   ⟨265, 26, 16, 20⟩, ⟨266, 193, 255, 255⟩, ⟨267, 35, 255, 255⟩, ⟨268, 14, 4, 4⟩,
   ⟨269, 109, 213, 213⟩, ⟨270, 59, 19, 19⟩, ⟨271, 22, 52, 52⟩, ⟨275, 126, 31, 31⟩,
   ⟨276, 18, 49, 49⟩, ⟨280, 70, 33, 33⟩, ⟨281, 48, 13, 13⟩, ⟨282, 123, 35, 35⟩, ⟨283, 74, 144, 144⟩,
   ⟨284, 99, 32, 32⟩, ⟨285, 137, 40, 40⟩, ⟨286, 210, 53, 53⟩, ⟨287, 1, 23, 23⟩, ⟨288, 20, 23, 23⟩,
   ⟨290, 221, 42, 42⟩, ⟨291, 10, 57, 57⟩, ⟨299, 19, 96, 98⟩, ⟨300, 217, 22, 22⟩, ⟨301, 243, 58, 58⟩,
   ⟨310, 28, 17, 17⟩, ⟨311, 95, 116, 116⟩, ⟨320, 243, 20, 20⟩, ⟨321, 88, 2, 2⟩,
   ⟨322, 243, 149, 149⟩, ⟨323, 78, 147, 147⟩, ⟨324, 132, 146, 146⟩, ⟨330, 23, 158, 167⟩,
   ⟨331, 91, 230, 232⟩, ⟨332, 236, 239, 239⟩, ⟨333, 231, 109, 109⟩, ⟨334, 72, 10, 10⟩,
   ⟨335, 225, 24, 24⟩, ⟨336, 245, 84, 84⟩, ⟨339, 199, 5, 5⟩, ⟨340, 99, 70, 70⟩, ⟨350, 232, 20, 252⟩,
   ⟨360, 11, 25, 25⟩, ⟨370, 75, 87, 87⟩, ⟨373, 117, 42, 42⟩, ⟨375, 251, 140, 140⟩,
   ⟨380, 232, 20, 20⟩, ⟨385, 147, 133, 133⟩, ⟨390, 156, 238, 238⟩, ⟨395, 163, 156, 156⟩,
   ⟨400, 110, 254, 254⟩, ⟨401, 183, 6, 6⟩, ⟨9000, 113, 137, 137⟩, ⟨9005, 117, 34, 34⟩,
   ⟨12900, 114, 44, 44⟩, ⟨12901, 254, 59, 59⟩, ⟨12902, 49, 53, 53⟩, ⟨12903, 249, 46, 46⟩,
   ⟨12904, 203, 46, 46⟩, ⟨12905, 49, 43, 43⟩, ⟨12915, 62, 254, 254⟩]

/-- The loop of `mavlink_get_msg_entry` on any table. It has no result if it goes on for more rounds
than the table has entries, or reads outside the table. -/
def searchMsgEntry (entries : List MavlinkMsgEntry) (msgid : UInt32) : Option Nat :=
  bisect (fun mid => entries[mid]?.map fun entry => compare msgid entry.msgid)
    entries.length 0 (entries.length - 1)

/-- `mavlink_get_msg_entry` on any table: the bisection, and the look at the entry it ends at. -/
def getMsgEntry (entries : List MavlinkMsgEntry) (msgid : UInt32) : Option MavlinkMsgEntry :=
  (searchMsgEntry entries msgid).bind fun low =>
    entries[low]?.filter fun entry => entry.msgid == msgid

def mavlinkGetMsgEntry (msgid : UInt32) : Option MavlinkMsgEntry :=
  getMsgEntry mavlinkMessageCrcs msgid

def mavlinkGetCrcExtra (msgid : UInt32) : UInt8 :=
  ((mavlinkGetMsgEntry msgid).map MavlinkMsgEntry.crcExtra).getD 0

end PilotingMavsdk
