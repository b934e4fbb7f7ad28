import PilotingMavsdk.WorkItem

/-! `MAVLinkMessageHandler`, the table of the callbacks that incoming messages are handed to, and
the functions of `SystemImpl` through which it is filled. -/

namespace PilotingMavsdk

abbrev MessageId := BitVec 24

structure MAVLinkMessageHandler.Entry (Callback : Type) where
  msgId : UInt16
  callback : Callback
  cookie : Cookie
deriving DecidableEq, Repr

structure MAVLinkMessageHandler (Callback : Type) where
  table : List (MAVLinkMessageHandler.Entry Callback) := []
deriving DecidableEq, Repr

namespace MAVLinkMessageHandler
variable {Callback : Type}

def registerOne (msgId : UInt16) (callback : Callback) (cookie : Cookie)
    (handler : MAVLinkMessageHandler Callback) : MAVLinkMessageHandler Callback :=
  ⟨handler.table ++ [⟨msgId, callback, cookie⟩]⟩

/-- The loop of both `unregister_one` and `unregister_all`. -/
def eraseAll (matching : Entry Callback → Bool) : List (Entry Callback) → List (Entry Callback)
  | [] => []
  | entry :: rest =>
    if matching entry then eraseAll matching rest else entry :: eraseAll matching rest

def unregisterOne (msgId : UInt16) (cookie : Cookie) (handler : MAVLinkMessageHandler Callback) :
    MAVLinkMessageHandler Callback :=
  ⟨eraseAll (fun entry => entry.msgId = msgId && entry.cookie = cookie) handler.table⟩

def unregisterAll (cookie : Cookie) (handler : MAVLinkMessageHandler Callback) :
    MAVLinkMessageHandler Callback :=
  ⟨eraseAll (fun entry => entry.cookie = cookie) handler.table⟩

def processMessage (msgid : MessageId) (handler : MAVLinkMessageHandler Callback) :
    List Callback :=
  (handler.table.filter fun entry => entry.msgId.toNat = msgid.toNat).map Entry.callback

end MAVLinkMessageHandler

/-- A call of `register_mavlink_message_handler`, `unregister_mavlink_message_handler` or
`unregister_all_mavlink_message_handlers`. -/
inductive HandlerCall (Callback : Type) where
  | register (id : MessageId) (callback : Callback) (cookie : Cookie)
  | unregister (id : MessageId) (cookie : Cookie)
  | unregisterAll (cookie : Cookie)
deriving DecidableEq, Repr

namespace HandlerCall
variable {Callback : Type}

/-- What a parameter of type `uint16_t` makes of an id. -/
def msgIdParameter (id : MessageId) : UInt16 := UInt16.ofBitVec (id.setWidth 16)

def apply (handler : MAVLinkMessageHandler Callback) :
    HandlerCall Callback → MAVLinkMessageHandler Callback
  | register id callback cookie => handler.registerOne (msgIdParameter id) callback cookie
  | unregister id cookie => handler.unregisterOne (msgIdParameter id) cookie
  | unregisterAll cookie => handler.unregisterAll cookie

end HandlerCall
end PilotingMavsdk
