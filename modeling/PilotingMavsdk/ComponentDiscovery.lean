import Mathlib.Data.List.Perm.Basic
import PilotingMavsdk.Library.Machine

/-! The components of a `SystemImpl` and who is told of them. A new id is inserted before the mutex
of the callback is locked; the two critical sections under that mutex exclude each other only. -/

namespace PilotingMavsdk
open Library

inductive ComponentType where
  | unknown
  | autopilot
  | camera
  | gimbal
deriving DecidableEq, Repr

/-- The ids of `MAV_COMPONENT`: one autopilot, six cameras and a gimbal have a type. -/
def componentType (componentId : UInt8) : ComponentType :=
  match componentId.toNat with
  | 1 => .autopilot
  | 100 | 101 | 102 | 103 | 104 | 105 => .camera
  | 154 => .gimbal
  | _ => .unknown

/-- `inserted` is the id with which `add_new_component` is on its way to its critical section. The
set is a list without repetitions. -/
structure Components where
  components : List UInt8 := []
  componentDiscoveredCallback : Bool := false
  inserted : Option UInt8 := none
deriving DecidableEq, Repr

/-- `callbackSize` is the number of user callbacks that a call of `call_user_callback` finds in
the queue, and `order` the order in which the set is gone through. -/
inductive ComponentsAction where
  | addNewComponent (componentId : UInt8)
  | notify (callbackSize : Nat)
  | registerComponentDiscoveredCallback (callback : Bool) (order : List UInt8)
      (callbackSizes : UInt8 → Nat)

inductive Announcement where
  | enqueued (componentId : UInt8) (type : ComponentType)
  | dropped (componentId : UInt8) (type : ComponentType)
deriving DecidableEq, Repr

namespace Components

def callUserCallback (componentId : UInt8) (callbackSize : Nat) : List Announcement :=
  if callbackSize = 100 then [.dropped componentId (componentType componentId)]
  else [.enqueued componentId (componentType componentId)]

def machine : Machine Components ComponentsAction Announcement where
  step state
    | .addNewComponent componentId =>
      match state.inserted with
      | some _ => none
      | none =>
        if componentId = 0 ∨ componentId ∈ state.components then some (state, [])
        else some ({ state with
          components := state.components ++ [componentId]
          inserted := some componentId }, [])
    | .notify callbackSize =>
      match state.inserted with
      | none => none
      | some componentId =>
        some ({ state with inserted := none },
          if state.componentDiscoveredCallback then callUserCallback componentId callbackSize
          else [])
    | .registerComponentDiscoveredCallback callback order callbackSizes =>
      if order.Perm state.components then
        some ({ state with componentDiscoveredCallback := callback },
          if callback then
            order.flatMap fun componentId => callUserCallback componentId (callbackSizes componentId)
          else [])
      else none

end Components
end PilotingMavsdk
