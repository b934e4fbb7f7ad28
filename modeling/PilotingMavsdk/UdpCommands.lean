import PilotingMavsdk.GroundStationPlugins
import PilotingMavsdk.InspectionSystem
import PilotingMavsdk.UdpWire

/-! Commands: the ground station's plugin, which sends one after the other, and the vehicle's, which
hands them to its user and sends what the user acknowledges. -/

namespace PilotingMavsdk
open Library

/-- What the two users do and see. -/
inductive CommandEvent where
  | given (command : CommandBase.CommandLong)
  | told (report : SendWorkItem.Report)
  | handed (command : CommandBase.CommandLong)
  | acknowledged (ack : CommandAck)
deriving DecidableEq, Repr

/-- The weak pointer `last_send` can be locked as long as the work queue holds the item. -/
structure CommandImpl where
  sender : Sender
  lastSend : Option (Life SendWorkItem) := none

namespace CommandImpl

/-- `cancel_send_command` is a call of the item. -/
inductive Act where
  | sendCommandAsync (command : CommandBase.CommandLong)
  | item (event : LifeEvent)

def eventOf : Effect SendWorkItem.Report → Option CommandEvent
  | .callback report => some (.told report)
  | .sendMessage _ _ | .addTimeout _ | .refreshTimeout _ | .removeTimeout _ => none

def party : Party CommandImpl Act Environment Message CommandEvent where
  act act plugin :=
    match act with
    | .sendCommandAsync command =>
      if plugin.lastSend.isSome then some (plugin, [], [.told (.busy, {})])
      else
        let item := SendWorkItem.create plugin.sender command true
        some ({ plugin with lastSend := some { item := item } }, [], [.given command])
    | .item event =>
      match SendWorkItem.workItemClass.advance event plugin.lastSend with
      | some (lastSend, effects) =>
        some ({ plugin with lastSend := lastSend }, effects.filterMap Effect.sent,
          effects.filterMap eventOf)
      | none => none
  hear message environment plugin :=
    match SendWorkItem.workItemClass.deliver message environment plugin.lastSend with
    | some (lastSend, effects) =>
      some ({ plugin with lastSend := lastSend }, effects.filterMap Effect.sent,
        effects.filterMap eventOf)
    | none => none

end CommandImpl

structure CommandVehicle where
  sender : Sender
  plugin : CommandRoboticVehicleImpl

namespace CommandVehicle

inductive Act where
  | subscribeCommand (callback : Bool)
  | sendAck (ack : CommandAck)

def party : Party CommandVehicle Act Environment Message CommandEvent where
  act act vehicle :=
    match act with
    | .subscribeCommand callback =>
      some ({ vehicle with plugin := { vehicle.plugin with commandCallback := callback } }, [], [])
    | .sendAck ack => some (vehicle, [vehicle.sender.pack (.commandAck ack)], [.acknowledged ack])
  hear message _ vehicle :=
    let heard := vehicle.plugin.processMessage message
    some ({ vehicle with plugin := heard.1 }, [], heard.2.map .handed)

end CommandVehicle
end PilotingMavsdk
