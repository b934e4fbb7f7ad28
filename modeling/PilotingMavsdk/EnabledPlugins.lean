import Mathlib.Data.List.Chain
import PilotingMavsdk.Library.Machine

/-! The plugins of a `SystemImpl` and its flag `_connected`. `set_connected` and `set_disconnected`
change the flag under one mutex and then go through the plugins under another, and `register_plugin`
looks at the flag when it has released the second one; each section is one step here. -/

namespace PilotingMavsdk
open Library

abbrev PluginImpl := Nat

inductive PluginCall where
  | enable
  | disable
deriving DecidableEq, Repr

/-- Where the call of `register_plugin` stands that the constructor of a plugin makes, on the
thread of some user. -/
inductive Registration where
  | unregistered
  | initialised
  | checking
  | enabling
  | registered
deriving DecidableEq, Repr

/-- `enabling` and `disabling` say that the receive thread, or the timer thread, has left the first
section of its call and has still to go through the plugins. `calls` is what has been called on each
plugin. -/
structure EnabledPlugins where
  connected : Bool := false
  enabling : Bool := false
  disabling : Bool := false
  plugins : List PluginImpl := []
  registration : PluginImpl → Registration := fun _ => .unregistered
  calls : PluginImpl → List PluginCall := fun _ => []

inductive PluginAction where
  | setConnected
  | enablePlugins
  | setDisconnected
  | disablePlugins
  | registerPlugin (plugin : PluginImpl)
  | pushBack (plugin : PluginImpl)
  | check (plugin : PluginImpl)
  | enable (plugin : PluginImpl)
deriving DecidableEq, Repr

namespace EnabledPlugins

def callAll (call : PluginCall) (system : EnabledPlugins) : PluginImpl → List PluginCall :=
  fun plugin =>
    if plugin ∈ system.plugins then system.calls plugin ++ [call] else system.calls plugin

def callOn (call : PluginCall) (plugin : PluginImpl) (system : EnabledPlugins) : EnabledPlugins :=
  { system with
    calls := Function.update system.calls plugin (system.calls plugin ++ [call]) }

def register (plugin : PluginImpl) (registration : Registration) (system : EnabledPlugins) :
    EnabledPlugins :=
  { system with registration := Function.update system.registration plugin registration }

def machine : Machine EnabledPlugins PluginAction Unit where
  step system
    | .setConnected =>
      if system.enabling then none
      else if system.connected then some (system, [])
      else some ({ system with connected := true, enabling := true }, [])
    | .enablePlugins =>
      if system.enabling then
        some ({ system with enabling := false, calls := system.callAll .enable }, [])
      else none
    | .setDisconnected =>
      if system.disabling then none
      else some ({ system with connected := false, disabling := true }, [])
    | .disablePlugins =>
      if system.disabling then
        some ({ system with disabling := false, calls := system.callAll .disable }, [])
      else none
    | .registerPlugin plugin =>
      if system.registration plugin = .unregistered then
        some (system.register plugin .initialised, [])
      else none
    | .pushBack plugin =>
      if system.registration plugin = .initialised then
        some ({ system with plugins := system.plugins ++ [plugin] }.register plugin .checking, [])
      else none
    | .check plugin =>
      if system.registration plugin = .checking then
        some (system.register plugin (if system.connected then .enabling else .registered), [])
      else none
    | .enable plugin =>
      if system.registration plugin = .enabling then
        some ((system.callOn .enable plugin).register plugin .registered, [])
      else none

/-- The last call on the plugin was `enable()`. -/
def Enabled (system : EnabledPlugins) (plugin : PluginImpl) : Prop :=
  (system.calls plugin).getLast? = some .enable

instance (system : EnabledPlugins) (plugin : PluginImpl) : Decidable (system.Enabled plugin) :=
  inferInstanceAs (Decidable (_ = _))

/-- None of the calls is in progress. -/
structure Quiet (system : EnabledPlugins) : Prop where
  enabling : system.enabling = false
  disabling : system.disabling = false
  registration : ∀ plugin, system.registration plugin = .unregistered ∨
    system.registration plugin = .registered

/-- No two calls of `enable()` follow each other. -/
def NeverTwice (calls : List PluginCall) : Prop :=
  calls.IsChain fun first second => ¬(first = .enable ∧ second = .enable)

/-- The plugins follow the connection. -/
structure Follows (system : EnabledPlugins) : Prop where
  agree : system.Quiet → ∀ plugin ∈ system.plugins,
    (system.Enabled plugin ↔ system.connected = true)
  once : ∀ plugin, NeverTwice (system.calls plugin)

end EnabledPlugins
end PilotingMavsdk
