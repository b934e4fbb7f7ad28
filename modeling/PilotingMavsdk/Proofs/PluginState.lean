import PilotingMavsdk.EnabledPlugins

/-! When plugins follow the connection. The flag and the plugins are changed in two sections, so
what counts is that the second sections come in the order of the first ones, and that no
registration enables a plugin beside `set_connected` or too late for `set_disconnected`. -/

namespace PilotingMavsdk
open Library

namespace EnabledPlugins

/-- The second sections come in the order of the first ones, as far as there are plugins.
Disabling waits for a registration that has found the flag set. A registration finds the flag set
only if `set_connected` neither has enabled the plugin nor is the next to do so. -/
def Orderly (system : EnabledPlugins) : PluginAction → Prop
  | .enablePlugins => system.plugins = [] ∨ system.disabling = !system.connected
  | .disablePlugins => (system.plugins = [] ∨ system.enabling = system.connected) ∧
    ∀ plugin ∈ system.plugins, system.registration plugin ≠ .enabling
  | .check plugin => system.connected = true →
    ¬system.Enabled plugin ∧ (system.enabling = true → system.disabling = true)
  | .setConnected | .setDisconnected | .registerPlugin _ | .pushBack _ | .enable _ => True

instance (system : EnabledPlugins) : (action : PluginAction) → Decidable (system.Orderly action)
  | .enablePlugins => inferInstanceAs (Decidable (_ ∨ _))
  | .disablePlugins => inferInstanceAs (Decidable ((_ ∨ _) ∧ ∀ plugin ∈ system.plugins, _))
  | .check _ => inferInstanceAs (Decidable (_ → _ ∧ (_ → _)))
  | .setConnected | .setDisconnected | .registerPlugin _ | .pushBack _ | .enable _ =>
    .isTrue trivial

private theorem neverTwice_append {calls : List PluginCall} {call : PluginCall}
    (once : NeverTwice calls)
    (first : calls.getLast? = some .enable → call ≠ .enable) : NeverTwice (calls ++ [call]) := by
  apply List.IsChain.append once (List.isChain_singleton _)
  rintro last here next same ⟨rfl, rfl⟩
  have equal : call = .enable := by simpa using same
  exact first here equal

section
variable {system : EnabledPlugins} {plugin : PluginImpl} {call : PluginCall}

private theorem callAll_of_mem (member : plugin ∈ system.plugins) :
    system.callAll call plugin = system.calls plugin ++ [call] := if_pos member

private theorem callAll_of_notMem (absent : plugin ∉ system.plugins) :
    system.callAll call plugin = system.calls plugin := if_neg absent

end

/-- Whoever has enabled plugins, or is about to, has not been disconnected, or `set_disconnected`
is the next to go through the plugins. -/
def Live (system : EnabledPlugins) : Prop :=
  system.connected = true ∧ system.enabling = false ∨
    system.disabling = true ∧ system.enabling = system.connected

def Registration.listed : Registration → Bool
  | .unregistered | .initialised => false
  | .checking | .enabling | .registered => true

structure Kept (system : EnabledPlugins) (plugin : PluginImpl) : Prop where
  listed : plugin ∈ system.plugins ↔ Registration.listed (system.registration plugin) = true
  fresh : plugin ∉ system.plugins → system.calls plugin = []
  enabling : system.registration plugin = .enabling → system.Live ∧ ¬system.Enabled plugin
  live : system.Enabled plugin → system.Live
  enabled : system.connected = true → system.enabling = false → plugin ∈ system.plugins →
    system.Enabled plugin ∨ system.registration plugin = .checking ∨
      system.registration plugin = .enabling
  once : NeverTwice (system.calls plugin)

def AllKept (system : EnabledPlugins) : Prop := ∀ plugin, system.Kept plugin

private theorem allKept_initial : AllKept {} := by
  intro plugin
  refine ⟨by simp [Registration.listed], by simp, by simp, ?_, by simp, ?_⟩
  · intro enabled
    cases enabled
  · exact List.isChain_nil

section
variable {system : EnabledPlugins} {plugin : PluginImpl} (kept : system.Kept plugin)
include kept

private theorem Kept.member_of_enabling (found : system.registration plugin = .enabling) :
    plugin ∈ system.plugins := by
  rw [kept.listed, found]
  rfl

private theorem Kept.callAll_of_notMem {call : PluginCall} (absent : plugin ∉ system.plugins) :
    system.callAll call plugin = [] :=
  (EnabledPlugins.callAll_of_notMem absent).trans (kept.fresh absent)

private theorem Kept.once_callAll {call : PluginCall}
    (first : plugin ∈ system.plugins → system.Enabled plugin → call ≠ .enable) :
    NeverTwice (system.callAll call plugin) := by
  by_cases member : plugin ∈ system.plugins
  · rw [callAll_of_mem member]
    exact neverTwice_append kept.once (first member)
  · rw [EnabledPlugins.callAll_of_notMem member]
    exact kept.once

/-- `connected` was false, so who is live now is so because of `set_disconnected`. -/
theorem Kept.setConnected (lost : system.connected = false) :
    Kept { system with connected := true, enabling := true } plugin := by
  have still (live : system.Live) : Live { system with connected := true, enabling := true } := by
    rcases live with ⟨connected, _⟩ | ⟨disabling, _⟩
    · rw [lost] at connected
      cases connected
    · exact .inr ⟨disabling, rfl⟩
  refine ⟨kept.listed, kept.fresh, ?_, ?_, nofun, kept.once⟩
  · intro found
    obtain ⟨live, unready⟩ := kept.enabling found
    exact ⟨still live, unready⟩
  · intro enabled
    exact still (kept.live enabled)

theorem Kept.setDisconnected (idle : system.disabling = false) :
    Kept { system with connected := false, disabling := true } plugin := by
  have still (live : system.Live) : Live { system with connected := false, disabling := true } := by
    rcases live with ⟨_, passed⟩ | ⟨disabling, _⟩
    · exact .inr ⟨rfl, passed⟩
    · rw [idle] at disabling
      cases disabling
  refine ⟨kept.listed, kept.fresh, ?_, ?_, nofun, kept.once⟩
  · intro found
    obtain ⟨live, unready⟩ := kept.enabling found
    exact ⟨still live, unready⟩
  · intro enabled
    exact still (kept.live enabled)

theorem Kept.enablePlugins (begun : system.enabling = true)
    (orderly : system.Orderly .enablePlugins) :
    Kept { system with enabling := false, calls := system.callAll .enable } plugin := by
  -- as the flag was set before and nothing has been in between, nobody is live
  have dead (member : plugin ∈ system.plugins) : ¬system.Live := by
    rintro (⟨_, passed⟩ | ⟨disabling, passed⟩)
    · rw [begun] at passed
      cases passed
    · rcases orderly with empty | inOrder
      · exact List.ne_nil_of_mem member empty
      · rw [begun] at passed
        rw [disabling, ← passed] at inOrder
        cases inOrder
  refine ⟨kept.listed, kept.callAll_of_notMem, ?_, ?_, ?_, kept.once_callAll ?_⟩
  · intro found
    exact absurd (kept.enabling found).1 (dead (kept.member_of_enabling found))
  · intro enabled
    rcases orderly with empty | inOrder
    · have absent : plugin ∉ system.plugins := by simp [empty]
      have called : (system.callAll .enable plugin).getLast? = some .enable := enabled
      rw [kept.callAll_of_notMem absent] at called
      cases called
    · simp only [Live, inOrder]
      cases system.connected <;> simp
  · intro _ _ member
    refine .inl ?_
    show (system.callAll .enable plugin).getLast? = some .enable
    have listed : plugin ∈ system.plugins := member
    rw [callAll_of_mem listed]
    exact List.getLast?_concat
  · intro member enabled
    exact absurd (kept.live enabled) (dead member)

theorem Kept.disablePlugins (orderly : system.Orderly .disablePlugins) :
    Kept { system with disabling := false, calls := system.callAll .disable } plugin := by
  have unready :
      ¬Enabled { system with disabling := false, calls := system.callAll .disable } plugin := by
    show ¬(system.callAll .disable plugin).getLast? = some .enable
    by_cases member : plugin ∈ system.plugins
    · simp [callAll_of_mem member]
    · simp [kept.callAll_of_notMem member]
  refine ⟨kept.listed, kept.callAll_of_notMem, ?_, ?_, ?_, kept.once_callAll fun _ _ => nofun⟩
  · intro found
    exact absurd found (orderly.2 plugin (kept.member_of_enabling found))
  · intro enabled
    exact absurd enabled unready
  · intro connected passed member
    rcases orderly.1 with empty | inOrder
    · rw [empty] at member
      cases member
    · have flags : system.enabling = system.connected := inOrder
      have set : system.connected = true := connected
      have unset : system.enabling = false := passed
      rw [set, unset] at flags
      cases flags

theorem Kept.others {after : EnabledPlugins} (connected : after.connected = system.connected)
    (enabling : after.enabling = system.enabling) (disabling : after.disabling = system.disabling)
    (member : plugin ∈ after.plugins ↔ plugin ∈ system.plugins)
    (registration : after.registration plugin = system.registration plugin)
    (calls : after.calls plugin = system.calls plugin) : after.Kept plugin := by
  constructor
  · rw [member, registration]
    exact kept.listed
  · rw [member, calls]
    exact kept.fresh
  · rw [registration, Live, connected, enabling, disabling, Enabled, calls]
    exact kept.enabling
  · rw [Live, connected, enabling, disabling, Enabled, calls]
    exact kept.live
  · rw [connected, enabling, member, registration, Enabled, calls]
    exact kept.enabled
  · rw [calls]
    exact kept.once

private theorem Kept.register_of_ne {registered : PluginImpl} (different : plugin ≠ registered)
    (registration : Registration) : (system.register registered registration).Kept plugin :=
  kept.others rfl rfl rfl .rfl (Function.update_of_ne different ..) rfl

end

section
variable {system : EnabledPlugins} {plugin : PluginImpl}

private theorem register_self (registration : Registration) :
    (system.register plugin registration).registration plugin = registration :=
  Function.update_self ..

private theorem calls_enable_self (registration : Registration) :
    ((system.callOn .enable plugin).register plugin registration).calls plugin =
      system.calls plugin ++ [.enable] :=
  Function.update_self ..

theorem AllKept.registerPlugin (kept : system.AllKept)
    (before : system.registration plugin = .unregistered) :
    (system.register plugin .initialised).AllKept := by
  intro other
  by_cases same : other = plugin
  · subst same
    have absent : other ∉ system.plugins := by
      rw [(kept other).listed, before]
      exact Bool.false_ne_true
    refine ⟨?_, (kept other).fresh, ?_, (kept other).live, ?_, (kept other).once⟩
    · rw [register_self]
      exact iff_of_false absent Bool.false_ne_true
    · rw [register_self]
      nofun
    · intro _ _ member
      exact absurd member absent
  · exact (kept other).register_of_ne same _

theorem AllKept.pushBack (kept : system.AllKept)
    (before : system.registration plugin = .initialised) :
    ({ system with plugins := system.plugins ++ [plugin] }.register plugin .checking).AllKept := by
  intro other
  by_cases same : other = plugin
  · subst same
    have absent : other ∉ system.plugins := by
      rw [(kept other).listed, before]
      exact Bool.false_ne_true
    have listed : other ∈ system.plugins ++ [other] := by simp
    refine ⟨?_, ?_, ?_, (kept other).live, ?_, (kept other).once⟩
    · rw [register_self]
      exact iff_of_true listed rfl
    · intro missing
      exact absurd listed missing
    · rw [register_self]
      nofun
    · rw [register_self]
      exact fun _ _ _ => .inr (.inl rfl)
  · refine (kept other).others rfl rfl rfl ?_ (Function.update_of_ne same ..) rfl
    simp [register, same]

/-- A registration that finds the flag set will enable the plugin; one that does not, leaves it to
`set_connected`. -/
theorem AllKept.check (kept : system.AllKept)
    (before : system.registration plugin = .checking) (orderly : system.Orderly (.check plugin)) :
    (system.register plugin (if system.connected then .enabling else .registered)).AllKept := by
  intro other
  by_cases same : other = plugin
  · subst same
    have member : other ∈ system.plugins := by
      rw [(kept other).listed, before]
      rfl
    refine ⟨?_, (kept other).fresh, ?_, (kept other).live, ?_, (kept other).once⟩
    · rw [register_self]
      refine iff_of_true member ?_
      split <;> rfl
    · rw [register_self]
      intro found
      split at found
      next connected =>
        obtain ⟨unready, turn⟩ := orderly connected
        refine ⟨?_, unready⟩
        cases begun : system.enabling with
        | false => exact .inl ⟨connected, begun⟩
        | true => exact .inr ⟨turn begun, begun.trans connected.symm⟩
      · cases found
    · intro connected _ _
      have set : system.connected = true := connected
      rw [register_self, if_pos set]
      exact .inr (.inr rfl)
  · exact (kept other).register_of_ne same _

theorem AllKept.enable (kept : system.AllKept)
    (before : system.registration plugin = .enabling) :
    ((system.callOn .enable plugin).register plugin .registered).AllKept := by
  intro other
  by_cases same : other = plugin
  · subst same
    obtain ⟨live, unready⟩ := (kept other).enabling before
    have member := (kept other).member_of_enabling before
    refine ⟨?_, ?_, ?_, fun _ => live, ?_, ?_⟩
    · rw [register_self]
      exact iff_of_true member rfl
    · intro absent
      exact absurd member absent
    · rw [register_self]
      nofun
    · intro _ _ _
      rw [Enabled, calls_enable_self]
      exact .inl List.getLast?_concat
    · rw [calls_enable_self]
      exact neverTwice_append (kept other).once fun enabled => absurd enabled unready
  · exact (kept other).others rfl rfl rfl .rfl (Function.update_of_ne same ..)
      (Function.update_of_ne same ..)

end

theorem AllKept.step {before after : EnabledPlugins} {action : PluginAction} {outputs : List Unit}
    (stepped : machine.step before action = some (after, outputs)) (orderly : before.Orderly action)
    (kept : before.AllKept) : after.AllKept := by
  cases action with
  | setConnected =>
    simp only [machine] at stepped
    split at stepped
    · cases stepped
    · split at stepped
      · cases stepped
        exact kept
      next lost =>
        cases stepped
        exact fun plugin => (kept plugin).setConnected (by simpa using lost)
  | enablePlugins =>
    simp only [machine] at stepped
    split at stepped
    next begun =>
      cases stepped
      exact fun plugin => (kept plugin).enablePlugins begun orderly
    · cases stepped
  | setDisconnected =>
    simp only [machine] at stepped
    split at stepped
    · cases stepped
    next idle =>
      cases stepped
      exact fun plugin => (kept plugin).setDisconnected (by simpa using idle)
  | disablePlugins =>
    simp only [machine] at stepped
    split at stepped
    · cases stepped
      exact fun plugin => (kept plugin).disablePlugins orderly
    · cases stepped
  | registerPlugin plugin =>
    simp only [machine] at stepped
    split at stepped
    next before => cases stepped; exact kept.registerPlugin before
    · cases stepped
  | pushBack plugin =>
    simp only [machine] at stepped
    split at stepped
    next before => cases stepped; exact kept.pushBack before
    · cases stepped
  | check plugin =>
    simp only [machine] at stepped
    split at stepped
    next before => cases stepped; exact kept.check before orderly
    · cases stepped
  | enable plugin =>
    simp only [machine] at stepped
    split at stepped
    next before => cases stepped; exact kept.enable before
    · cases stepped

theorem AllKept.follows {system : EnabledPlugins} (kept : system.AllKept) : system.Follows := by
  refine ⟨?_, fun plugin => (kept plugin).once⟩
  intro quiet plugin member
  constructor
  · intro enabled
    rcases (kept plugin).live enabled with ⟨connected, _⟩ | ⟨disabling, _⟩
    · exact connected
    · rw [quiet.disabling] at disabling
      cases disabling
  · intro connected
    have standing := quiet.registration plugin
    rcases (kept plugin).enabled connected quiet.enabling member with enabled | checking | found
    · exact enabled
    · simp [checking] at standing
    · simp [found] at standing

/-- However the sections of the calls interleave: if each step is orderly, then plugins follow the
connection and are never enabled twice in a row. -/
theorem follows_of_orderly {log : List (Taken EnabledPlugins PluginAction Unit)}
    {last : EnabledPlugins} (run : machine.Run {} log last)
    (orderly : ∀ taken ∈ log, taken.before.Orderly taken.action) : last.Follows :=
  (run.guarded (fun _ legal inOrder before => AllKept.step legal inOrder before) orderly
    allKept_initial).1.follows

/-- Two plugins are registered, one before and one while the vehicle is discovered; it is lost
again, and a third plugin finds the flag set just before. -/
def registersInTime : List PluginAction :=
  [.registerPlugin 0, .pushBack 0, .check 0, .setConnected, .registerPlugin 1, .enablePlugins,
    .pushBack 1, .registerPlugin 2, .pushBack 2, .check 1, .check 2, .setDisconnected, .enable 2,
    .setConnected, .enable 1, .disablePlugins, .enablePlugins]

theorem registersInTime_follows : (machine.last {} registersInTime).Follows :=
  follows_of_orderly (machine.run_last {} registersInTime (by decide)) (by decide)

/-- A vehicle is discovered between the two halves of a registration. -/
def registersDuringDiscovery : List PluginAction :=
  [.registerPlugin 0, .pushBack 0, .setConnected, .enablePlugins, .check 0, .enable 0]

/-- A plugin can be enabled twice in a row. -/
theorem enabled_twice : ¬∀ (log : List (Taken EnabledPlugins PluginAction Unit))
    (last : EnabledPlugins), machine.Run {} log last → last.Follows := by
  intro follows
  have run := machine.run_last {} registersDuringDiscovery (by decide)
  have once := (follows _ _ run).once 0
  have calls : (machine.last {} registersDuringDiscovery).calls 0 = [.enable, .enable] := by decide
  rw [calls, NeverTwice, List.isChain_pair] at once
  exact once ⟨rfl, rfl⟩

end EnabledPlugins
end PilotingMavsdk
