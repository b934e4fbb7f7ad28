import Mathlib.Data.List.Induction
import PilotingMavsdk.Proofs.CliGrammar

/-! What a `CliArg` remembers of earlier calls of `parse`. `reset` leaves the flow control out, so
that is what the last serial url asked for, in an accepted text or not. -/

namespace PilotingMavsdk

namespace CliArg

/-- What a text says about flow control, if its scheme is a serial one. -/
def asks (uri : Text) : Option Bool :=
  if (Scheme.serial.uri []).isPrefixOf uri then Scheme.serial.flowControl
  else if (Scheme.serialFlowcontrol.uri []).isPrefixOf uri then
    Scheme.serialFlowcontrol.flowControl
  else none

/-- What the last of the texts that says something about flow control says. -/
def remembered (uris : List Text) : Bool := (uris.filterMap asks).getLast?.getD false

private theorem asks_uri (scheme : Scheme) (rest : Text) :
    asks (scheme.uri rest) = scheme.flowControl := by
  cases scheme <;> simp [asks, Scheme.uri, Scheme.text, Scheme.flowControl]

private theorem asks_unknown {uri : Text} (unknown : ∀ scheme rest, uri ≠ Scheme.uri scheme rest) :
    asks uri = none := by
  have differs (scheme : Scheme) : (scheme.uri []).isPrefixOf uri = false := by
    rw [← Bool.not_eq_true, List.isPrefixOf_iff_prefix]
    intro ⟨rest, same⟩
    refine unknown scheme rest ?_
    rw [← same, Scheme.uri, List.append_nil]
    rfl
  simp only [asks, differs, Bool.false_eq_true, if_false]

private theorem checkSerialPath_flowControl (rest : Text) (arg : CliArg) :
    (arg.checkSerialPath rest).1.flowControlEnabled = arg.flowControlEnabled := by
  rw [checkSerialPath]
  split
  · rfl
  · split
    · split
      · rfl
      · split <;> rfl
    · rfl

private theorem findPath_flowControl (rest : Text) (arg : CliArg) :
    (arg.findPath rest).1.flowControlEnabled = arg.flowControlEnabled := by
  simp only [findPath]
  split
  · split <;> rfl
  · split
    · split
      · exact checkSerialPath_flowControl _ _
      · rfl
    · split
      · rfl
      · split
        · exact checkSerialPath_flowControl _ _
        · rfl

private theorem findPort_flowControl (rest : Text) (arg : CliArg) :
    (arg.findPort rest).1.flowControlEnabled = arg.flowControlEnabled := by
  simp only [findPort]
  split
  · rfl
  · split
    · split
      · rfl
      · split
        · rfl
        · split <;> rfl
    · rfl

private theorem findBaudrate_flowControl (rest : Text) (arg : CliArg) :
    (arg.findBaudrate rest).1.flowControlEnabled = arg.flowControlEnabled := by
  simp only [findBaudrate]
  split
  · rfl
  · split
    · split <;> rfl
    · rfl

private theorem parseRest_flowControl (rest : Text) (arg : CliArg) :
    (arg.parseRest rest).1.flowControlEnabled = arg.flowControlEnabled := by
  have kept := findPath_flowControl rest arg
  rw [parseRest]
  generalize arg.findPath rest = found at kept
  obtain ⟨path, stop | last⟩ := found
  · exact kept
  · simp only
    split
    · rw [findBaudrate_flowControl]
      exact kept
    · rw [findPort_flowControl]
      exact kept

private theorem parse_flowControl (uri : Text) (arg : CliArg) :
    (arg.parse uri).1.flowControlEnabled = (asks uri).getD arg.flowControlEnabled := by
  rcases uri_cases uri with ⟨scheme, rest, rfl⟩ | unknown
  · rw [parse_uri, parseRest_flowControl, asks_uri]
    rfl
  · rw [parse_unknown unknown, asks_unknown unknown]
    rfl

private theorem after_flowControl (uris : List Text) :
    (after uris).flowControlEnabled = remembered uris := by
  induction uris using List.reverseRecOn with
  | nil => rfl
  | append_singleton uris uri ih =>
    have last : after (uris ++ [uri]) = ((after uris).parse uri).1 := by
      simp only [after, List.foldl_append, List.foldl_cons, List.foldl_nil]
    rw [last, parse_flowControl, ih, remembered, remembered, List.filterMap_append]
    cases said : asks uri with
    | none => simp [said]
    | some enabled => simp [said]

private theorem parse_accepted {uri : Text} {first : CliArg}
    (accepted : returned (first.parse uri).2 = some true) (second : CliArg) :
    ∃ url, Holds url (first.parse uri).1 ∧ Holds url (second.parse uri).1 := by
  rcases uri_cases uri with ⟨scheme, rest, rfl⟩ | unknown
  · have one := verdict scheme rest first
    have two := verdict scheme rest second
    generalize first.parse (scheme.uri rest) = result at accepted one ⊢
    generalize second.parse (scheme.uri rest) = other at two ⊢
    cases one with
    | rejected | thrown => cases accepted
    | @accepted url _ target only fits holds =>
      refine ⟨url, holds, ?_⟩
      cases two with
      | @accepted url _ also _ _ keeps =>
        rw [← only url also]
        exact keeps
      | rejected nothing => exact absurd target (nothing url)
      | thrown large => exact absurd large fits
  · rw [parse_unknown unknown] at accepted
    cases accepted

theorem Holds.unique {url : Url} {first second : CliArg} (one : Holds url first)
    (two : Holds url second) (flow : first.flowControlEnabled = second.flowControlEnabled) :
    first = second := by
  have protocol := one.protocol.trans two.protocol.symm
  have path := one.path.trans two.path.symm
  have port := one.port.trans two.port.symm
  have baudrate := one.baudrate.trans two.baudrate.symm
  cases first
  cases second
  simp only at protocol path port baudrate flow
  rw [protocol, path, port, baudrate, flow]

/-- After an accepted text all getters of two objects agree, unless that text says nothing about
flow control and the objects remember different things. -/
theorem getters_agree_iff (history other : List Text) (uri : Text)
    (accepted : returned ((after history).parse uri).2 = some true) :
    ((after history).parse uri).1 = ((after other).parse uri).1 ↔
      (asks uri).isSome ∨ remembered history = remembered other := by
  obtain ⟨url, one, two⟩ := parse_accepted accepted (after other)
  have flow : ((after history).parse uri).1.flowControlEnabled =
      ((after other).parse uri).1.flowControlEnabled ↔
        (asks uri).isSome ∨ remembered history = remembered other := by
    rw [parse_flowControl, parse_flowControl, after_flowControl, after_flowControl]
    cases asks uri with
    | none => simp
    | some enabled => simp
  rw [← flow]
  constructor
  · intro same
    rw [same]
  · exact one.unique two

/-- The default udp url, after a serial one and on a new object. -/
theorem getters_agree_after_serial :
    let history := [Scheme.serialFlowcontrol.uri ['/', 'd', 'e', 'v', '/', 't', 't', 'y', 'S', '0']]
    let uri := Scheme.udp.uri []
    returned ((after history).parse uri).2 = some true ∧
      (((after history).parse uri).1 = ((after []).parse uri).1 ↔
        (asks uri).isSome ∨ remembered history = remembered []) :=
  ⟨by decide, getters_agree_iff _ _ _ (by decide)⟩

theorem flowControl_remembered : ¬∀ (history other : List Text) (uri : Text),
    returned ((after history).parse uri).2 = some true →
      ((after history).parse uri).1 = ((after other).parse uri).1 := by
  intro all
  have same := all
    [Scheme.serialFlowcontrol.uri ['/', 'd', 'e', 'v', '/', 't', 't', 'y', 'S', '0']] []
    (Scheme.udp.uri []) (by decide)
  have enabled := congrArg CliArg.flowControlEnabled same
  revert enabled
  decide

end CliArg
end PilotingMavsdk
