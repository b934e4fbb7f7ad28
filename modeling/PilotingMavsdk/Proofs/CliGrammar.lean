import PilotingMavsdk.CliArg
import PilotingMavsdk.Library.Delimited

/-! Which texts `CliArg::parse` accepts. It decides a grammar of four schemes, except that a number
which does not fit into an `int` ends it with an exception. -/

namespace PilotingMavsdk
open Library

namespace CliArg

inductive Scheme where
  | udp
  | tcp
  | serial
  | serialFlowcontrol
deriving DecidableEq, Repr

namespace Scheme

def text : Scheme → Text
  | udp => ['u', 'd', 'p']
  | tcp => ['t', 'c', 'p']
  | serial => ['s', 'e', 'r', 'i', 'a', 'l']
  | serialFlowcontrol =>
    ['s', 'e', 'r', 'i', 'a', 'l', '_', 'f', 'l', 'o', 'w', 'c', 'o', 'n', 't', 'r', 'o', 'l']

def protocol : Scheme → Protocol
  | udp => .udp
  | tcp => .tcp
  | serial | serialFlowcontrol => .serial

def uri (scheme : Scheme) (rest : Text) : Text := scheme.text ++ [':', '/', '/'] ++ rest

def flowControl : Scheme → Option Bool
  | udp | tcp => none
  | serial => some false
  | serialFlowcontrol => some true

end Scheme

structure Url where
  scheme : Scheme
  path : Text := []
  port : Nat := 0
  baudrate : Nat := 0
deriving DecidableEq, Repr

def Digits (text : Text) : Prop := ∀ character ∈ text, character.isDigit

instance (text : Text) : Decidable (Digits text) :=
  inferInstanceAs (Decidable (∀ character ∈ text, character.isDigit = true))

/-- A device file, or a numbered `COM` port. -/
inductive Device : Text → Prop where
  | file (name : Text) : Device ('/' :: name)
  | com {digits : Text} (nonempty : digits ≠ []) (numeric : Digits digits) :
      Device ('C' :: 'O' :: 'M' :: digits)

/-- What may stand behind the scheme, and what it means. -/
inductive Target (scheme : Scheme) : Text → Url → Prop where
  | nothing (network : scheme.protocol ≠ .serial) : Target scheme [] { scheme }
  | path {path : Text} (network : scheme.protocol ≠ .serial) (plain : ':' ∉ path)
      (named : ¬Digits path) : Target scheme path { scheme, path }
  | port {path digits : Text} (network : scheme.protocol ≠ .serial) (plain : ':' ∉ path)
      (numeric : Digits digits) (small : decimal digits ≤ 65535) :
      Target scheme (path ++ ':' :: digits) { scheme, path, port := decimal digits }
  | device {path : Text} (serial : scheme.protocol = .serial) (plain : ':' ∉ path)
      (device : Device path) : Target scheme path { scheme, path }
  | baudrate {path digits : Text} (serial : scheme.protocol = .serial) (plain : ':' ∉ path)
      (device : Device path) (numeric : Digits digits) :
      Target scheme (path ++ ':' :: digits) { scheme, path, baudrate := decimal digits }

def Grammar (uri : Text) (url : Url) : Prop :=
  ∃ rest, uri = url.scheme.uri rest ∧ Target url.scheme rest url

structure Holds (url : Url) (arg : CliArg) : Prop where
  protocol : arg.protocol = url.scheme.protocol
  path : arg.path = url.path
  port : arg.port = url.port
  baudrate : arg.baudrate = url.baudrate

/-- `parse` ends without an exception, accepts what the grammar does, and keeps the pieces. -/
def ParsesExactly (uri : Text) (arg : CliArg) : Prop :=
  ∃ accepts, returned (arg.parse uri).2 = some accepts ∧
    (accepts = true ↔ ∃ url, Grammar uri url) ∧
    ∀ url, Grammar uri url → Holds url (arg.parse uri).1

/-- The number behind a path that is in order is larger than an `int` can be. -/
def TooLarge (scheme : Scheme) (rest : Text) : Prop :=
  ∃ path digits, rest = path ++ ':' :: digits ∧ ':' ∉ path ∧
    (scheme.protocol = .serial → Device path) ∧ Digits digits ∧ intMax < decimal digits

def Overflows (uri : Text) : Prop :=
  ∃ scheme rest, uri = Scheme.uri scheme rest ∧ TooLarge scheme rest

private theorem uri_unique {scheme other : Scheme} {rest more : Text}
    (same : scheme.uri rest = other.uri more) : scheme = other ∧ rest = more := by
  cases scheme <;> cases other <;> simp [Scheme.uri, Scheme.text] at same ⊢ <;> exact same

theorem uri_cases (uri : Text) :
    (∃ scheme rest, uri = Scheme.uri scheme rest) ∨ ∀ scheme rest, uri ≠ Scheme.uri scheme rest := by
  by_cases known : ∃ scheme rest, uri = Scheme.uri scheme rest
  · exact .inl known
  · exact .inr fun scheme rest same => known ⟨scheme, rest, same⟩

private theorem findProtocol_uri (scheme : Scheme) (rest : Text) (arg : CliArg) :
    arg.findProtocol (scheme.uri rest) = ({ arg with
      protocol := scheme.protocol
      flowControlEnabled := scheme.flowControl.getD arg.flowControlEnabled }, .ok rest) := by
  cases scheme <;> simp [findProtocol, Scheme.uri, Scheme.text, Scheme.protocol,
    Scheme.flowControl, CliArg.udp, CliArg.tcp, CliArg.serial, CliArg.serialFlowcontrol, delimiter]

private theorem findProtocol_unknown {uri : Text}
    (unknown : ∀ scheme rest, uri ≠ Scheme.uri scheme rest)
    (arg : CliArg) : arg.findProtocol uri = (arg, .error (.warning "Unknown protocol")) := by
  have differs (scheme : Scheme) : (scheme.text ++ [':', '/', '/']).isPrefixOf uri = false := by
    rw [← Bool.not_eq_true, List.isPrefixOf_iff_prefix]
    intro ⟨rest, same⟩
    exact unknown scheme rest same.symm
  have udp := differs .udp
  have tcp := differs .tcp
  have serial := differs .serial
  have serialFlowcontrol := differs .serialFlowcontrol
  simp only [Scheme.text] at udp tcp serial serialFlowcontrol
  simp only [findProtocol, CliArg.udp, CliArg.tcp, CliArg.serial, CliArg.serialFlowcontrol,
    delimiter, udp, tcp, serial, serialFlowcontrol, Bool.false_eq_true, if_false]

private theorem mem_serial {scheme : Scheme} (network : scheme.protocol ≠ .serial) :
    scheme.protocol = .udp ∨ scheme.protocol = .tcp := by
  cases scheme with
  | udp => exact .inl rfl
  | tcp => exact .inr rfl
  | serial | serialFlowcontrol => exact absurd rfl network

private theorem not_digits_device {path : Text} (device : Device path) : ¬Digits path := by
  intro numeric
  cases device with
  | file name => exact absurd (numeric '/' List.mem_cons_self) (by decide)
  | com nonempty digits => exact absurd (numeric 'C' List.mem_cons_self) (by decide)

private theorem checkSerialPath_device {arg : CliArg} (device : Device arg.path) (rest : Text) :
    arg.checkSerialPath rest = (arg, .ok rest) := by
  rw [checkSerialPath]
  generalize arg.path = path at device
  cases device with
  | file name => rfl
  | @com digits nonempty numeric =>
    have length : ¬('C' :: 'O' :: 'M' :: digits).length = 3 := by
      have positive := List.length_pos_iff.mpr nonempty
      simp only [List.length_cons]
      omega
    have all : digits.all Char.isDigit := List.all_eq_true.mpr numeric
    rw [if_neg length]
    simp [List.isPrefixOf, all]

private theorem checkSerialPath_other {arg : CliArg} (other : ¬Device arg.path) (rest : Text) :
    ∃ after text, arg.checkSerialPath rest = (after, .error (.warning text)) := by
  rw [checkSerialPath]
  split
  next file =>
    obtain ⟨name, same⟩ := List.isPrefixOf_iff_prefix.mp file
    exact absurd (same ▸ .file name) other
  · split
    next com =>
      obtain ⟨digits, same⟩ := List.isPrefixOf_iff_prefix.mp com
      split
      · exact ⟨_, _, rfl⟩
      next longer =>
        split
        next numeric =>
          rw [← same] at longer numeric other
          refine absurd (.com ?_ (List.all_eq_true.mp numeric)) other
          rintro rfl
          exact longer rfl
        · exact ⟨_, _, rfl⟩
    · exact ⟨_, _, rfl⟩

private theorem target_plain {scheme : Scheme} {rest : Text} {url : Url} (plain : ':' ∉ rest) :
    Target scheme rest url ↔ url = { scheme, path := rest } ∧
      (scheme.protocol = .serial ∧ Device rest ∨
        scheme.protocol ≠ .serial ∧ (rest = [] ∨ ¬Digits rest)) := by
  constructor
  · intro target
    cases target with
    | nothing network => exact ⟨rfl, .inr ⟨network, .inl rfl⟩⟩
    | path network _ named => exact ⟨rfl, .inr ⟨network, .inr named⟩⟩
    | device serial _ device => exact ⟨rfl, .inl ⟨serial, device⟩⟩
    | port | baudrate => exact absurd (List.mem_append_right _ List.mem_cons_self) plain
  · rintro ⟨rfl, ⟨serial, device⟩ | ⟨network, rfl | named⟩⟩
    · exact .device serial plain device
    · exact .nothing network
    · exact .path network plain named

private theorem target_cut {scheme : Scheme} {path digits : Text} {url : Url} (plain : ':' ∉ path) :
    Target scheme (path ++ ':' :: digits) url ↔ Digits digits ∧
      (scheme.protocol = .serial ∧ Device path ∧
          url = { scheme, path, baudrate := decimal digits } ∨
        scheme.protocol ≠ .serial ∧ decimal digits ≤ 65535 ∧
          url = { scheme, path, port := decimal digits }) := by
  constructor
  · generalize whole : path ++ ':' :: digits = rest
    have marked : ':' ∈ rest := by
      rw [← whole]
      exact List.mem_append_right _ List.mem_cons_self
    intro target
    cases target with
    | nothing => cases marked
    | path _ unmarked | device _ unmarked => exact absurd marked unmarked
    | port network also numeric small =>
      obtain ⟨rfl, rfl⟩ := cut_unique plain also whole
      exact ⟨numeric, .inr ⟨network, small, rfl⟩⟩
    | baudrate serial also device numeric =>
      obtain ⟨rfl, rfl⟩ := cut_unique plain also whole
      exact ⟨numeric, .inl ⟨serial, device, rfl⟩⟩
  · rintro ⟨numeric, ⟨serial, device, rfl⟩ | ⟨network, small, rfl⟩⟩
    · exact .baudrate serial plain device numeric
    · exact .port network plain numeric small

private theorem not_tooLarge_plain {scheme : Scheme} {rest : Text} (plain : ':' ∉ rest) :
    ¬TooLarge scheme rest := by
  rintro ⟨path, digits, rfl, _⟩
  exact plain (List.mem_append_right _ List.mem_cons_self)

private theorem tooLarge_cut {scheme : Scheme} {path digits : Text} (plain : ':' ∉ path) :
    TooLarge scheme (path ++ ':' :: digits) ↔
      (scheme.protocol = .serial → Device path) ∧ Digits digits ∧ intMax < decimal digits := by
  constructor
  · rintro ⟨other, more, same, also, rest⟩
    obtain ⟨rfl, rfl⟩ := cut_unique plain also same
    exact rest
  · intro rest
    exact ⟨path, digits, rfl, plain, rest⟩

/-- What can come of a rest: it is accepted as the one thing that it means, rejected because it
means nothing, or not finished because of its number. -/
inductive Verdict (scheme : Scheme) (rest : Text) : CliArg × Except Stop Unit → Prop where
  | accepted {url : Url} {after : CliArg} (target : Target scheme rest url)
      (only : ∀ other, Target scheme rest other → other = url) (fits : ¬TooLarge scheme rest)
      (holds : Holds url after) : Verdict scheme rest (after, .ok ())
  | rejected {after : CliArg} {text : String} (nothing : ∀ url, ¬Target scheme rest url)
      (fits : ¬TooLarge scheme rest) : Verdict scheme rest (after, .error (.warning text))
  | thrown {after : CliArg} (large : TooLarge scheme rest) :
      Verdict scheme rest (after, .error .outOfRange)

def begun (scheme : Scheme) (arg : CliArg) : CliArg where
  protocol := scheme.protocol
  flowControlEnabled := scheme.flowControl.getD arg.flowControlEnabled

def parseRest (rest : Text) (arg : CliArg) : CliArg × Except Stop Unit :=
  match findPath rest arg with
  | (found, .error stop) => (found, .error stop)
  | (found, .ok last) =>
    if found.protocol = .serial then found.findBaudrate last else found.findPort last

theorem parse_uri (scheme : Scheme) (rest : Text) (arg : CliArg) :
    arg.parse (scheme.uri rest) = (begun scheme arg).parseRest rest := by
  rw [parse, findProtocol_uri]
  rfl

private theorem nonempty_of_other {text : Text} (other : ¬Digits text) : ¬text.length = 0 := by
  rw [List.length_eq_zero_iff]
  rintro rfl
  exact other nofun

private theorem findPath_numbers {rest : Text} (nonempty : rest ≠ []) (plain : ':' ∉ rest)
    (numeric : Digits rest) (arg : CliArg) :
    arg.findPath rest = (arg, .error (.warning "Path can't be numbers only.")) := by
  have length : ¬rest.length = 0 := by rwa [List.length_eq_zero_iff]
  have all : rest.all Char.isDigit := List.all_eq_true.mpr numeric
  simp only [findPath, length, findIdx?_unmarked plain, all, if_true, if_false]

private theorem findPath_plain {rest : Text} (plain : ':' ∉ rest) (named : ¬Digits rest)
    (arg : CliArg) :
    arg.findPath rest =
      if arg.protocol = .serial then { arg with path := rest }.checkSerialPath []
      else ({ arg with path := rest }, .ok []) := by
  have length := nonempty_of_other named
  have some : ¬rest.all Char.isDigit := fun all => named (List.all_eq_true.mp all)
  simp only [findPath, length, findIdx?_unmarked plain, some, Bool.false_eq_true, if_false]

private theorem findPath_cut {path : Text} (plain : ':' ∉ path) (more : Text) (arg : CliArg) :
    arg.findPath (path ++ ':' :: more) =
      if arg.protocol = .serial then { arg with path }.checkSerialPath more
      else ({ arg with path }, .ok more) := by
  have length : ¬(path ++ ':' :: more).length = 0 := by simp
  have before : (path ++ ':' :: more).take path.length = path := List.take_left
  have behind : (path ++ ':' :: more).drop (path.length + 1) = more := by
    rw [← List.drop_drop, List.drop_left, List.drop_one, List.tail_cons]
  simp only [findPath, length, findIdx?_cut plain, before, behind, if_false]

private theorem stoi_fits {digits : Text} (fits : decimal digits ≤ intMax) :
    stoi digits = some (decimal digits : Int) :=
  if_pos fits

private theorem stoi_large {digits : Text} (large : intMax < decimal digits) : stoi digits = none :=
  if_neg (Nat.not_le.mpr large)

private theorem nonempty_of_decimal {digits : Text} (positive : 0 < decimal digits) :
    ¬digits.length = 0 := by
  rw [List.length_eq_zero_iff]
  rintro rfl
  exact absurd positive (Nat.lt_irrefl 0)

private theorem findPort_small {digits : Text} (numeric : Digits digits)
    (small : decimal digits ≤ 65535)
    (arg : CliArg) : arg.findPort digits = ({ arg with port := decimal digits }, .ok ()) := by
  have all : digits.all Char.isDigit := List.all_eq_true.mpr numeric
  have fits : decimal digits ≤ intMax := Nat.le_trans small (by decide)
  by_cases empty : digits.length = 0
  · rw [List.length_eq_zero_iff] at empty
    subst empty
    rfl
  · have natural : ¬(decimal digits : Int) < 0 := by omega
    have inside : ¬(decimal digits : Int) > 65535 := by omega
    simp only [findPort, empty, all, stoi_fits fits, natural, inside, if_true, if_false]

private theorem findPort_big {digits : Text} (numeric : Digits digits)
    (big : 65535 < decimal digits)
    (fits : decimal digits ≤ intMax) (arg : CliArg) : arg.findPort digits =
      ({ arg with port := 0 }, .error (.warning "Port number to big.")) := by
  have all : digits.all Char.isDigit := List.all_eq_true.mpr numeric
  have some := nonempty_of_decimal (Nat.zero_lt_of_lt big)
  have natural : ¬(decimal digits : Int) < 0 := by omega
  have outside : (decimal digits : Int) > 65535 := by omega
  simp only [findPort, some, all, stoi_fits fits, natural, outside, if_true, if_false]

private theorem findPort_large {digits : Text} (numeric : Digits digits)
    (large : intMax < decimal digits)
    (arg : CliArg) : arg.findPort digits = (arg, .error .outOfRange) := by
  have all : digits.all Char.isDigit := List.all_eq_true.mpr numeric
  have some := nonempty_of_decimal (Nat.zero_lt_of_lt large)
  simp only [findPort, some, all, stoi_large large, if_true, if_false]

private theorem findPort_other {more : Text} (other : ¬Digits more) (arg : CliArg) :
    arg.findPort more =
    (arg, .error (.warning "Non-numeric char found in port")) := by
  have some : ¬more.all Char.isDigit := fun all => other (List.all_eq_true.mp all)
  have length := nonempty_of_other other
  simp only [findPort, length, some, Bool.false_eq_true, if_false]

private theorem findBaudrate_fits {digits : Text} (numeric : Digits digits)
    (fits : decimal digits ≤ intMax) {arg : CliArg} (port : arg.port = 0)
    (baudrate : arg.baudrate = 0) :
    arg.findBaudrate digits = ({ arg with baudrate := decimal digits }, .ok ()) := by
  have all : digits.all Char.isDigit := List.all_eq_true.mpr numeric
  by_cases empty : digits.length = 0
  · rw [List.length_eq_zero_iff] at empty
    obtain ⟨protocol, path, _, _, flowControlEnabled⟩ := arg
    simp only at port baudrate
    rw [empty, port, baudrate]
    rfl
  · simp only [findBaudrate, empty, all, stoi_fits fits, if_true, if_false]

private theorem findBaudrate_large {digits : Text} (numeric : Digits digits)
    (large : intMax < decimal digits) (arg : CliArg) :
    arg.findBaudrate digits = (arg, .error .outOfRange) := by
  have all : digits.all Char.isDigit := List.all_eq_true.mpr numeric
  have some := nonempty_of_decimal (Nat.zero_lt_of_lt large)
  simp only [findBaudrate, some, all, stoi_large large, if_true, if_false]

private theorem findBaudrate_other {more : Text} (other : ¬Digits more) (arg : CliArg) :
    arg.findBaudrate more = (arg, .error (.warning "Non-numeric char found in baudrate")) := by
  have some : ¬more.all Char.isDigit := fun all => other (List.all_eq_true.mp all)
  have length := nonempty_of_other other
  simp only [findBaudrate, length, some, Bool.false_eq_true, if_false]

private theorem verdict_nothing (scheme : Scheme) (arg : CliArg) :
    Verdict scheme [] ((begun scheme arg).parseRest []) := by
  have fits : ¬TooLarge scheme [] := not_tooLarge_plain List.not_mem_nil
  by_cases serial : scheme.protocol = .serial
  · simp only [parseRest, findPath, begun, serial, List.length_nil, if_true, reduceCtorEq,
      or_self, if_false]
    refine .rejected ?_ fits
    intro url target
    rcases ((target_plain List.not_mem_nil).mp target).2 with ⟨_, device⟩ | ⟨network, _⟩
    · cases device
    · exact network serial
  · simp only [parseRest, findPath, begun, serial, List.length_nil, if_true, mem_serial serial,
      if_false, findPort]
    exact .accepted (.nothing serial) (fun _ other => ((target_plain List.not_mem_nil).mp other).1)
      fits ⟨rfl, rfl, rfl, rfl⟩

private theorem verdict_plain {scheme : Scheme} {rest : Text} (nonempty : rest ≠ [])
    (plain : ':' ∉ rest)
    (arg : CliArg) : Verdict scheme rest ((begun scheme arg).parseRest rest) := by
  have fits : ¬TooLarge scheme rest := not_tooLarge_plain plain
  have only (url : Url) (target : Target scheme rest url) :
      url = { scheme, path := rest } := ((target_plain plain).mp target).1
  by_cases numeric : Digits rest
  · rw [parseRest, findPath_numbers nonempty plain numeric]
    refine .rejected ?_ fits
    intro url target
    rcases ((target_plain plain).mp target).2 with ⟨_, device⟩ | ⟨_, empty | named⟩
    · exact not_digits_device device numeric
    · exact nonempty empty
    · exact named numeric
  · rw [parseRest, findPath_plain plain numeric]
    by_cases serial : scheme.protocol = .serial
    · have chosen : (begun scheme arg).protocol = .serial := serial
      rw [if_pos chosen]
      by_cases device : Device rest
      · rw [checkSerialPath_device device]
        simp only [begun, serial, if_true]
        exact .accepted ((target_plain plain).mpr ⟨rfl, .inl ⟨serial, device⟩⟩) only fits
          ⟨serial.symm, rfl, rfl, rfl⟩
      · obtain ⟨after, text, stopped⟩ := checkSerialPath_other (show
          ¬Device { begun scheme arg with path := rest }.path from device) []
        rw [stopped]
        refine .rejected ?_ fits
        intro url target
        rcases ((target_plain plain).mp target).2 with ⟨_, also⟩ | ⟨network, _⟩
        · exact device also
        · exact network serial
    · have network : (begun scheme arg).protocol ≠ .serial := serial
      simp only [if_neg network]
      exact .accepted ((target_plain plain).mpr ⟨rfl, .inr ⟨serial, .inr numeric⟩⟩) only fits
        ⟨rfl, rfl, rfl, rfl⟩

private theorem verdict_serial {scheme : Scheme} (serial : scheme.protocol = .serial)
    {path more : Text} (plain : ':' ∉ path) (arg : CliArg) :
    Verdict scheme (path ++ ':' :: more) ((begun scheme arg).parseRest (path ++ ':' :: more)) := by
  have chosen : (begun scheme arg).protocol = .serial := serial
  rw [parseRest, findPath_cut plain, if_pos chosen]
  have means (url : Url) (target : Target scheme (path ++ ':' :: more) url) :
      Digits more ∧ Device path ∧ url = { scheme, path, baudrate := decimal more } := by
    obtain ⟨numeric, ⟨_, device, same⟩ | ⟨network, _⟩⟩ := (target_cut plain).mp target
    · exact ⟨numeric, device, same⟩
    · exact absurd serial network
  by_cases device : Device path
  · rw [checkSerialPath_device device]
    simp only [begun, serial, if_true]
    by_cases numeric : Digits more
    · by_cases fits : decimal more ≤ intMax
      · rw [findBaudrate_fits numeric fits rfl rfl]
        refine .accepted ((target_cut plain).mpr ⟨numeric, .inl ⟨serial, device, rfl⟩⟩)
          (fun other target => (means other target).2.2) ?_ ⟨serial.symm, rfl, rfl, rfl⟩
        rw [tooLarge_cut plain]
        exact fun large => absurd large.2.2 (Nat.not_lt.mpr fits)
      · rw [findBaudrate_large numeric (Nat.not_le.mp fits)]
        exact .thrown ((tooLarge_cut plain).mpr
          ⟨fun _ => device, numeric, Nat.not_le.mp fits⟩)
    · rw [findBaudrate_other numeric]
      refine .rejected (fun url target => numeric (means url target).1) ?_
      rw [tooLarge_cut plain]
      exact fun large => numeric large.2.1
  · obtain ⟨after, text, stopped⟩ := checkSerialPath_other (show
      ¬Device { begun scheme arg with path }.path from device) more
    rw [stopped]
    refine .rejected (fun url target => device (means url target).2.1) ?_
    rw [tooLarge_cut plain]
    exact fun large => device (large.1 serial)

private theorem verdict_network {scheme : Scheme} (network : scheme.protocol ≠ .serial)
    {path more : Text} (plain : ':' ∉ path) (arg : CliArg) :
    Verdict scheme (path ++ ':' :: more) ((begun scheme arg).parseRest (path ++ ':' :: more)) := by
  have unserial : (begun scheme arg).protocol ≠ .serial := network
  rw [parseRest, findPath_cut plain, if_neg unserial]
  simp only [if_neg unserial]
  have means (url : Url) (target : Target scheme (path ++ ':' :: more) url) :
      Digits more ∧ decimal more ≤ 65535 ∧ url = { scheme, path, port := decimal more } := by
    obtain ⟨numeric, ⟨serial, _⟩ | ⟨_, small, same⟩⟩ := (target_cut plain).mp target
    · exact absurd serial network
    · exact ⟨numeric, small, same⟩
  by_cases numeric : Digits more
  · by_cases small : decimal more ≤ 65535
    · rw [findPort_small numeric small]
      refine .accepted ((target_cut plain).mpr ⟨numeric, .inr ⟨network, small, rfl⟩⟩)
        (fun other target => (means other target).2.2) ?_ ⟨rfl, rfl, rfl, rfl⟩
      rw [tooLarge_cut plain]
      exact fun large => absurd (Nat.le_trans small (by decide)) (Nat.not_le.mpr large.2.2)
    · by_cases fits : decimal more ≤ intMax
      · rw [findPort_big numeric (Nat.not_le.mp small) fits]
        refine .rejected (fun url target => small (means url target).2.1) ?_
        rw [tooLarge_cut plain]
        exact fun large => absurd large.2.2 (Nat.not_lt.mpr fits)
      · rw [findPort_large numeric (Nat.not_le.mp fits)]
        exact .thrown ((tooLarge_cut plain).mpr
          ⟨fun serial => absurd serial network, numeric, Nat.not_le.mp fits⟩)
  · rw [findPort_other numeric]
    refine .rejected (fun url target => numeric (means url target).1) ?_
    rw [tooLarge_cut plain]
    exact fun large => numeric large.2.1

theorem verdict (scheme : Scheme) (rest : Text) (arg : CliArg) :
    Verdict scheme rest (arg.parse (scheme.uri rest)) := by
  rw [parse_uri]
  rcases unmarked_or_cut ':' rest with plain | ⟨path, more, plain, rfl⟩
  · by_cases empty : rest = []
    · rw [empty]
      exact verdict_nothing scheme arg
    · exact verdict_plain empty plain arg
  · by_cases serial : scheme.protocol = .serial
    · exact verdict_serial serial plain arg
    · exact verdict_network serial plain arg

private theorem grammar_uri {scheme : Scheme} {rest : Text} {url : Url} :
    Grammar (scheme.uri rest) url ↔ Target scheme rest url := by
  constructor
  · intro ⟨more, same, target⟩
    obtain ⟨rfl, rfl⟩ := uri_unique same
    exact target
  · intro target
    have own : url.scheme = scheme := by cases target <;> rfl
    exact ⟨rest, by rw [own], own.symm ▸ target⟩

private theorem overflows_uri {scheme : Scheme} {rest : Text} :
    Overflows (scheme.uri rest) ↔ TooLarge scheme rest := by
  constructor
  · intro ⟨other, more, same, large⟩
    obtain ⟨rfl, rfl⟩ := uri_unique same
    exact large
  · intro large
    exact ⟨scheme, rest, rfl, large⟩

theorem parse_unknown {uri : Text} (unknown : ∀ scheme rest, uri ≠ Scheme.uri scheme rest)
    (arg : CliArg) : arg.parse uri = (arg.reset, .error (.warning "Unknown protocol")) := by
  rw [parse, findProtocol_unknown unknown]

/-- Whatever the object was used for before: a text is parsed exactly if and only if the number
behind its path fits into an `int`. -/
theorem parsesExactly_iff (uri : Text) (arg : CliArg) :
    ParsesExactly uri arg ↔ ¬Overflows uri := by
  rcases uri_cases uri with ⟨scheme, rest, rfl⟩ | unknown
  · have decided := verdict scheme rest arg
    simp only [ParsesExactly, grammar_uri, overflows_uri]
    generalize arg.parse (scheme.uri rest) = result at decided
    cases decided with
    | @accepted url after target only fits holds =>
      refine iff_of_true ⟨true, rfl, iff_of_true rfl ⟨url, target⟩, ?_⟩ fits
      intro other also
      rw [only other also]
      exact holds
    | rejected nothing fits =>
      refine iff_of_true ⟨false, rfl, iff_of_false nofun ?_, ?_⟩ fits
      · exact fun ⟨url, target⟩ => nothing url target
      · exact fun url target => absurd target (nothing url)
    | thrown large =>
      refine iff_of_false ?_ (not_not_intro large)
      rintro ⟨accepts, ended, _⟩
      cases ended
  · have meaningless (url : Url) : ¬Grammar uri url := by
      intro ⟨rest, same, _⟩
      exact unknown _ rest same
    refine iff_of_true ⟨false, ?_, iff_of_false nofun ?_, ?_⟩ ?_
    · rw [parse_unknown unknown]
      rfl
    · exact fun ⟨url, grammar⟩ => meaningless url grammar
    · exact fun url grammar => absurd grammar (meaningless url)
    · exact fun ⟨scheme, rest, same, _⟩ => unknown scheme rest same

/-- A port with ten digits. -/
theorem port_out_of_range : ¬∀ (uri : Text) (arg : CliArg), ParsesExactly uri arg := by
  intro all
  let digits : Text := ['2', '1', '4', '7', '4', '8', '3', '6', '4', '8']
  obtain ⟨accepts, ended, _⟩ := all (Scheme.udp.uri (':' :: digits)) {}
  have thrown : returned (CliArg.parse (Scheme.udp.uri (':' :: digits)) {}).2 = none := by decide
  rw [thrown] at ended
  cases ended

end CliArg
end PilotingMavsdk
