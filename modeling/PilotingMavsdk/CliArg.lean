import Mathlib.Algebra.Group.Nat.Defs
import Mathlib.Data.List.Basic

/-! `CliArg`, which takes a connection url apart. The four functions that find its parts use up the
text from the left and write the members as they go. -/

namespace PilotingMavsdk

abbrev Text := List Char

inductive CliArg.Protocol where
  | none
  | udp
  | tcp
  | serial
deriving DecidableEq, Repr

/-- Each member has a getter. -/
structure CliArg where
  protocol : CliArg.Protocol := .none
  path : Text := []
  port : Int := 0
  baudrate : Int := 0
  flowControlEnabled : Bool := false
deriving DecidableEq, Repr

namespace CliArg

/-- Why a function does not come to its end: a warning and `return false`, or `std::out_of_range`,
which nobody catches. -/
inductive Stop where
  | warning (text : String)
  | outOfRange
deriving DecidableEq, Repr

abbrev intMax : Nat := 2 ^ 31 - 1

def decimal (digits : Text) : Nat :=
  digits.foldl (fun value digit => value * 10 + (digit.toNat - '0'.toNat)) 0

/-- `std::stoi` of digits, at least one; `none` is the exception. -/
def stoi (digits : Text) : Option Int :=
  if decimal digits ≤ intMax then some (decimal digits) else none

def reset (arg : CliArg) : CliArg :=
  { arg with protocol := .none, path := [], baudrate := 0, port := 0 }

def udp : Text := ['u', 'd', 'p']
def tcp : Text := ['t', 'c', 'p']
def serial : Text := ['s', 'e', 'r', 'i', 'a', 'l']
def serialFlowcontrol : Text :=
  ['s', 'e', 'r', 'i', 'a', 'l', '_', 'f', 'l', 'o', 'w', 'c', 'o', 'n', 't', 'r', 'o', 'l']
def delimiter : Text := [':', '/', '/']

/-- With the rest of the text, like `findPath`. -/
def findProtocol (rest : Text) (arg : CliArg) : CliArg × Except Stop Text :=
  if (udp ++ delimiter).isPrefixOf rest then
    ({ arg with protocol := .udp }, .ok (rest.drop (udp.length + delimiter.length)))
  else if (tcp ++ delimiter).isPrefixOf rest then
    ({ arg with protocol := .tcp }, .ok (rest.drop (tcp.length + delimiter.length)))
  else if (serial ++ delimiter).isPrefixOf rest then
    ({ arg with protocol := .serial, flowControlEnabled := false },
      .ok (rest.drop (serial.length + delimiter.length)))
  else if (serialFlowcontrol ++ delimiter).isPrefixOf rest then
    ({ arg with protocol := .serial, flowControlEnabled := true },
      .ok (rest.drop (serialFlowcontrol.length + delimiter.length)))
  else (arg, .error (.warning "Unknown protocol"))

/-- The end of `find_path`, with the path found. -/
def checkSerialPath (rest : Text) (arg : CliArg) : CliArg × Except Stop Text :=
  if ['/'].isPrefixOf arg.path then (arg, .ok rest)
  else if ['C', 'O', 'M'].isPrefixOf arg.path then
    if arg.path.length = 3 then (arg, .error (.warning "COM port number missing"))
    else if (arg.path.drop 3).all Char.isDigit then (arg, .ok rest)
    else ({ arg with path := [] }, .error (.warning "COM port number invalid."))
  else ({ arg with path := [] }, .error (.warning "Invalid serial path"))

def findPath (rest : Text) (arg : CliArg) : CliArg × Except Stop Text :=
  if rest.length = 0 then
    if arg.protocol = .udp ∨ arg.protocol = .tcp then (arg, .ok rest)
    else (arg, .error (.warning "Path for serial device required."))
  else
    match rest.findIdx? (· = ':') with
    | some pos =>
      let found := { arg with path := rest.take pos }
      if found.protocol = .serial then found.checkSerialPath (rest.drop (pos + 1))
      else (found, .ok (rest.drop (pos + 1)))
    | none =>
      if rest.all Char.isDigit then (arg, .error (.warning "Path can't be numbers only."))
      else
        let found := { arg with path := rest }
        if found.protocol = .serial then found.checkSerialPath [] else (found, .ok [])

def findPort (rest : Text) (arg : CliArg) : CliArg × Except Stop Unit :=
  if rest.length = 0 then ({ arg with port := 0 }, .ok ())
  else if rest.all Char.isDigit then
    match stoi rest with
    | none => (arg, .error .outOfRange)
    | some port =>
      if port < 0 then ({ arg with port := 0 }, .error (.warning "Port can't be negative."))
      else if port > 65535 then ({ arg with port := 0 }, .error (.warning "Port number to big."))
      else ({ arg with port := port }, .ok ())
  else (arg, .error (.warning "Non-numeric char found in port"))

def findBaudrate (rest : Text) (arg : CliArg) : CliArg × Except Stop Unit :=
  if rest.length = 0 then ({ arg with port := 0 }, .ok ())
  else if rest.all Char.isDigit then
    match stoi rest with
    | none => (arg, .error .outOfRange)
    | some baudrate => ({ arg with baudrate := baudrate }, .ok ())
  else (arg, .error (.warning "Non-numeric char found in baudrate"))

def parse (uri : Text) (arg : CliArg) : CliArg × Except Stop Unit :=
  match findProtocol uri arg.reset with
  | (found, .error stop) => (found, .error stop)
  | (found, .ok rest) =>
    match findPath rest found with
    | (pathFound, .error stop) => (pathFound, .error stop)
    | (pathFound, .ok last) =>
      if pathFound.protocol = .serial then pathFound.findBaudrate last
      else pathFound.findPort last

def returned : Except Stop Unit → Option Bool
  | .ok () => some true
  | .error (.warning _) => some false
  | .error .outOfRange => none

/-- An object on which `parse` has been called for these texts, one after the other. -/
def after (uris : List Text) : CliArg :=
  uris.foldl (fun arg uri => (arg.parse uri).1) {}

end CliArg
end PilotingMavsdk
