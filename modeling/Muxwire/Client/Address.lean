import Muxwire.Error
import Muxwire.Text.Quoted

/-!
# Addresses

An address is `host:port` or `host:port/space`. The first slash divides; a space may hold more of
them.

* `Address.parse` reads one, `Address.text` writes it.
* `Address.locate` is what has to hold before any connecting: the address can be read, and its
  remote part ends in a port.
-/

namespace Muxwire.Client

/-- An address: where the server listens, and the space that queries use by default. -/
structure Address where
  remote : String
  space : Option String
  deriving DecidableEq, Repr

/-- What is wrong with an address. -/
inductive AddressFault where
  | emptySpace (address : String)
  | missingHost (address : String)
  deriving DecidableEq, Repr

/-- The wording of an address fault. -/
def AddressFault.message : AddressFault → String
  | .emptySpace address => "empty space in " ++ Text.Quoted.quote address
  | .missingHost address => "missing host in " ++ Text.Quoted.quote address

namespace Address

/-- The mark between the remote part and the space. -/
def separator : Char := '/'

/-- The characters before the first separator, and those after it if there is one. -/
def splitSpace (cs : List Char) : List Char × Option (List Char) :=
  match cs.dropWhile (· != separator) with
  | [] => (cs, none)
  | _ :: space => (cs.takeWhile (· != separator), some space)

/-- The parts of an address. An empty space is reported before a missing host. -/
def parts (address : String) : Except AddressFault Address :=
  match splitSpace address.toList with
  | (_, some []) => .error (.emptySpace address)
  | ([], _) => .error (.missingHost address)
  | (remote, space) => .ok ⟨String.ofList remote, space.map String.ofList⟩

/-- Reads an address. -/
def parse (address : String) : Except Error Address :=
  (parts address).mapError fun fault => .invalidAddress fault.message

/-- Writes an address. -/
def text (a : Address) : String :=
  match a.space with
  | none => a.remote
  | some space => a.remote ++ String.ofList [separator] ++ space

/-! ## The remote part -/

/-- A port number in decimal digits, with or without a plus sign. -/
def port? (cs : List Char) : Option Nat :=
  let digits := match cs with
    | '+' :: rest => rest
    | cs => cs
  if digits.isEmpty || !digits.all Char.isDigit then none
  else
    let n := digits.foldl (fun n c => n * 10 + (c.toNat - 48)) 0
    if n < 65536 then some n else none

/-- The fault of a remote part that is no `host:port`: the last colon divides. -/
def endpointFault? (a : Address) : Option IoFault :=
  let reversed := a.remote.toList.reverse
  if !reversed.any (· == ':') then some ⟨.invalidInput, "invalid socket address"⟩
  else if (port? (reversed.takeWhile (· != ':')).reverse).isNone then
    some ⟨.invalidInput, "invalid port value"⟩
  else none

/-- Reads an address that can be connected to. -/
def locate (address : String) : Except Error Address := do
  let a ← parse address
  match a.endpointFault? with
  | some fault => .error (.io fault)
  | none => pure a

end Address

end Muxwire.Client
