import InbandTelemetry.Address.Basic

namespace InbandTelemetry

/-!
# Subnets

A subnet is the set of addresses that agree with its network address in their
leading bits.  Its host bits are cleared when it is built, so equal sets of
addresses have equal descriptions.  The text is an address, alone or followed
by a slash and the number of leading bits.
-/

/-- Why a text does not describe a subnet.  Each cause keeps the refused part. -/
inductive SubnetError where
  | address (text : List Char)
  | length (text : List Char)
deriving DecidableEq

def SubnetError.message : SubnetError → String
  | .address text => "invalid address: " ++ String.ofList text
  | .length text => "invalid prefix length: " ++ String.ofList text

/-- The word whose leading `length` bits are set. -/
def leadingMask (length : Nat) : UInt32 := UInt32.ofNat (4294967296 - Nat.pow 2 (32 - length))

/-- The addresses that share their leading bits with a network address. -/
structure Subnet where
  network : Address
  length : Nat
  length_le : length ≤ 32
  /-- The network address has no host bits, so it is the least of the subnet. -/
  network_masked : network.bits &&& leadingMask length = network.bits
deriving DecidableEq

namespace Subnet

/-- The subnet of an address.  A length above 32 counts as 32, and the host bits
of the address are cleared. -/
def ofAddress (address : Address) (length : Nat) : Subnet where
  network := ⟨address.bits &&& leadingMask (min length 32)⟩
  length := min length 32
  length_le := Nat.min_le_right length 32
  network_masked := by rw [UInt32.and_assoc, UInt32.and_self]

def all : Subnet := ofAddress ⟨0⟩ 0

def contains (subnet : Subnet) (address : Address) : Bool :=
  address.bits &&& leadingMask subnet.length == subnet.network.bits

/-- The length that a text after the slash denotes: decimal digits, perhaps
behind one plus sign, of value at most 32. -/
def length? (text : List Char) : Option Nat :=
  let digits := match text with
    | '+' :: digits => digits
    | digits => digits
  (decimal? digits).filter (· ≤ 32)

/-- The length that stands in a subnet text from the slash on.  Without a slash
the text describes a single address. -/
def lengthOf (text : List Char) : Except SubnetError Nat :=
  match text with
  | [] => .ok 32
  | _ :: digits => (length? digits).elim (.error (.length digits)) .ok

/-- The subnet that a text describes.  The length behind the first slash is
looked at before the address in front of it. -/
def ofText (text : List Char) : Except SubnetError Subnet :=
  let addressText := text.takeWhile (· != '/')
  match lengthOf (text.dropWhile (· != '/')) with
  | .error fault => .error fault
  | .ok length =>
      match Address.ofText? addressText with
      | some address => .ok (ofAddress address length)
      | none => .error (.address addressText)

def text (subnet : Subnet) : List Char :=
  subnet.network.text ++ '/' :: Nat.toDigits 10 subnet.length

/-- The address of a subnet whose host bits are those of an arbitrary word. -/
def member (network : Address) (length : Nat) (draw : UInt32) : Address :=
  let hostMask := UInt32.ofNat (Nat.pow 2 (32 - min length 32) - 1)
  ⟨(network.bits &&& ~~~hostMask) ||| (draw &&& hostMask)⟩

end Subnet

end InbandTelemetry
