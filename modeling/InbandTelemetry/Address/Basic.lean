import InbandTelemetry.Bytes

namespace InbandTelemetry

/-!
# IPv4 addresses and their text

An address is a 32-bit word, and its text is four decimal octets between dots.
An octet is written without leading zeros, so the text of an address is unique.
-/

/-- The number that a string of decimal digits denotes.  An empty string and a
string with any other character denote none. -/
def decimal? (digits : List Char) : Option Nat :=
  if !digits.isEmpty && digits.all Char.isDigit then
    some (digits.foldl (fun number digit => number * 10 + (digit.toNat - 48)) 0)
  else
    none

/-- The stretches of a text between the separators. -/
def fields (separator : Char) : List Char → List (List Char)
  | [] => [[]]
  | first :: rest =>
      if first = separator then
        [] :: fields separator rest
      else
        match fields separator rest with
        | [] => [[first]]
        | field :: later => (first :: field) :: later

/-- An IPv4 address. -/
structure Address where
  bits : UInt32
deriving DecidableEq

namespace Address

/-- The address with the given octets, the leading one first. -/
def ofOctets (first second third fourth : UInt8) : Address :=
  ⟨Bytes.word32 first second third fourth⟩

def octets (address : Address) : Bytes := Bytes.ofWord32 address.bits

/-- The octet that a text of at most three digits without a leading zero denotes. -/
def octet? (text : List Char) : Option UInt8 :=
  if text.length ≤ 3 && (text.head? != some '0' || text.length == 1) then
    match decimal? text with
    | some number => if number < 256 then some (UInt8.ofNat number) else none
    | none => none
  else
    none

def ofText? (text : List Char) : Option Address :=
  match (fields '.' text).map octet? with
  | [some first, some second, some third, some fourth] =>
      some (ofOctets first second third fourth)
  | _ => none

def text (address : Address) : List Char :=
  ['.'].intercalate (address.octets.map fun octet => Nat.toDigits 10 octet.toNat)

end Address

end InbandTelemetry
