import Mathlib.Data.Nat.Notation
import Mathlib.Data.Option.Basic

/-!
# Addresses and networks

`IpAddr` with the grammar of its text form, and the networks of `config.rs`.
A `Cidr` carries the facts its constructor establishes: the prefix fits the
family and the host bits are zero.
-/

namespace SpellServer

inductive IpAddr where
  | v4 (bits : BitVec 32)
  | v6 (bits : BitVec 128)
deriving DecidableEq, Repr

/-! ## Text form -/

/-- `char::to_digit`. -/
def toDigit (radix : ℕ) (char : Char) : Option ℕ :=
  let value :=
    if char.isDigit then char.toNat - '0'.toNat
    else if char.isLower then char.toNat - 'a'.toNat + 10
    else if char.isUpper then char.toNat - 'A'.toNat + 10
    else radix
  if value < radix then some value else none

def digitsValue (radix : ℕ) (digits : List Char) : ℕ :=
  digits.foldl (fun value char => value * radix + (toDigit radix char).getD 0) 0

namespace Parser

def readGivenChar (target : Char) : List Char → Option (List Char)
  | [] => none
  | char :: rest => if char = target then some rest else none

/-- The separator stands before every item but the first. -/
def readSeparator {α : Type} (sep : Char) (index : ℕ)
    (inner : List Char → Option (α × List Char)) (text : List Char) :
    Option (α × List Char) :=
  if index > 0 then (readGivenChar sep text).bind inner else inner text

/-- `bound` is the number of values of the integer type. -/
def readNumber (radix maxDigits bound : ℕ) (allowZeroPrefix : Bool) (text : List Char) :
    Option (ℕ × List Char) :=
  let digits := text.takeWhile fun char => (toDigit radix char).isSome
  let hasLeadingZero := text.head? = some '0'
  if digits.length > maxDigits then none
  else if digits.length = 0 then none
  else if !allowZeroPrefix && hasLeadingZero && decide (digits.length > 1) then none
  else if digitsValue radix digits < bound then
    some (digitsValue radix digits, text.drop digits.length)
  else none

def readIpv4Addr (text : List Char) : Option (BitVec 32 × List Char) := do
  let octet := fun index => readSeparator '.' index (readNumber 10 3 256 false)
  let (one, text) ← octet 0 text
  let (two, text) ← octet 1 text
  let (three, text) ← octet 2 text
  let (four, text) ← octet 3 text
  some (BitVec.ofNat 32 (((one * 256 + two) * 256 + three) * 256 + four), text)

/-- The groups read from position `index` on, at most `remaining`, and whether
the last two are an embedded IPv4 address. -/
def readGroups : (remaining index : ℕ) → List Char → List ℕ × Bool × List Char
  | 0, _, text => ([], false, text)
  | remaining + 1, index, text =>
      -- an embedded address needs room for two groups
      match if remaining > 0 then readSeparator ':' index readIpv4Addr text else none with
      | some (bits, rest) => ([bits.toNat / 65536, bits.toNat % 65536], true, rest)
      | none =>
          match readSeparator ':' index (readNumber 16 4 65536 true) text with
          | none => ([], false, text)
          | some (group, rest) =>
              let (groups, embedded, rest) := readGroups remaining (index + 1) rest
              (group :: groups, embedded, rest)

def fromGroups (groups : List ℕ) : BitVec 128 :=
  BitVec.ofNat 128 (groups.foldl (fun value group => value * 65536 + group) 0)

def readIpv6Addr (text : List Char) : Option (BitVec 128 × List Char) :=
  let (head, headIpv4, rest) := readGroups 8 0 text
  if head.length = 8 then some (fromGroups head, rest)
  else if headIpv4 then none
  else do
    let rest ← readGivenChar ':' rest
    let rest ← readGivenChar ':' rest
    let (tail, _, rest) := readGroups (8 - (head.length + 1)) 0 rest
    let zeroes := List.replicate (8 - head.length - tail.length) 0
    some (fromGroups (head ++ zeroes ++ tail), rest)

def readIpAddr (text : List Char) : Option (IpAddr × List Char) :=
  ((readIpv4Addr text).map fun read => (.v4 read.1, read.2)).or
    ((readIpv6Addr text).map fun read => (.v6 read.1, read.2))

end Parser

namespace IpAddr

/-- `IpAddr::from_str`: the whole text has to be an address. -/
def parse (text : List Char) : Option IpAddr :=
  match Parser.readIpAddr text with
  | some (ip, []) => some ip
  | _ => none

example : parse "::ffff:10.0.0.5".toList = some (.v6 0xffff0a000005#128) := by decide +kernel

def isIpv4 : IpAddr → Bool
  | .v4 _ => true
  | .v6 _ => false

def width : IpAddr → ℕ
  | .v4 _ => 32
  | .v6 _ => 128

/-- `Ipv6Addr::to_ipv4_mapped`. -/
def toIpv4Mapped (bits : BitVec 128) : Option (BitVec 32) :=
  if bits >>> 32 = 0xffff#128 then some (bits.setWidth 32) else none

def canonicalIp : IpAddr → IpAddr
  | .v6 bits =>
      match toIpv4Mapped bits with
      | some mapped => .v4 mapped
      | none => .v6 bits
  | .v4 bits => .v4 bits

def maskIp (prefixLength : ℕ) : IpAddr → IpAddr
  | .v4 bits =>
      .v4 (if prefixLength = 0 then 0 else bits &&& (BitVec.allOnes 32 <<< (32 - prefixLength)))
  | .v6 bits =>
      .v6 (if prefixLength = 0 then 0 else bits &&& (BitVec.allOnes 128 <<< (128 - prefixLength)))

@[simp] theorem width_maskIp (prefixLength : ℕ) (ip : IpAddr) :
    (ip.maskIp prefixLength).width = ip.width := by
  cases ip <;> rfl

theorem maskIp_maskIp (prefixLength : ℕ) (ip : IpAddr) :
    (ip.maskIp prefixLength).maskIp prefixLength = ip.maskIp prefixLength := by
  cases ip <;> by_cases zero : prefixLength = 0 <;>
    simp [maskIp, zero, BitVec.and_assoc]

end IpAddr

/-! ## Networks -/

structure Cidr where
  network : IpAddr
  prefixLength : ℕ
  bounded : prefixLength ≤ network.width
  masked : network.maskIp prefixLength = network
deriving DecidableEq, Repr

/-- What `Cidr::parse` reports; each carries the values its message shows. -/
inductive CidrError where
  | invalidAddress (spec : String)
  | invalidPrefix (spec : String)
  | prefixTooLong (prefixLength maxPrefix : ℕ) (spec : String)
deriving DecidableEq, Repr

/-- `u8::from_str`: an optional plus sign and at least one decimal digit. -/
def parseU8 (text : List Char) : Option ℕ :=
  let digits :=
    match text with
    | '+' :: rest => rest
    | _ => text
  if digits = [] then none
  else if digits.all Char.isDigit && decide (digitsValue 10 digits < 256) then
    some (digitsValue 10 digits)
  else none

namespace Cidr

def parse (spec : String) : Except CidrError Cidr :=
  let addrPart := spec.toList.takeWhile (· ≠ '/')
  let prefixPart := spec.toList.dropWhile (· ≠ '/')
  match (IpAddr.parse addrPart).map IpAddr.canonicalIp with
  | none => .error (.invalidAddress spec)
  | some addr =>
      let maxPrefix := addr.width
      let parsed :=
        match prefixPart with
        | [] => some maxPrefix
        | _ :: text => parseU8 text
      match parsed with
      | none => .error (.invalidPrefix spec)
      | some prefixLength =>
          if fits : prefixLength ≤ maxPrefix then
            .ok
              { network := addr.maskIp prefixLength
                prefixLength
                bounded := by simpa using fits
                masked := addr.maskIp_maskIp prefixLength }
          else .error (.prefixTooLong prefixLength maxPrefix spec)

def contains (cidr : Cidr) (ip : IpAddr) : Bool :=
  let ip := ip.canonicalIp
  if ip.isIpv4 ≠ cidr.network.isIpv4 then false
  else decide (ip.maskIp cidr.prefixLength = cidr.network)

end Cidr

end SpellServer
