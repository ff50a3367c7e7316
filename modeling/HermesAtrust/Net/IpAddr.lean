import HermesAtrust.L3.Ipv4Text
import HermesAtrust.Text.Hex

/-!
# Reading IP addresses

`IpAddr::from_str`: an IPv4 address, or else an IPv6 address of eight groups of
at most four hexadecimal digits, where `::` stands for the groups that are left
out and the last two groups may be written as an IPv4 address.
-/

namespace HermesAtrust.Net

open HermesAtrust.Framing HermesAtrust.L3 HermesAtrust.Text

structure Ipv6Addr where
  groups : Vector UInt16 8
  deriving DecidableEq

/-- The sixteen octets in network order. -/
def Ipv6Addr.octets (ip : Ipv6Addr) : Bytes :=
  ip.groups.toList.flatMap fun group => toBeU16 group.toNat

inductive IpAddr where
  | v4 (ip : Ipv4Addr)
  | v6 (ip : Ipv6Addr)
  deriving DecidableEq

/-! ## The readers

Each takes what it reads from the front of a text and leaves the rest. -/

/-- `read_separator`: every part but the first is behind a separator. -/
def behind {Part : Type} (separator : Char) (first : Bool)
    (read : Str → Option (Part × Str)) (text : Str) : Option (Part × Str) :=
  if first then
    read text
  else
    (stripPrefix? [separator] text).bind read

/-- A decimal number of an IPv4 address. -/
def readOctet (text : Str) : Option (UInt8 × Str) :=
  (parseOctet (text.takeWhile isDigit)).map fun octet =>
    (octet, text.dropWhile isDigit)

/-- `read_ipv4_addr`. -/
def readIpv4 (text : Str) : Option (Ipv4Addr × Str) := do
  let (a, text) ← behind '.' true readOctet text
  let (b, text) ← behind '.' false readOctet text
  let (c, text) ← behind '.' false readOctet text
  let (d, text) ← behind '.' false readOctet text
  return (⟨a, b, c, d⟩, text)

/-- A group of an IPv6 address. -/
def readGroup (text : Str) : Option (UInt16 × Str) :=
  let digits := (text.takeWhile fun char => (hexValue char).isSome)
  if digits ≠ [] ∧ digits.length ≤ 4 then
    let group :=
      digits.foldl (fun group digit => 16 * group + (hexValue digit).getD 0) 0
    some (UInt16.ofNat group, text.drop digits.length)
  else
    none

/-- `read_groups` for so many places; whether the groups end with an IPv4
address, and the rest of the text. -/
def readGroups : Nat → (first : Bool) → Str → List UInt16 × Bool × Str
  | 0, _, text => ([], false, text)
  | places + 1, first, text =>
      let ipv4 := if 0 < places then behind ':' first readIpv4 text else none
      match ipv4 with
      | some (ip, rest) =>
          ([UInt16.ofNat (beU16 ip.a ip.b), UInt16.ofNat (beU16 ip.c ip.d)],
            true, rest)
      | none =>
          match behind ':' first readGroup text with
          | none => ([], false, text)
          | some (group, rest) =>
              let (groups, ipv4, rest) := readGroups places false rest
              (group :: groups, ipv4, rest)

/-- Eight groups, with zeros between the two parts. -/
def ofParts (head tail : List UInt16) : Ipv6Addr where
  groups :=
    .ofFn fun place =>
      (head ++ List.replicate (8 - head.length - tail.length) 0 ++ tail).getD
        place 0

/-- `read_ipv6_addr`. -/
def readIpv6 (text : Str) : Option (Ipv6Addr × Str) :=
  match readGroups 8 true text with
  | (head, headIpv4, text) =>
      if head.length = 8 then
        some (ofParts head [], text)
      else if headIpv4 then
        none
      else
        match stripPrefix? [':', ':'] text with
        | none => none
        | some text =>
            match readGroups (8 - (head.length + 1)) true text with
            | (tail, _, text) => some (ofParts head tail, text)

def parseIpv6 (text : Str) : Option Ipv6Addr :=
  match readIpv6 text with
  | some (ip, []) => some ip
  | _ => none

/-- `str::parse::<IpAddr>`. -/
def parseIpAddr (text : Str) : Option IpAddr :=
  match parseIpv4 text with
  | some ip => some (.v4 ip)
  | none => (parseIpv6 text).map .v6

example : (parseIpv6 "fd00::a:198.18.0.5".toList).map Ipv6Addr.octets =
    some [0xfd, 0, 0, 0, 0, 0, 0, 0, 0, 0, 0, 0x0a, 198, 18, 0, 5] := by
  decide +kernel

example : parseIpv6 "1:2:3:4:5:6:7".toList = none := by decide +kernel

end HermesAtrust.Net
