import CallGateway.Json.Decode
import CallGateway.Text.Reader

/-! Addresses of network sockets: `127.0.0.1:8080`, `[2001:db8::1]:8080`. Reading takes every
spelling of an address, writing has one for each. -/

namespace CallGateway

structure Ipv4 where
  octets : Vector UInt8 4
  deriving DecidableEq

structure Ipv6 where
  groups : Vector UInt16 8
  deriving DecidableEq

inductive SocketAddress
  | v4 (ip : Ipv4) (port : UInt16)
  | v6 (ip : Ipv6) (scope : UInt32) (port : UInt16)
  deriving DecidableEq

/-- The octets in pairs, as the last groups of a newer address. -/
def Ipv4.pairs (x : Ipv4) : List UInt16 :=
  let pair (a b : UInt8) : UInt16 := UInt16.ofNat (a.toNat * 256 + b.toNat)
  [pair x.octets[0] x.octets[1], pair x.octets[2] x.octets[3]]

/-- The four octets of an address of the older kind that is written as one of the newer. -/
def Ipv6.mapped? (x : Ipv6) : Option Ipv4 :=
  let g := x.groups
  if g.toList.take 6 = [0, 0, 0, 0, 0, 0xffff] then
    some ⟨#v[(g[6] / 256).toUInt8, g[6].toUInt8, (g[7] / 256).toUInt8, g[7].toUInt8]⟩
  else none

namespace SocketAddress

open Text

/-! ## Reading -/

/-- A decimal number below `bound`, of any number of digits. -/
def readDecimal (bound : Nat) (cs : List Char) : Option (Nat × List Char) :=
  match spanDigits decimalValue? cs with
  | ([], _) => none
  | (ds, rest) => if ofDigits 10 ds < bound then some (ofDigits 10 ds, rest) else none

/-- Up to three decimal digits without leading zeros. -/
def readOctet (cs : List Char) : Option (UInt8 × List Char) :=
  match spanDigits decimalValue? cs with
  | ([], _) => none
  | (d :: ds, rest) =>
    if ds.length ≤ 2 ∧ (d ≠ 0 ∨ ds = []) ∧ ofDigits 10 (d :: ds) < 256 then
      some (UInt8.ofNat (ofDigits 10 (d :: ds)), rest)
    else none

/-- Up to four hexadecimal digits. -/
def readGroup (cs : List Char) : Option (UInt16 × List Char) :=
  match spanDigits hexValue? cs with
  | ([], _) => none
  | (ds, rest) => if ds.length ≤ 4 then some (UInt16.ofNat (ofDigits 16 ds), rest) else none

def readIpv4 (cs : List Char) : Option (Ipv4 × List Char) := do
  let (a, cs) ← readOctet cs
  let (b, cs) ← readOctet (← readMark '.' cs)
  let (c, cs) ← readOctet (← readMark '.' cs)
  let (d, cs) ← readOctet (← readMark '.' cs)
  return (⟨#v[a, b, c, d]⟩, cs)

/-- The colon in front of all groups but the first. -/
def readSeparator (first : Bool) (cs : List Char) : Option (List Char) :=
  if first then some cs else readMark ':' cs

/-- Up to `room` groups; the last two may be written as an address of four octets, and whether they
are is told. -/
def readGroups (first : Bool) : (room : Nat) → List Char → List UInt16 × Bool × List Char
  | 0, cs => ([], false, cs)
  | room + 1, cs =>
    match readSeparator first cs with
    | none => ([], false, cs)
    | some inner =>
      match if room = 0 then none else readIpv4 inner with
      | some (x, rest) => (x.pairs, true, rest)
      | none =>
        match readGroup inner with
        | none => ([], false, cs)
        | some (g, rest) =>
          let (gs, embedded, rest) := readGroups false room rest
          (g :: gs, embedded, rest)

/-- Eight groups, or fewer and `::` for at least one group of zeros. -/
def readIpv6 (cs : List Char) : Option (Ipv6 × List Char) :=
  let (front, embedded, rest) := readGroups true 8 cs
  if h : front.length = 8 then some (⟨⟨front.toArray, by simpa using h⟩⟩, rest)
  else if embedded then none
  else do
    let rest ← readMark ':' (← readMark ':' rest)
    let (back, _, rest) := readGroups true (7 - front.length) rest
    let groups := front ++ List.replicate (8 - front.length - back.length) 0 ++ back
    if h : groups.length = 8 then return (⟨⟨groups.toArray, by simpa using h⟩⟩, rest) else none

def readPort (cs : List Char) : Option (UInt16 × List Char) := do
  let (n, cs) ← readDecimal (2 ^ 16) (← readMark ':' cs)
  return (UInt16.ofNat n, cs)

/-- The zone of a link-local address; none is zone zero. -/
def readScope (cs : List Char) : UInt32 × List Char :=
  match (readMark '%' cs).bind (readDecimal (2 ^ 32)) with
  | some (n, rest) => (UInt32.ofNat n, rest)
  | none => (0, cs)

def readV4 (cs : List Char) : Option (SocketAddress × List Char) := do
  let (ip, cs) ← readIpv4 cs
  let (port, cs) ← readPort cs
  return (.v4 ip port, cs)

def readV6 (cs : List Char) : Option (SocketAddress × List Char) := do
  let (ip, cs) ← readIpv6 (← readMark '[' cs)
  let (scope, cs) := readScope cs
  let (port, cs) ← readPort (← readMark ']' cs)
  return (.v6 ip scope port, cs)

def parse? (s : String) : Option SocketAddress :=
  match (readV4 s.toList).or (readV6 s.toList) with
  | some (a, []) => some a
  | _ => none

/-! ## Writing -/

def writeIpv4 (x : Ipv4) : List Char :=
  ['.'].intercalate (x.octets.toList.map fun o => Nat.toDigits 10 o.toNat)

def writeGroups (gs : List UInt16) : List Char :=
  [':'].intercalate (gs.map fun g => Nat.toDigits 16 g.toNat)

/-- The number of zeros in front. -/
def leadingZeros (gs : List UInt16) : Nat := (gs.takeWhile (· == 0)).length

/-- Where the longest run of zeros starts, the first of several, and its length. -/
def longestRun : List UInt16 → Nat × Nat
  | [] => (0, 0)
  | g :: gs =>
    let (start, length) := longestRun gs
    if length ≤ leadingZeros (g :: gs) then (0, leadingZeros (g :: gs)) else (start + 1, length)

def writeIpv6 (x : Ipv6) : List Char :=
  match x.mapped? with
  | some y => "::ffff:".toList ++ writeIpv4 y
  | none =>
    let gs := x.groups.toList
    let (start, length) := longestRun gs
    if 1 < length then
      writeGroups (gs.take start) ++ [':', ':'] ++ writeGroups (gs.drop (start + length))
    else writeGroups gs

def write : SocketAddress → List Char
  | .v4 ip port => writeIpv4 ip ++ ':' :: Nat.toDigits 10 port.toNat
  | .v6 ip scope port =>
    '[' :: writeIpv6 ip ++ (if scope = 0 then [] else '%' :: Nat.toDigits 10 scope.toNat)
      ++ ']' :: ':' :: Nat.toDigits 10 port.toNat

def display (a : SocketAddress) : String := String.ofList a.write

def toJson (a : SocketAddress) : Json.Value := .string a.display

/-- What is said of a text that is no address. -/
def complaint : String := "invalid socket address syntax"

def decoder : Json.Decoder SocketAddress := .parsed "socket address" complaint parse?

/-- The local host, where only programs on the same machine can connect. -/
def localhost (port : UInt16) : SocketAddress := .v4 ⟨#v[127, 0, 0, 1]⟩ port

end SocketAddress

end CallGateway
