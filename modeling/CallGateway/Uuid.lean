import CallGateway.Json.Decode
import CallGateway.Text.Reader

/-! Universally unique identifiers of 128 bits. Any version and variant is accepted; they are shown
in lower case with hyphens. -/

namespace CallGateway

structure Uuid where
  bits : BitVec 128
  deriving DecidableEq

namespace Uuid

/-- The number written by hexadecimal digits, behind the digits of `n`. -/
def readHex (n : Nat) : List Char → Option Nat
  | [] => some n
  | c :: cs => (Text.hexValue? c).bind fun d => readHex (n * 16 + d) cs

/-- The last `k` hexadecimal digits of `n`. -/
def writeHex : Nat → Nat → List Char
  | 0, _ => []
  | k + 1, n => writeHex k (n / 16) ++ [Nat.digitChar (n % 16)]

/-- Lengths of the groups of digits. -/
def groupLengths : List Nat := [8, 4, 4, 4, 12]

/-- Put hyphens between groups of the given lengths. -/
def hyphenate : List Nat → List Char → List Char
  | [], cs => cs
  | [_], cs => cs
  | k :: ks, cs => cs.take k ++ '-' :: hyphenate ks (cs.drop k)

/-- Take the hyphens out from between groups of the given lengths. -/
def unhyphenate : List Nat → List Char → Option (List Char)
  | [], cs => if cs.isEmpty then some [] else none
  | [k], cs => if cs.length = k then some cs else none
  | k :: ks, cs =>
    match cs.drop k with
    | '-' :: rest => (unhyphenate ks rest).map (cs.take k ++ ·)
    | _ => none

def ofHex? (cs : List Char) : Option Uuid :=
  if cs.length = 32 then (readHex 0 cs).map fun n => ⟨BitVec.ofNat 128 n⟩ else none

def ofHyphenated? (cs : List Char) : Option Uuid := (unhyphenate groupLengths cs).bind ofHex?

/-- The scheme in front of the hyphenated form, in any case. -/
def isScheme (cs : List Char) : Bool := cs.map Char.toLower == "urn:uuid:".toList

/-- Digits alone, or with hyphens, or with hyphens in braces or behind the scheme. -/
def parse? (s : String) : Option Uuid :=
  let cs := s.toList
  if cs.length = 32 then ofHex? cs
  else if cs.length = 36 then ofHyphenated? cs
  else if cs.length = 38 then
    if cs.head? = some '\x7b' ∧ cs.getLast? = some '\x7d' then ofHyphenated? (cs.drop 1).dropLast
    else none
  else if cs.length = 45 then
    if isScheme (cs.take 9) then ofHyphenated? (cs.drop 9) else none
  else none

def hex (u : Uuid) : List Char := writeHex 32 u.bits.toNat

/-- The digits without hyphens. -/
def simple (u : Uuid) : String := String.ofList u.hex

def display (u : Uuid) : String := String.ofList (hyphenate groupLengths u.hex)

instance : ToString Uuid := ⟨display⟩

def toJson (u : Uuid) : Json.Value := .string u.display

def decoder : Json.Decoder Uuid :=
  .parsed "a formatted UUID string" "UUID parsing failed" parse?

end Uuid

end CallGateway
