import CallGateway.Basic
import CallGateway.Decimal.Text
import CallGateway.Json.Value

/-! The compact text of a JSON value: no white space, and the fields of an object in the order in
which the value lists them. -/

namespace CallGateway.Json

/-- Quotes, backslashes and controls are escaped, the common controls by a letter. -/
def escapeByte (b : UInt8) : Bytes :=
  if b = byte '"' then Bytes.ofAscii ['\\', '"']
  else if b = byte '\\' then Bytes.ofAscii ['\\', '\\']
  else if 0x20 ≤ b then [b]
  else if b = 0x08 then Bytes.ofAscii ['\\', 'b']
  else if b = 0x09 then Bytes.ofAscii ['\\', 't']
  else if b = 0x0a then Bytes.ofAscii ['\\', 'n']
  else if b = 0x0c then Bytes.ofAscii ['\\', 'f']
  else if b = 0x0d then Bytes.ofAscii ['\\', 'r']
  else
    Bytes.ofAscii
      ['\\', 'u', '0', '0', Nat.digitChar (b.toNat / 16), Nat.digitChar (b.toNat % 16)]

def printString (s : String) : Bytes :=
  byte '"' :: (Bytes.ofString s).flatMap escapeByte ++ [byte '"']

def printInt (n : Int) : Bytes :=
  Bytes.ofAscii ((if n < 0 then ['-'] else []) ++ Decimal.digitChars n.natAbs)

def Number.print : Number → Bytes
  | .int n _ => printInt n
  | .float x => Bytes.ofAscii (Decimal.jsonStyle.writeBinary x)

namespace Value

mutual

def print : Value → Bytes
  | .null => Bytes.ofAscii ['n', 'u', 'l', 'l']
  | .bool true => Bytes.ofAscii ['t', 'r', 'u', 'e']
  | .bool false => Bytes.ofAscii ['f', 'a', 'l', 's', 'e']
  | .number n => n.print
  | .string s => printString s
  | .array [] => [byte '[', byte ']']
  | .array (v :: vs) => byte '[' :: print v ++ printItems vs ++ [byte ']']
  | .object [] => [byte '\x7b', byte '\x7d']
  | .object ((k, v) :: fs) =>
    byte '\x7b' :: printString k ++ byte ':' :: print v ++ printFields fs ++ [byte '\x7d']

/-- The items after the first, each behind a comma. -/
def printItems : List Value → Bytes
  | [] => []
  | v :: vs => byte ',' :: print v ++ printItems vs

/-- The fields after the first, each behind a comma. -/
def printFields : List (String × Value) → Bytes
  | [] => []
  | (k, v) :: fs => byte ',' :: printString k ++ byte ':' :: print v ++ printFields fs

end

/-- The printed text as a string. -/
def text (v : Value) : String := (Bytes.toString? v.print).getD ""

end Value

end CallGateway.Json
