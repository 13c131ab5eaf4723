import CallGateway.Basic
import CallGateway.Json.Number
import CallGateway.Json.Tree

/-! Reading JSON text into trees. Each scanner returns what it has read and the bytes that follow,
or none where the text breaks off. -/

namespace CallGateway.Json

def isBlankByte (b : UInt8) : Bool := b == 0x20 || b == 0x09 || b == 0x0a || b == 0x0d

def skipBlank (bs : Bytes) : Bytes := bs.dropWhile isBlankByte

/-- Containers nested deeper than this are beyond the limit. -/
def nestingLimit : Nat := 127

/-! ## Strings -/

/-- A part of a string: a byte that stands for itself or is named by an escape, or a 16-bit unit
given by its four hexadecimal digits. -/
inductive Piece
  | byte (b : UInt8)
  | unit (n : Nat)
  deriving DecidableEq

def hexDigit? (b : UInt8) : Option Nat :=
  if byte '0' ≤ b ∧ b ≤ byte '9' then some (b.toNat - 0x30)
  else if byte 'a' ≤ b ∧ b ≤ byte 'f' then some (b.toNat - 0x57)
  else if byte 'A' ≤ b ∧ b ≤ byte 'F' then some (b.toNat - 0x37)
  else none

def hexUnit? (a b c d : UInt8) : Option Nat := do
  let a ← hexDigit? a
  let b ← hexDigit? b
  let c ← hexDigit? c
  let d ← hexDigit? d
  return ((a * 16 + b) * 16 + c) * 16 + d

/-- What a backslash and one more byte stand for. -/
def simpleEscape? (b : UInt8) : Option UInt8 :=
  if b = byte '"' ∨ b = byte '\\' ∨ b = byte '/' then some b
  else if b = byte 'b' then some 0x08
  else if b = byte 'f' then some 0x0c
  else if b = byte 'n' then some 0x0a
  else if b = byte 'r' then some 0x0d
  else if b = byte 't' then some 0x09
  else none

/-- The pieces of a string up to its closing quote. -/
def scanPieces : Bytes → Option (List Piece × Bytes)
  | [] => none
  | b :: rest =>
    if b = byte '"' then some ([], rest)
    else if b = byte '\\' then
      match rest with
      | [] => none
      | e :: rest =>
        if e = byte 'u' then
          match rest with
          | h₁ :: h₂ :: h₃ :: h₄ :: rest =>
            match hexUnit? h₁ h₂ h₃ h₄ with
            | some n => (scanPieces rest).map fun (ps, r) => (.unit n :: ps, r)
            | none => none
          | _ => none
        else
          match simpleEscape? e with
          | some c => (scanPieces rest).map fun (ps, r) => (.byte c :: ps, r)
          | none => none
    else if b < 0x20 then none
    else (scanPieces rest).map fun (ps, r) => (.byte b :: ps, r)

/-- The UTF-8 form of the code point `n`. -/
def codePointBytes (n : Nat) : Bytes := String.utf8EncodeChar (Char.ofNat n)

/-- The bytes that pieces spell. Units in the surrogate range must come in pairs, high and low. -/
def assemble : List Piece → Option Bytes
  | [] => some []
  | .byte b :: ps => (assemble ps).map (b :: ·)
  | .unit n :: ps =>
    if n < 0xd800 ∨ 0xdfff < n then (assemble ps).map (codePointBytes n ++ ·)
    else
      match ps with
      | .unit m :: ps =>
        if n ≤ 0xdbff ∧ 0xdc00 ≤ m ∧ m ≤ 0xdfff then
          (assemble ps).map (codePointBytes (0x10000 + (n - 0xd800) * 0x400 + (m - 0xdc00)) ++ ·)
        else none
      | _ => none

/-- The text that pieces spell, if any. -/
def spell (ps : List Piece) : Option String := (assemble ps).bind Bytes.toString?

/-! ## Numbers -/

def digit? (b : UInt8) : Option Nat :=
  if byte '0' ≤ b ∧ b ≤ byte '9' then some (b.toNat - 0x30) else none

/-- The digits at the front. -/
def scanDigits : Bytes → List Nat × Bytes
  | [] => ([], [])
  | b :: rest =>
    match digit? b with
    | some d => let (ds, r) := scanDigits rest; (d :: ds, r)
    | none => ([], b :: rest)

/-- The digits in front of the point: a zero alone, or digits that do not start with one. -/
def scanWhole (bs : Bytes) : Option (List Nat × Bytes) :=
  match scanDigits bs with
  | ([], _) => none
  | (0 :: _ :: _, _) => none
  | (ds, r) => some (ds, r)

/-- The digits behind the point, if there is a point. -/
def scanFraction : Bytes → Option (List Nat × Bytes)
  | [] => some ([], [])
  | b :: rest =>
    if b = byte '.' then
      match scanDigits rest with
      | ([], _) => none
      | (ds, r) => some (ds, r)
    else some ([], b :: rest)

/-- The exponent, if there is one. -/
def scanExponent : Bytes → Option (Option Int × Bytes)
  | [] => some (none, [])
  | b :: rest =>
    if b = byte 'e' ∨ b = byte 'E' then
      let (negative, rest) := match rest with
        | [] => (false, [])
        | s :: r =>
          if s = byte '-' then (true, r)
          else if s = byte '+' then (false, r)
          else (false, s :: r)
      match scanDigits rest with
      | ([], _) => none
      | (ds, r) => some (some (if negative then -(ofDigits ds : Int) else ofDigits ds), r)
    else some (none, b :: rest)

def scanNumber (bs : Bytes) : Option (Option Number × Bytes) := do
  let (negative, bs) := match bs with
    | [] => (false, [])
    | b :: rest => if b = byte '-' then (true, rest) else (false, b :: rest)
  let (whole, bs) ← scanWhole bs
  let (fraction, bs) ← scanFraction bs
  let (exponent, bs) ← scanExponent bs
  return (readNumber negative whole fraction exponent, bs)

/-! ## Values -/

/-- White space and the byte `b`. -/
def scanMark (b : UInt8) (bs : Bytes) : Option Bytes :=
  match skipBlank bs with
  | [] => none
  | c :: rest => if c = b then some rest else none

/-- The name of a member: a string, which may spell no text. -/
def scanName (bs : Bytes) : Option (Option String × Bytes) := do
  let bs ← scanMark (byte '"') bs
  let (ps, bs) ← scanPieces bs
  return (spell ps, bs)

/-- The rest of a word whose first letter has been read. -/
def scanWord (letters : List Char) (t : Tree) (bs : Bytes) : Tree × Option Bytes :=
  let word := Bytes.ofAscii letters
  if word.isPrefixOf bs then (t, some (bs.drop word.length)) else (.broken, none)

mutual

/-- One value, inside `level` containers. Every two calls use up a byte, so `fuel` of twice the
length of the text is never used up. -/
def scanValue (fuel level : Nat) (bs : Bytes) : Tree × Option Bytes :=
  match fuel with
  | 0 => (.broken, none)
  | fuel + 1 =>
    match skipBlank bs with
    | [] => (.broken, none)
    | b :: rest =>
      if b = byte 'n' then scanWord ['u', 'l', 'l'] .null rest
      else if b = byte 't' then scanWord ['r', 'u', 'e'] (.bool true) rest
      else if b = byte 'f' then scanWord ['a', 'l', 's', 'e'] (.bool false) rest
      else if b = byte '"' then
        match scanPieces rest with
        | some (ps, r) => (.string (spell ps), some r)
        | none => (.broken, none)
      else if b = byte '-' ∨ (digit? b).isSome then
        match scanNumber (b :: rest) with
        | some (n, r) => (.number n, some r)
        | none => (.broken, none)
      else if b = byte '[' then
        match scanMark (byte ']') rest with
        | some r => (.array (nestingLimit ≤ level) [], some r)
        | none =>
          let (items, r) := scanItems fuel (level + 1) rest
          (.array (nestingLimit ≤ level) items, r)
      else if b = byte '\x7b' then
        match scanMark (byte '\x7d') rest with
        | some r => (.object (nestingLimit ≤ level) [], some r)
        | none =>
          let (members, r) := scanMembers fuel (level + 1) rest
          (.object (nestingLimit ≤ level) members, r)
      else (.broken, none)

/-- One item or more, up to the closing bracket. -/
def scanItems (fuel level : Nat) (bs : Bytes) : List Tree × Option Bytes :=
  match fuel with
  | 0 => ([.broken], none)
  | fuel + 1 =>
    match scanValue fuel level bs with
    | (t, none) => ([t], none)
    | (t, some r) =>
      match skipBlank r with
      | [] => ([t, .broken], none)
      | b :: r =>
        if b = byte ',' then
          let (ts, r) := scanItems fuel level r
          (t :: ts, r)
        else if b = byte ']' then ([t], some r)
        else ([t, .broken], none)

/-- One member or more, up to the closing brace. -/
def scanMembers (fuel level : Nat) (bs : Bytes) : List (Option String × Tree) × Option Bytes :=
  match fuel with
  | 0 => ([(none, .broken)], none)
  | fuel + 1 =>
    match scanName bs with
    | none => ([(none, .broken)], none)
    | some (name, r) =>
      match scanMark (byte ':') r with
      | none => ([(name, .broken)], none)
      | some r =>
        match scanValue fuel level r with
        | (t, none) => ([(name, t)], none)
        | (t, some r) =>
          match skipBlank r with
          | [] => ([(name, t), (none, .broken)], none)
          | b :: r =>
            if b = byte ',' then
              let (ms, r) := scanMembers fuel level r
              ((name, t) :: ms, r)
            else if b = byte '\x7d' then ([(name, t)], some r)
            else ([(name, t), (none, .broken)], none)

end

/-- Read the value at the front of a text. -/
def scan (bs : Bytes) : Tree × Option Bytes := scanValue (2 * bs.length + 2) 0 bs

end CallGateway.Json
