import CallGateway.Text.CodePoints
import CallGateway.Text.Pattern.Flag
import CallGateway.Text.Reader

/-! The smallest parts of patterns: characters, classes of them, and places between them. -/

namespace CallGateway.Text

/-! ## Blanks and comments

Patterns may be spread out over lines, with comments from a `#` to the end of a line. -/

def skipSpread : (inComment : Bool) → List Char → List Char
  | _, [] => []
  | true, c :: cs => skipSpread (c != '\n') cs
  | false, c :: cs =>
    if c = '#' then skipSpread true cs else if isBlankChar c then skipSpread false cs else c :: cs

/-- Skip what may stand between the parts of a pattern. -/
def skipLayout (spaced : Bool) (cs : List Char) : List Char :=
  if spaced then skipSpread false cs else cs

/-! ## Atoms -/

inductive Atom
  /-- A character, as such or as a byte. -/
  | char (c : Char) (isByte : Bool)
  | dot
  /-- Digits, blanks or characters of words, or all others. -/
  | shorthand (negated : Bool)
  /-- An end of a line or of the text, or of a word. -/
  | edge (ofWord : Bool)
  deriving DecidableEq

namespace Atom

/-- An atom can be used in a mode. No tables of characters are at hand, so that their case, their
classes and the edges of their words are unknown; and no pattern of bytes matches a part of a
character. -/
def fits (m : Mode) : Atom → Bool
  | .char c isByte => if m.unicode then !m.caseless else !isByte || c.toNat < 128
  | .dot => m.unicode
  | .shorthand negated => !m.unicode && !negated
  | .edge ofWord => !(m.unicode && ofWord)

/-! ## Escapes -/

def controls : List (Char × Char) :=
  [('a', '\x07'), ('f', '\x0c'), ('t', '\t'), ('n', '\n'), ('r', '\r'), ('v', '\x0b')]

/-- The code that hexadecimal digits write. -/
def readCode (spaced : Bool) : (digits code : Nat) → List Char → Option (Nat × List Char)
  | 0, code, cs => some (code, cs)
  | digits + 1, code, cs =>
    match skipLayout spaced cs with
    | [] => none
    | c :: cs => (hexValue? c).bind fun d => readCode spaced digits (16 * code + d) cs

/-- A character by its code, of that many digits. -/
def readCoded (spaced : Bool) (digits : Nat) (isByte : Bool) (cs : List Char) :
    Option (Atom × List Char) :=
  (readCode spaced digits 0 cs).bind fun (code, rest) =>
    if code.isValidChar then some (.char (Char.ofNat code) isByte, rest) else none

/-- Read what a backslash stands in front of. All signs but angle brackets stand for themselves. -/
def readEscape (spaced : Bool) : List Char → Option (Atom × List Char)
  | [] => none
  | c :: cs =>
    if c = 'x' then readCoded spaced 2 true cs
    else if c = 'u' then readCoded spaced 4 false cs
    else if c = 'U' then readCoded spaced 8 false cs
    else if c = 'd' ∨ c = 's' ∨ c = 'w' then some (.shorthand false, cs)
    else if c = 'D' ∨ c = 'S' ∨ c = 'W' then some (.shorthand true, cs)
    else if c = 'A' ∨ c = 'z' then some (.edge false, cs)
    else if c = 'b' ∨ c = 'B' ∨ c = '<' ∨ c = '>' then some (.edge true, cs)
    else match controls.lookup c with
      | some d => some (.char d false, cs)
      | none => if c.isAlphanum ∨ 128 ≤ c.toNat then none else some (.char c false, cs)

/-- Read an atom that does not belong to a set. -/
def read (spaced : Bool) : List Char → Option (Atom × List Char)
  | [] => none
  | c :: cs =>
    if c = '\\' then readEscape spaced cs
    else if c = '.' then some (.dot, cs)
    else if c = '^' ∨ c = '$' then some (.edge false, cs)
    else some (.char c false, cs)

/-- Read a member of a set. -/
def readMember (spaced : Bool) : List Char → Option (Atom × List Char)
  | [] => none
  | c :: cs => if c = '\\' then readEscape spaced cs else some (.char c false, cs)

end Atom

end CallGateway.Text
