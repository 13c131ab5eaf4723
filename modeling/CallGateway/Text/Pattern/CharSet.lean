import CallGateway.Text.Pattern.Atom

/-! Sets of characters in brackets, such as `[a-z_]` or `[[:alpha:]&&[^a]]`. -/

namespace CallGateway.Text

inductive CharSet
  | range (low high : Char)
  /-- A set with a name. -/
  | named (negated : Bool)
  | shorthand (negated : Bool)
  | union (members : List CharSet)
  /-- An intersection or a difference. -/
  | operation (left right : CharSet)
  | bracketed (negated : Bool) (content : CharSet)

/-- One above the highest of several things; a single thing is as high as it is. -/
def levelAbove (count highest : Nat) : Nat := if count < 2 then highest else highest + 1

namespace CharSet

mutual

/-- How deep things are nested in a set. -/
def height : CharSet → Nat
  | .range .. | .named _ | .shorthand _ => 0
  | .union members => levelAbove members.length (heightAll members)
  | .operation left right => max left.height right.height + 1
  | .bracketed _ content => content.height + 1

def heightAll : List CharSet → Nat
  | [] => 0
  | s :: ss => max s.height (heightAll ss)

end

mutual

/-- A set can be used in a mode. The case of characters is unknown and so are their classes, those
with names apart, which are ASCII; a set of bytes holds ASCII only. -/
def fits (m : Mode) : CharSet → Bool
  | .range _ high => if m.unicode then !m.caseless else high.toNat < 128
  | .named negated => if m.unicode then !m.caseless else !negated
  | .shorthand negated => !m.unicode && !negated
  | .union members => fitAll m members
  | .operation left right => left.fits m && right.fits m
  | .bracketed negated content => content.fits m && (m.unicode || !negated)

def fitAll (m : Mode) : List CharSet → Bool
  | [] => true
  | s :: ss => s.fits m && fitAll m ss

end

/-! ## Reading -/

def names : List String :=
  ["alnum", "alpha", "ascii", "blank", "cntrl", "digit", "graph", "lower", "print", "punct",
    "space", "upper", "word", "xdigit"]

/-- A name behind the bracket in `[:alpha:]`. -/
def readName? : List Char → Option (CharSet × List Char)
  | ':' :: cs =>
    let (negated, cs) := match cs with
      | '^' :: cs => (true, cs)
      | cs => (false, cs)
    match cs.dropWhile (· != ':') with
    | ':' :: ']' :: rest =>
      if names.contains (String.ofList (cs.takeWhile (· != ':'))) then some (.named negated, rest)
      else none
    | _ => none
  | _ => none

/-- A set without the characters of the set in brackets. -/
def readNegation (spaced : Bool) (cs : List Char) : Bool × List Char :=
  match skipLayout spaced cs with
  | '^' :: cs => (true, cs)
  | cs => (false, cs)

def ofAtom? : Atom → Option CharSet
  | .char c _ => some (.range c c)
  | .shorthand negated => some (.shorthand negated)
  | _ => none

/-- The first character that is not blank, one `#` apart. -/
def peekSpread : (inComment : Bool) → List Char → Option Char
  | _, [] => none
  | inComment, c :: cs =>
    if isBlankChar c then peekSpread inComment cs
    else if !inComment && c = '#' then peekSpread true cs
    else some c

/-- The character behind a hyphen, which makes it a range or not. -/
def peek? (spaced : Bool) (cs : List Char) : Option Char :=
  if spaced then (peekSpread false cs).or cs.head? else cs.head?

def readRange (spaced : Bool) (cs : List Char) : Option (CharSet × List Char) := do
  let (first, rest) ← Atom.readMember spaced cs
  let rest := skipLayout spaced rest
  let single := (ofAtom? first).map fun s => (s, rest)
  match rest with
  | '-' :: behind =>
    if peek? spaced behind = some ']' ∨ peek? spaced behind = some '-' then single
    else
      let (last, rest) ← Atom.readMember spaced (skipLayout spaced behind)
      match first, last with
      | .char low _, .char high _ => if low ≤ high then some (.range low high, rest) else none
      | _, _ => none
  | _ => single

/-- What stands between two operations, or between an operation and a bracket. -/
def combine (left : Option CharSet) (members : List CharSet) : CharSet :=
  match left with
  | none => .union members.reverse
  | some left => .operation left (.union members.reverse)

/-- Read members up to the closing bracket. In front, where nothing but hyphens has been read, a
hyphen is a member, and so is a bracket that comes first. -/
def readMembers (spaced : Bool) : (fuel : Nat) → (inFront : Bool) → (left : Option CharSet) →
    (members : List CharSet) → List Char → Option (CharSet × List Char)
  | 0, _, _, _, _ => none
  | fuel + 1, inFront, left, members, cs =>
    match skipLayout spaced cs with
    | [] => none
    | c :: rest =>
      if inFront && c = '-' then
        readMembers spaced fuel true left (.range c c :: members) rest
      else if inFront && members.isEmpty && c = ']' then
        readMembers spaced fuel false left [.range c c] rest
      else if c = ']' then some (combine left members, rest)
      else if c = '[' then
        match readName? rest with
        | some (s, rest) => readMembers spaced fuel false left (s :: members) rest
        | none =>
          let (negated, rest) := readNegation spaced rest
          match readMembers spaced fuel true none [] rest with
          | some (content, rest) =>
            readMembers spaced fuel false left (.bracketed negated content :: members) rest
          | none => none
      else if (c = '&' ∨ c = '-' ∨ c = '~') ∧ rest.head? = some c then
        readMembers spaced fuel false (some (combine left members)) [] rest.tail
      else
        match readRange spaced (c :: rest) with
        | some (s, rest) => readMembers spaced fuel false left (s :: members) rest
        | none => none

/-- Read a set whose opening bracket has been read. -/
def read (spaced : Bool) (cs : List Char) : Option (CharSet × List Char) :=
  let (negated, rest) := readNegation spaced cs
  (readMembers spaced (rest.length + 1) true none [] rest).map fun (content, rest) =>
    (.bracketed negated content, rest)

end CharSet

end CallGateway.Text
