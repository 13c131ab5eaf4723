import CallGateway.Text.Alphanumeric
import CallGateway.Text.Pattern.CharSet

/-! Regular expressions, as far as it matters whether they are well-formed: what they are made of,
how deep they are nested, and whether all their parts fit the mode that the flags in front of them
set. Counted repetitions are not among them. -/

namespace CallGateway.Text

inductive Pattern
  | atom (a : Atom)
  | set (s : CharSet)
  /-- Flags for what follows in the group. -/
  | flags (fs : Flags)
  | repetition (p : Pattern)
  | group (fs : Flags) (name : Option (List Char)) (p : Pattern)
  | sequence (ps : List Pattern)
  | choice (ps : List Pattern)

namespace Pattern

mutual

/-- How deep things are nested in a pattern. -/
def height : Pattern → Nat
  | .atom _ | .flags _ => 0
  | .set s => s.height
  | .repetition p | .group _ _ p => p.height + 1
  | .sequence ps | .choice ps => levelAbove ps.length (heightAll ps)

def heightAll : List Pattern → Nat
  | [] => 0
  | p :: ps => max p.height (heightAll ps)

end

def heightLimit : Nat := 250

mutual

/-- The names of the groups. -/
def names : Pattern → List (List Char)
  | .atom _ | .set _ | .flags _ => []
  | .repetition p => p.names
  | .group _ name p => name.toList ++ p.names
  | .sequence ps | .choice ps => namesAll ps

def namesAll : List Pattern → List (List Char)
  | [] => []
  | p :: ps => p.names ++ namesAll ps

end

mutual

/-- The mode behind a pattern that begins in the mode `m`; none if a part does not fit the mode in
which it stands. What flags set lasts to the end of the group, also from branch to branch. -/
def modeBehind? (m : Mode) : Pattern → Option Mode
  | .atom a => if a.fits m then some m else none
  | .set s => if s.fits m then some m else none
  | .flags fs => some (m.under fs)
  | .repetition p => modeBehind? m p
  | .group fs _ p => (modeBehind? (m.under fs) p).map fun _ => m
  | .sequence ps | .choice ps => modeBehindAll? m ps

def modeBehindAll? (m : Mode) : List Pattern → Option Mode
  | [] => some m
  | p :: ps => (modeBehind? m p).bind fun m => modeBehindAll? m ps

end

/-! ## Reading -/

/-- What begins behind an opening parenthesis: a group, or flags that stand alone. -/
inductive Opening
  | group (fs : Flags) (name : Option (List Char))
  | flags (fs : Flags)

def isName : List Char → Bool
  | [] => false
  | c :: cs =>
    (isAlphabetic c || c == '_') && cs.all fun d => isAlphanumeric d || "_.[]".toList.contains d

def Opening.readName (cs : List Char) : Option (Opening × List Char) :=
  let name := cs.takeWhile (· != '>')
  match cs.dropWhile (· != '>') with
  | _ :: rest => if isName name then some (.group {} (some name), rest) else none
  | [] => none

def Opening.readFlags (cs : List Char) : Option (Opening × List Char) :=
  let letters := cs.takeWhile fun c => c != ':' && c != ')'
  match cs.dropWhile fun c => c != ':' && c != ')' with
  | ':' :: rest => (Flags.read? letters).map fun fs => (.group fs none, rest)
  | ')' :: rest =>
    if letters.isEmpty then none else (Flags.read? letters).map fun fs => (.flags fs, rest)
  | _ => none

def Opening.read (spaced : Bool) (cs : List Char) : Option (Opening × List Char) :=
  match skipLayout spaced cs with
  | '?' :: 'P' :: '<' :: rest | '?' :: '<' :: rest => readName rest
  | '?' :: rest => readFlags rest
  | rest => some (.group {} none, rest)

/-- A pattern of branches, of which the last is made of `items`, the last first. -/
def ofBranches (branches items : List Pattern) : Pattern :=
  .choice (.sequence items.reverse :: branches).reverse

/-- Repeat the last of `items`, which are more than flags. -/
def repeatLast? : (items : List Pattern) → Option (List Pattern)
  | [] | .flags _ :: _ => none
  | p :: ps => some (.repetition p :: ps)

/-- Read branches up to the end of their group or of the text. -/
def readBranches : (fuel : Nat) → (spaced : Bool) → (branches items : List Pattern) → List Char →
    Option (Pattern × List Char)
  | 0, _, _, _, _ => none
  | fuel + 1, spaced, branches, items, cs =>
    match skipLayout spaced cs with
    | [] => some (ofBranches branches items, [])
    | c :: rest =>
      if c = ')' then some (ofBranches branches items, c :: rest)
      else if c = '|' then readBranches fuel spaced (.sequence items.reverse :: branches) [] rest
      else if c = '(' then
        match Opening.read spaced rest with
        | some (.group fs name, rest) =>
          match readBranches fuel (fs.value .spaced spaced) [] [] rest with
          | some (p, _ :: rest) =>
            readBranches fuel spaced branches (.group fs name p :: items) rest
          | _ => none
        | some (.flags fs, rest) =>
          readBranches fuel (fs.value .spaced spaced) branches (.flags fs :: items) rest
        | none => none
      else if c = '[' then
        match CharSet.read spaced rest with
        | some (s, rest) => readBranches fuel spaced branches (.set s :: items) rest
        | none => none
      else if c = '*' ∨ c = '+' ∨ c = '?' then
        match repeatLast? items with
        | some items =>
          let rest := match rest with
            | '?' :: rest => rest
            | rest => rest
          readBranches fuel spaced branches items rest
        | none => none
      else if c = '\x7b' then none
      else
        match Atom.read spaced (c :: rest) with
        | some (a, rest) => readBranches fuel spaced branches (.atom a :: items) rest
        | none => none

def read (s : String) : Option Pattern :=
  match readBranches (s.length + 1) false [] [] s.toList with
  | some (p, []) => some p
  | _ => none

/-- A text is a pattern that is not nested too deep, names no two groups alike, and has no part that
does not fit the mode in which it stands. -/
def isWellFormed (s : String) : Bool :=
  match read s with
  | some p => p.height ≤ heightLimit && p.names.Nodup && (p.modeBehind? {}).isSome
  | none => false

end Pattern

end CallGateway.Text
