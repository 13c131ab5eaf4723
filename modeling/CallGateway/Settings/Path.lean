import CallGateway.Settings.Node
import CallGateway.Text.Reader

/-! Paths to settings: names joined by points, and positions in brackets, as in
`workers[0].service`. -/

namespace CallGateway.Settings

inductive Step
  | field (name : String)
  /-- Positions below zero count from the end. -/
  | item (position : Int)
  deriving DecidableEq

structure Path where
  first : String
  rest : List Step := []
  deriving DecidableEq

namespace Path

def isNameChar (c : Char) : Bool := c.isAlphanum || c == ' ' || c == '_' || c == '-'

/-- A name of at least one character. -/
def readName (cs : List Char) : Option (String × List Char) :=
  match cs.takeWhile isNameChar with
  | [] => none
  | name => some (String.ofList name, cs.dropWhile isNameChar)

def isSpace (c : Char) : Bool := c == ' ' || c == '\t'

/-- An integer of 64 bits with space around it. -/
def readPosition (cs : List Char) : Option (Int × List Char) :=
  let cs := cs.dropWhile isSpace
  let (negative, cs) := match cs with
    | '-' :: rest => (true, rest)
    | rest => (false, rest)
  match Text.spanDigits Text.decimalValue? cs with
  | ([], _) => none
  | (ds, rest) =>
    let n : Int := Text.ofDigits 10 ds
    let n := if negative then -n else n
    if -2 ^ 63 ≤ n ∧ n < 2 ^ 63 then some (n, rest.dropWhile isSpace) else none

def readStep (cs : List Char) : Option (Step × List Char) :=
  match cs with
  | '.' :: rest => (readName rest).map fun (name, rest) => (.field name, rest)
  | '[' :: rest =>
    match readPosition rest with
    | some (n, ']' :: rest) => some (.item n, rest)
    | _ => none
  | _ => none

/-- Steps to the end of the text, which has no more than `fuel` of them. -/
def readSteps : (fuel : Nat) → List Char → Option (List Step)
  | _, [] => some []
  | 0, _ :: _ => none
  | fuel + 1, cs => do
    let (step, rest) ← readStep cs
    return step :: (← readSteps fuel rest)

/-- The path that a key spells. A key that spells none is a name as it stands. -/
def ofKey (key : String) : Path :=
  let path? := do
    let (first, cs) ← readName key.toList
    return (⟨first, ← readSteps cs.length cs⟩ : Path)
  path?.getD ⟨key, []⟩

end Path

namespace Node

/-- The greatest number of items for which there is an address space. -/
def itemLimit : Nat := (2 ^ 63 - 1) / 96

/-- The place of a position among some items; none in front of the first and beyond the limit. -/
def place? (position : Int) (count : Nat) : Option Nat :=
  if 0 ≤ position then
    if position < itemLimit then some position.toNat else none
  else if position.natAbs ≤ count then some (count - position.natAbs)
  else none

/-- Change the item at a position; arrays grow up to it, and what is no array becomes one. -/
def modifyItem? (below : Node) (position : Int) (f : Node → Option Node) : Option Node := do
  let i ← place? position below.items.length
  let items := below.items ++ List.replicate (i + 1 - below.items.length) .nil
  let item ← f (items.getD i .nil)
  return .array (items.set i item)

/-- Lay a tree over what a path leads to. What stands in the way makes room; only a position can be
out of reach. -/
def putAt? (below : Node) (n : Node) : String → List Step → Option Node
  | name, [] => some (below.put name n)
  | name, .field inner :: rest => do
    let child := (below.fields.lookup (canonical name)).getD .nil
    let child ← child.putAt? n inner rest
    return .table (Json.insertField (canonical name) child below.fields)
  | name, .item i :: rest => do
    let child ← putItem? ((below.fields.lookup (canonical name)).getD .nil) i rest
    return .table (Json.insertField (canonical name) child below.fields)
where
  putItem? (below : Node) (i : Int) : List Step → Option Node
    | [] => below.modifyItem? i fun _ => some n
    | .item j :: rest => below.modifyItem? i fun child => putItem? child j rest
    | .field name :: rest => below.modifyItem? i fun child => child.putAt? n name rest

end Node

end CallGateway.Settings
