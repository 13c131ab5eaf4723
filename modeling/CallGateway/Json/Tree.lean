import CallGateway.Json.Value

/-! JSON documents as far as they can be read. Decoders go through a document in the order of its
text and report the first thing that is wrong, be it that the text stops being JSON or that a value
is not of the expected kind. A tree therefore keeps what was read up to the place where the text
breaks off, and keeps leaves that are JSON by their form but spell no value. -/

namespace CallGateway.Json

inductive Tree
  /-- No value can be read here. -/
  | broken
  | null
  | bool (b : Bool)
  /-- None for a number beyond every range. -/
  | number (n : Option Number)
  /-- None for a string whose escapes or bytes spell no text. -/
  | string (s : Option String)
  /-- The flag tells that the array lies beyond the nesting limit. Where the text breaks off inside,
  the last item is broken. -/
  | array (deep : Bool) (items : List Tree)
  /-- The names are read like strings. Where the text breaks off, the last value is broken. -/
  | object (deep : Bool) (members : List (Option String × Tree))
  deriving Inhabited

namespace Tree

mutual

/-- The text has the form of JSON to its end; whether its leaves spell values is another matter. -/
def intact : Tree → Bool
  | .broken => false
  | .array _ items => intactItems items
  | .object _ members => intactMembers members
  | _ => true

def intactItems : List Tree → Bool
  | [] => true
  | t :: ts => intact t && intactItems ts

def intactMembers : List (Option String × Tree) → Bool
  | [] => true
  | (_, t) :: ts => intact t && intactMembers ts

end

end Tree

namespace Value

mutual

/-- A value as a document without anything wrong in it. -/
def tree : Value → Tree
  | .null => .null
  | .bool b => .bool b
  | .number n => .number (some n)
  | .string s => .string (some s)
  | .array items => .array false (trees items)
  | .object fields => .object false (memberTrees fields)

def trees : List Value → List Tree
  | [] => []
  | v :: vs => tree v :: trees vs

def memberTrees : List (String × Value) → List (Option String × Tree)
  | [] => []
  | (k, v) :: fs => (some k, tree v) :: memberTrees fs

end

end Value

end CallGateway.Json
