/-! Media types such as `application/vnd.api+json; charset=utf-8`, as far as it matters whether they
are JSON. -/

namespace CallGateway.Http

/-- Characters of names: letters, digits and some signs. -/
def isTokenChar (c : Char) : Bool :=
  c.isAlphanum || "!#$%&'*+-.^_`|~".toList.contains c

structure MediaType where
  kind : List Char
  /-- What stands between the slash and the last plus sign, or the end. -/
  subtype : List Char
  /-- What stands behind the last plus sign. -/
  suffix : Option (List Char)
  deriving DecidableEq

namespace MediaType

def small (cs : List Char) : List Char := cs.map Char.toLower

/-- Split at the last plus sign that is not in front. -/
def splitSuffix (cs : List Char) : List Char × Option (List Char) :=
  let back := cs.reverse.takeWhile (· != '+')
  if back.length + 1 < cs.length then
    (cs.take (cs.length - back.length - 1), some back.reverse)
  else (cs, none)

def isQuotable (c : Char) : Bool := 31 < c.toNat && c.toNat != 127

/-- The characters of a quoted value up to the quote that ends it; the value is not empty. -/
def skipQuoted (cs : List Char) : Option (List Char) :=
  match cs with
  | [] => none
  | c :: rest =>
    if !isQuotable c then none
    else match (rest.dropWhile fun d => isQuotable d && d != '"') with
      | '"' :: rest => some rest
      | _ => none

/-- Spaces and the semicolon behind a quoted value. -/
def skipBlanks (cs : List Char) : Option (List Char) :=
  match cs.dropWhile (· == ' ') with
  | [] => some []
  | ';' :: rest => some rest
  | _ => none

/-- The value of a parameter, with the semicolon behind it. -/
def skipValue (cs : List Char) : Option (List Char) :=
  match cs with
  | '"' :: rest => (skipQuoted rest).bind skipBlanks
  | _ =>
    match cs.takeWhile isTokenChar, cs.dropWhile isTokenChar with
    | _, [] => some []
    | _ :: _, ';' :: rest => some rest
    | _, _ => none

/-- The name of a parameter and its equals sign. -/
def skipName (cs : List Char) : Option (List Char) :=
  match cs.takeWhile isTokenChar, cs.dropWhile isTokenChar with
  | _ :: _, '=' :: rest => some rest
  | _, _ => none

/-- The parameters are well-formed. They are at most `fuel`. -/
def parametersOk : (fuel : Nat) → List Char → Bool
  | 0, cs => cs.isEmpty
  | fuel + 1, cs =>
    match cs.dropWhile (· == ' ') with
    | [] => true
    | cs =>
      match (skipName cs).bind skipValue with
      | some rest => parametersOk fuel rest
      | none => false

def parse? (s : String) : Option MediaType :=
  let cs := s.toList
  match cs.takeWhile isTokenChar, cs.dropWhile isTokenChar with
  | c :: kind, '/' :: rest =>
    let name := rest.takeWhile isTokenChar
    let (subtype, suffix) := splitSuffix name
    let found : MediaType := ⟨small (c :: kind), small subtype, suffix.map small⟩
    match name, rest.dropWhile isTokenChar with
    | _, [] => some found
    | _ :: _, ';' :: parameters =>
      if parametersOk parameters.length parameters then some found else none
    | _, _ :: _ => none
  | _, _ => none

def isJson (m : MediaType) : Bool :=
  m.kind == "application".toList && (m.subtype == "json".toList || m.suffix == some "json".toList)

end MediaType

end CallGateway.Http
