import CallGateway.Basic
import CallGateway.Text.CodePoints

/-! Requests and responses as the interface of the server sees them. -/

namespace CallGateway.Http

/-- Header fields in the order in which they came. Names do not depend on case. -/
abbrev Headers := List (String × Bytes)

structure Request where
  method : String
  /-- The path, with the query if there is one, and with the address of the server or without. -/
  target : String
  headers : Headers := []
  body : Bytes := []

structure Response where
  status : Nat
  headers : List (String × String) := []
  body : Bytes := []

/-- Visible characters of the ASCII range, spaces and tabs. -/
def isTextByte (b : UInt8) : Bool := (0x20 ≤ b && b < 0x7f) || b == 0x09

def smallName (name : String) : String := String.ofList (name.toList.map Char.toLower)

/-- The value of the first field with a name. -/
def value? (headers : Headers) (name : String) : Option Bytes :=
  (headers.find? fun h => smallName h.1 == name).map (·.2)

/-- The value of the first field with a name, if it is text. -/
def text? (headers : Headers) (name : String) : Option String :=
  (value? headers name).bind fun bs => if bs.all isTextByte then Bytes.toString? bs else none

/-! ## Targets -/

def isSchemeChar (c : Char) : Bool := c.isAlphanum || c == '+' || c == '-' || c == '.'

/-- What follows the scheme of an address such as `http://localhost:8080/`. -/
def afterScheme? (target : List Char) : Option (List Char) :=
  match target.dropWhile isSchemeChar with
  | ':' :: '/' :: '/' :: rest => some rest
  | _ => none

/-- The path of a request without its query. An address that ends with the server has a path too. -/
def Request.path (r : Request) : String :=
  let pathOf (cs : List Char) := cs.takeWhile fun c => c != '?' && c != '#'
  String.ofList <|
    match afterScheme? r.target.toList with
    | none => pathOf r.target.toList
    | some rest =>
      let path := pathOf (rest.dropWhile fun c => c != '/' && c != '?' && c != '#')
      if path.isEmpty then ['/'] else path

end CallGateway.Http
