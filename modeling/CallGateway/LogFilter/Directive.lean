import CallGateway.Basic
import CallGateway.Settings.Environment
import CallGateway.Text.Alphanumeric
import CallGateway.Text.CodePoints
import CallGateway.Text.Cut
import CallGateway.Text.Pattern

/-! Directives of a log filter: `info`, `relay_gateway=debug`, `relayd[{version}]=off`. A directive
says how much is shown of the lines that it covers. -/

namespace CallGateway

/-- How much is shown, the least first. -/
inductive LogLevel
  | off
  | error
  | warn
  | info
  | debug
  | trace
  deriving DecidableEq

namespace LogLevel

def names : List (String × LogLevel) :=
  [("off", .off), ("error", .error), ("warn", .warn), ("info", .info), ("debug", .debug),
    ("trace", .trace)]

def rank : LogLevel → Nat
  | .off => 0
  | .error => 1
  | .warn => 2
  | .info => 3
  | .debug => 4
  | .trace => 5

/-- A name in any case, or the rank. -/
def parse? (s : String) : Option LogLevel :=
  match Settings.Scalar.readUInt64? s with
  | some n => (names.map (·.2)).find? fun l => l.rank == n.toNat
  | none => names.lookup (String.ofList (s.toList.map Char.toLower))

end LogLevel

/-- A directive without a level shows all. -/
structure LogDirective where
  /-- The parts of the program whose names start so. -/
  target : String := ""
  /-- The span inside which a line is written. -/
  span : Option String := none
  /-- Fields that a line has, by name, and the values they are to have in the spans around it. -/
  fields : List (String × Option String) := []
  level : LogLevel := .trace
  deriving DecidableEq

inductive DirectiveError
  | malformed
  deriving DecidableEq

namespace LogDirective

/-! ## Reading

A directive is read without the blanks around it, but its parts are cut, by their positions, from
the text as it stands. Blanks in front therefore shift the parts, and where that leads inside a
character the reading breaks down. -/

abbrev Reading (α : Type) := Except (Obstacle DirectiveError) α

def malformed : Reading α := .error (.error .malformed)

def cut (text : List Char) (start stop : Nat) : Reading String :=
  match Text.cut? start stop text with
  | some cs => .ok (String.ofList cs)
  | none => .error .breakdown

/-- What stands between the position `start` and the end of the text as the level. -/
def readLevel (text : List Char) (start : Nat) (d : LogDirective) : Reading LogDirective := do
  let word ← cut text start (Text.width text)
  if word.isEmpty then return d
  match LogLevel.parse? word with
  | some level => return { d with level }
  | none => malformed

/-- The end of the text or an equals sign and a level, at the position `start`. -/
def readEnd (text : List Char) (start : Nat) (d : LogDirective) : List Char → Reading LogDirective
  | [] => .ok d
  | c :: _ => if c = '=' then readLevel text (start + 1) d else malformed

/-- A field: a name, and behind an equals sign a number or a pattern. Of several values the first
counts. -/
def field (s : String) : Reading (String × Option String) :=
  match Text.split '=' s.toList with
  | name :: value :: _ =>
    let value := String.ofList value
    if (Settings.Scalar.readFloat64? value).isSome || Text.Pattern.isWellFormed value then
      .ok (String.ofList name, some value)
    else malformed
  | _ => .ok (s, none)

/-- A field up to its brace, which stands in front of the bracket that ends the scope. -/
def readField (text : List Char) (start : Nat) (d : LogDirective) (rest : List Char) :
    Reading LogDirective :=
  let name := rest.takeWhile (· != '\x7d')
  let stop := start + Text.width name
  match rest.dropWhile (· != '\x7d') with
  | [] => malformed
  | _ :: rest => do
    let word ← cut text start stop
    if word.isEmpty then malformed
    let f ← field word
    match rest with
    | ']' :: rest => readEnd text (stop + 2) { d with fields := [f] } rest
    | _ => malformed

/-- A scope, of which the opening bracket has been read: a span, a field in braces, or both. -/
def readScope (text : List Char) (start : Nat) (d : LogDirective) (rest : List Char) :
    Reading LogDirective :=
  let name := rest.takeWhile fun c => c != ']' && c != '\x7b'
  let stop := start + Text.width name
  match rest.dropWhile fun c => c != ']' && c != '\x7b' with
  | [] => malformed
  | c :: rest => do
    let span ← cut text start stop
    if c = ']' then readEnd text (stop + 1) { d with span := some span } rest
    else if span.isEmpty then readField text (stop + 1) d rest
    else readField text (stop + 1) { d with span := some span } rest

def read (s : String) : Reading LogDirective :=
  let text := s.toList
  match Text.trim text with
  | [] => malformed
  | c :: rest =>
    if c = '[' then readScope text 1 {} rest
    else if !(Text.isAlphanumeric c || "-:_".toList.contains c) then malformed
    else
      let name := (c :: rest).takeWhile fun c => c != '=' && c != '['
      let stop := Text.width name
      match (c :: rest).dropWhile fun c => c != '=' && c != '[' with
      | [] =>
        match LogLevel.parse? s with
        | some level => .ok { level }
        | none => .ok { target := s }
      | c :: rest => do
        let target ← cut text 0 stop
        if c = '=' then readLevel text (stop + 1) { target }
        else readScope text (stop + 1) { target } rest

/-! ## Meaning -/

/-- A directive for a span or for values in spans has no say on lines that no span surrounds. -/
def isPlain (d : LogDirective) : Bool := d.span.isNone && d.fields.all (·.2.isNone)

def fieldNames (d : LogDirective) : List String := d.fields.map (·.1)

/-- It has a say on a line with these fields from that part, which no span surrounds. -/
def covers (d : LogDirective) (part : String) (fields : List String) : Bool :=
  d.isPlain && d.target.toList.isPrefixOf part.toList && d.fieldNames.all fields.contains

/-- Of two directives that cover a line the one that counts: that with the longer target, then that
with more fields, then that with the names that come later, then the second. -/
def decisive (d e : LogDirective) : LogDirective :=
  if d.target.length ≠ e.target.length then
    if d.target.length < e.target.length then e else d
  else if d.fields.length ≠ e.fields.length then
    if d.fields.length < e.fields.length then e else d
  else if e.fieldNames < d.fieldNames then d
  else e

end LogDirective

end CallGateway
