import CallGateway.CommandLine.Run

/-! The program: arguments, environment and settings file in, log lines and the outcome out. -/

namespace CallGateway.CommandLine

/-- Split at every NUL. -/
def splitAtNul (bs : Bytes) : List Bytes :=
  bs.foldr (fun b parts =>
    if b = 0 then [] :: parts
    else match parts with
      | [] => [[b]]
      | part :: parts => (b :: part) :: parts) []

/-- The variables in a listing of the environment. -/
def variablesIn (listing : Bytes) : List (String × String) :=
  (splitAtNul listing).filterMap fun bs =>
    (Bytes.toString? bs).bind fun s =>
      match s.toList.dropWhile (· != '=') with
      | _ :: value => some (String.ofList (s.toList.takeWhile (· != '=')), String.ofList value)
      | [] => none

def contents? (path : String) : IO (Option Bytes) := do
  try return some (← IO.FS.readBinFile path).data.toList
  catch _ => return none

/-- Identifiers in a row, the first of them at random. -/
def freshIds : IO (Nat → Uuid) := do
  let seed := (← IO.getRandomBytes 16).data.toList.foldl (fun n b => n * 256 + b.toNat) 0
  return fun n => ⟨BitVec.ofNat 128 (seed + n)⟩

end CallGateway.CommandLine

open CallGateway CommandLine in
def main (arguments : List String) : IO UInt32 := do
  let environment := variablesIn ((← contents? "/proc/self/environ").getD [])
  let file ← match CommandLine.parse arguments environment with
    | .ok { config := some path, .. } => contents? path
    | _ => pure none
  -- No line of the log shows the time.
  let report := CommandLine.run arguments environment (fun _ => file) (← freshIds) fun _ => default
  for line in report.log do
    IO.println (line.write report.json)
  if let some text := report.printed then IO.println text
  if let some e := report.error then IO.eprintln s!"Error: {e.describe}"
  return report.exit.toUInt32
