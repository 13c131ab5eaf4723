import CallGateway.Directory

/-! The wait, at start-up, for a directory that has something to show. The directory is asked at
once and then again after every interval, as long as the next answer would come in time. -/

namespace CallGateway.Readiness

/-- Some service is known to be served. -/
def populated : Except DirectoryError (List String) → Bool
  | .ok names => !names.isEmpty
  | .error _ => false

/-- How a wait ends, and when. -/
inductive Verdict
  | ready (time : Nat)
  | gaveUp (time : Nat)
  /-- Not at an end when the allotted number of questions has been asked; the next one is due. -/
  | waiting (next : Nat)
  deriving DecidableEq

def Verdict.time : Verdict → Nat
  | .ready t | .gaveUp t | .waiting t => t

/-- What comes of one question. -/
inductive Outcome
  | ends (v : Verdict)
  | sleeps (next : Nat)
  deriving DecidableEq

/-- A wait from `start` on. Times are in milliseconds. -/
structure Wait where
  /-- What the directory answers when it is asked for the names of all services. -/
  answers : Nat → Except DirectoryError (List String)
  start : Nat
  maxWait : Nat
  interval : Nat
  /-- The last time that the clock can represent. -/
  horizon : Nat := 2 ^ 63 * 1000 - 1

/-- No further question can be asked in time. A wait without a deadline lasts until there is
something to show. -/
def outOfTime : (deadline next : Option Nat) → Bool
  | some deadline, some next => deadline < next
  | some _, none => true
  | none, _ => false

namespace Wait

/-- A time, if the clock can represent it. -/
def instant? (w : Wait) (time : Nat) : Option Nat := if time ≤ w.horizon then some time else none

def deadline? (w : Wait) : Option Nat := w.instant? (w.start + w.maxWait)

/-- Ask once. -/
def ask (w : Wait) (now : Nat) : Outcome :=
  if populated (w.answers now) then .ends (.ready now)
  else if outOfTime w.deadline? (w.instant? (now + w.interval)) then .ends (.gaveUp now)
  else .sleeps (now + w.interval)

/-- Ask up to `questions` times from `now` on. -/
def poll (w : Wait) : (questions : Nat) → (now : Nat) → Verdict
  | 0, now => .waiting now
  | questions + 1, now =>
    match w.ask now with
    | .ends v => v
    | .sleeps next => w.poll questions next

/-- What the wait comes to with so many questions. -/
def run (w : Wait) (questions : Nat) : Verdict := w.poll questions w.start

/-- The number of questions that fit into the wait. -/
def questions (w : Wait) : Nat := w.maxWait / w.interval + 1

def verdict (w : Wait) : Verdict := w.run w.questions

end Wait

end CallGateway.Readiness
