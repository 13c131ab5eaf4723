import CallGateway.Directory.Readiness

/-! A directory in time: changes that are due later come about while someone waits. -/

namespace CallGateway

inductive DirectoryChange
  | register (service : String) (id : Uuid)
  | deregister (service : String) (id : Uuid)
  | setAvailable (available : Bool)

namespace Directory

def change? (d : Directory) : DirectoryChange → Except DirectoryError Directory
  | .register service id => d.register service id
  | .deregister service id => d.deregister service id
  | .setAvailable a => .ok (d.setAvailable a)

/-- A change that is refused changes nothing. -/
def change (d : Directory) (c : DirectoryChange) : Directory :=
  match d.change? c with
  | .ok d => d
  | .error _ => d

end Directory

structure Timeline where
  directory : Directory := {}
  /-- Milliseconds. -/
  clock : Nat := 0
  /-- The changes to come, in the order of their times. -/
  later : List (Nat × DirectoryChange) := []

namespace Timeline

/-- Behind the changes that are due no later. -/
def insertLater (time : Nat) (c : DirectoryChange) :
    List (Nat × DirectoryChange) → List (Nat × DirectoryChange)
  | [] => [(time, c)]
  | (t, d) :: rest =>
    if t ≤ time then (t, d) :: insertLater time c rest else (time, c) :: (t, d) :: rest

/-- Let a change come about `delay` milliseconds from now. -/
def schedule (t : Timeline) (delay : Nat) (c : DirectoryChange) : Timeline :=
  { t with later := insertLater (t.clock + delay) c t.later }

/-- Move on to a later time. -/
def advanceTo (t : Timeline) (time : Nat) : Timeline :=
  let due := t.later.takeWhile fun c => c.1 ≤ time
  { directory := due.foldl (fun d c => d.change c.2) t.directory
    clock := max t.clock time
    later := t.later.drop due.length }

/-- Wait for the directory to be populated. -/
def wait (t : Timeline) (maxWait interval : Nat) : Readiness.Verdict × Timeline :=
  let w : Readiness.Wait :=
    { answers := fun time => (t.advanceTo time).directory.list, start := t.clock, maxWait, interval }
  (w.verdict, t.advanceTo w.verdict.time)

end Timeline

end CallGateway
