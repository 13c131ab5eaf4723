import CallGateway.Gateway.Error
import CallGateway.Keyed
import CallGateway.Message.Reply

/-! The table of pending requests. Whoever waits for a request holds a handle. A request leaves the
table once: with its reply, at its deadline, by an error, or because a handle for it is dropped; and
with that the handle which waits for it is settled. Afterwards its identifier can be used again. -/

namespace CallGateway

/-- How a call ends: with a reply, be it of success or failure, or without one. -/
abbrev CallResult := Except GatewayError Reply

/-- What a caller holds while its request is pending. -/
structure Handle where
  serial : Nat
  requestId : Uuid
  deriving DecidableEq

inductive HandleState
  | waiting
  | settled (result : CallResult)
  /-- The result has been read. -/
  | read

structure PendingStats where
  inFlight : UInt64
  completed : UInt64
  timedOut : UInt64
  failed : UInt64
  interrupted : UInt64
  /-- Replies for which no request was pending. -/
  droppedReplies : UInt64
  deriving DecidableEq

structure PendingTable where
  /-- The pending requests with the serial numbers of the handles that wait for them. -/
  entries : Keyed Uuid Nat := .empty
  /-- The handles that are held, by their serial numbers. -/
  handles : Keyed Nat HandleState := .empty
  nextSerial : Nat := 0
  completed : UInt64 := 0
  timedOut : UInt64 := 0
  failed : UInt64 := 0
  interrupted : UInt64 := 0
  droppedReplies : UInt64 := 0

namespace PendingTable

def contains (t : PendingTable) (id : Uuid) : Bool := t.entries.contains id

def size (t : PendingTable) : Nat := t.entries.size

def stats (t : PendingTable) : PendingStats where
  inFlight := UInt64.ofNat t.size
  completed := t.completed
  timedOut := t.timedOut
  failed := t.failed
  interrupted := t.interrupted
  droppedReplies := t.droppedReplies

/-- Enter a request that is not pending. -/
def create (t : PendingTable) (id : Uuid) : Except GatewayError (Handle × PendingTable) :=
  if t.contains id then .error (.duplicateRequest id)
  else
    let serial := t.nextSerial
    .ok (⟨serial, id⟩,
      { t with
        entries := t.entries.set id serial
        handles := t.handles.set serial .waiting
        nextSerial := serial + 1 })

/-- Remove a pending request and settle the handle that waits for it. -/
def settle? (t : PendingTable) (id : Uuid) (result : CallResult) : Option PendingTable :=
  (t.entries.get? id).map fun serial =>
    { t with
      entries := t.entries.erase id
      handles := t.handles.modify serial fun _ => .settled result }

/-- Settle a request with its reply; says whether one was pending. -/
def complete (t : PendingTable) (r : Reply) : Bool × PendingTable :=
  match t.settle? r.requestId (.ok r) with
  | some t => (true, { t with completed := t.completed + 1 })
  | none => (false, { t with droppedReplies := t.droppedReplies + 1 })

/-- Settle a request whose deadline of some milliseconds has passed. -/
def expire (t : PendingTable) (id : Uuid) (milliseconds : UInt64) : Bool × PendingTable :=
  match t.settle? id (.error (.timeout id milliseconds)) with
  | some t => (true, { t with timedOut := t.timedOut + 1 })
  | none => (false, t)

/-- Settle a request with an error. -/
def fail (t : PendingTable) (id : Uuid) (e : GatewayError) : Bool × PendingTable :=
  match t.settle? id (.error e) with
  | some t => (true, { t with failed := t.failed + 1 })
  | none => (false, t)

/-- Let go of a handle. The request of that identifier, if one is pending, is removed, also when it
is not the one for which the handle was given out. -/
def drop (t : PendingTable) (h : Handle) : PendingTable :=
  let t := match t.settle? h.requestId (.error (.interrupted h.requestId)) with
    | some t => { t with interrupted := t.interrupted + 1 }
    | none => t
  { t with handles := t.handles.erase h.serial }

def state? (t : PendingTable) (h : Handle) : Option HandleState := t.handles.get? h.serial

/-- The result of a handle that is settled and has not been read. -/
def result? (t : PendingTable) (h : Handle) : Option CallResult :=
  match t.state? h with
  | some (.settled r) => some r
  | _ => none

/-- Look at a handle. A result shows once. -/
def poll (t : PendingTable) (h : Handle) : Option HandleState × PendingTable :=
  match t.state? h with
  | some (.settled r) =>
    (some (.settled r), { t with handles := t.handles.set h.serial .read })
  | s => (s, t)

end PendingTable

end CallGateway
