import CallGateway.Gateway.Pending

/-!
# Histories of the table of pending requests

A history is a new table to which things have been done in some order. It keeps a record of
every action with the table before and after it, and the handles that have been given out and not
let go since. Nobody has a handle that the table has not given out, and nobody lets go of one twice.
-/

namespace CallGateway.PendingTable

/-- What can be done with a table. Handles go by their serial numbers. -/
inductive Action
  | create (id : Uuid)
  | complete (r : Reply)
  | expire (id : Uuid) (milliseconds : UInt64)
  | fail (id : Uuid) (e : GatewayError)
  | poll (serial : Nat)
  | drop (serial : Nat)

/-- What whoever acts on a table learns from it. -/
inductive Answer
  | created (h : Handle)
  | refused (e : GatewayError)
  | removed (was : Bool)
  | shown (h : Handle) (state : Option HandleState)
  | dropped (h : Handle)

structure Record where
  action : Action
  before : PendingTable
  answer : Answer
  after : PendingTable

/-- The request for which the handle was given out is in the table. -/
def Pends (t : PendingTable) (h : Handle) : Prop := t.entries.get? h.requestId = some h.serial

instance : Decidable (Pends t h) := inferInstanceAs (Decidable (_ = _))

namespace Record

/-- The action has removed the entry of this very handle. -/
def Removes (r : Record) (h : Handle) : Prop := r.before.Pends h ∧ ¬ r.after.Pends h

instance : Decidable (Removes r h) := inferInstanceAs (Decidable (_ ∧ _))

/-- What the action lets a handle know whose entry it removes. -/
def outcome? (r : Record) : Option CallResult :=
  match r.action, r.answer with
  | .complete reply, _ => some (.ok reply)
  | .expire id ms, _ => some (.error (.timeout id ms))
  | .fail _ e, _ => some (.error e)
  | .drop _, .dropped h => some (.error (.interrupted h.requestId))
  | _, _ => none

/-- The identifier whose entry the action removes, if there is one. -/
def target? (r : Record) : Option Uuid :=
  match r.action, r.answer with
  | .complete reply, _ => some reply.requestId
  | .expire id _, _ | .fail id _, _ => some id
  | .drop _, .dropped h => some h.requestId
  | _, _ => none

/-- The result that the action has shown to the holder of a handle. -/
def shown? (r : Record) (h : Handle) : Option CallResult :=
  match r.answer with
  | .shown k (some (.settled o)) => if k = h then some o else none
  | _ => none

def created? (r : Record) : Option Handle :=
  match r.answer with
  | .created h => some h
  | _ => none

def isComplete (r : Record) : Bool :=
  match r.action with
  | .complete _ => true
  | _ => false

/-- No counter has gone past its end in this step. -/
structure Unwrapped (r : Record) : Prop where
  inFlight : r.after.size < 2 ^ 64
  completed : r.before.completed ≤ r.after.completed
  timedOut : r.before.timedOut ≤ r.after.timedOut
  failed : r.before.failed ≤ r.after.failed
  interrupted : r.before.interrupted ≤ r.after.interrupted
  droppedReplies : r.before.droppedReplies ≤ r.after.droppedReplies

end Record

structure History where
  table : PendingTable := {}
  held : List Handle := []
  records : List Record := []

namespace History

def handle? (H : History) (serial : Nat) : Option Handle := H.held.find? (·.serial == serial)

/-- What an action answers, and what it leaves of the table and of the handles that are held.
Nothing can be done with a handle that is not held. -/
def perform? (H : History) : Action → Option (Answer × PendingTable × List Handle)
  | .create id => some <|
    match H.table.create id with
    | .ok (h, t) => (.created h, t, H.held ++ [h])
    | .error e => (.refused e, H.table, H.held)
  | .complete r => let (was, t) := H.table.complete r; some (.removed was, t, H.held)
  | .expire id ms => let (was, t) := H.table.expire id ms; some (.removed was, t, H.held)
  | .fail id e => let (was, t) := H.table.fail id e; some (.removed was, t, H.held)
  | .poll serial => (H.handle? serial).map fun h =>
    let (state, t) := H.table.poll h
    (.shown h state, t, H.held)
  | .drop serial => (H.handle? serial).map fun h =>
    (.dropped h, H.table.drop h, H.held.filter (· != h))

/-- Go on by one step, after which these handles are held. -/
def push (H : History) (r : Record) (held : List Handle) : History :=
  ⟨r.after, held, H.records ++ [r]⟩

def act (H : History) (a : Action) : History :=
  match H.perform? a with
  | none => H
  | some (answer, after, held) => H.push ⟨a, H.table, answer, after⟩ held

/-- What comes of a new table by these actions. -/
def run (actions : List Action) : History := actions.foldl act {}

/-- What a new table has and every action keeps holds of every history. -/
theorem run_induction {P : History → Prop} (new : P {}) (step : ∀ H a, P H → P (H.act a))
    (actions : List Action) : P (run actions) := by
  suffices h : ∀ H, P H → P (actions.foldl act H) from h _ new
  induction actions with
  | nil => exact fun _ h => h
  | cons a actions ih => exact fun H h => ih _ (step H a h)

/-- All handles that have been given out. -/
def issued (H : History) : List Handle := H.records.filterMap (·.created?)

/-- The steps that have removed the entry of a handle. -/
def removals (H : History) (h : Handle) : List Record :=
  H.records.filter (decide <| ·.Removes h)

/-- The results that the holder of a handle has seen. -/
def received (H : History) (h : Handle) : List CallResult := H.records.filterMap (·.shown? h)

/-- The number of replies that have been offered. -/
def offered (H : History) : Nat := H.records.countP (·.isComplete)

end History

end CallGateway.PendingTable
