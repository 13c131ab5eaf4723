import CallGateway.Gateway

/-!
# Sessions of a gateway

A session is what comes of a new gateway on a broker that it shares with others. Its log notes
everything that a caller or an operator could care about, and what a call's fate is, whether it has
ended and which replies have found nobody are all read off the log.
-/

namespace CallGateway

/-- What takes the request of a call out of the table. -/
inductive Fate
  | replied (r : Reply)
  | overdue (milliseconds : UInt64)
  | unsent (topic reason : String)
  | abandoned

namespace Fate

inductive Kind
  | replied | overdue | unsent | abandoned
  deriving DecidableEq

def kind : Fate → Kind
  | .replied _ => .replied
  | .overdue _ => .overdue
  | .unsent _ _ => .unsent
  | .abandoned => .abandoned

/-- What the caller of a request learns of its fate, unless it is the one who has left. -/
def result? (id : Uuid) : Fate → Option CallResult
  | .replied r => some (.ok r)
  | .overdue ms => some (.error (.timeout id ms))
  | .unsent topic reason => some (.error (.brokerPublish id topic reason))
  | .abandoned => none

end Fate

/-- The counter of a table for one kind of fate. -/
def PendingTable.counter (t : PendingTable) : Fate.Kind → UInt64
  | .replied => t.completed
  | .overdue => t.timedOut
  | .unsent => t.failed
  | .abandoned => t.interrupted

inductive Note
  | accepted (h : Handle)
  | refused (id : Uuid) (e : GatewayError)
  | received (r : Reply)
  /-- A message on the reply topic that is no reply. -/
  | discarded (payload : Bytes)
  | expired (h : Handle) (milliseconds : UInt64)
  | unsent (id : Uuid) (topic reason : String)
  | concluded (h : Handle) (result : CallResult)
  /-- The caller has gone away. -/
  | left (h : Handle)

namespace Note

def accepted? : Note → Option Handle
  | .accepted h => some h
  | _ => none

def submitted? : Note → Option Uuid
  | .accepted h => some h.requestId
  | .refused id _ => some id
  | _ => none

/-- The fate that this brings to the call with this handle if it is still under way. -/
def fate? (h : Handle) : Note → Option Fate
  | .received r => if r.requestId = h.requestId then some (.replied r) else none
  | .expired k ms => if k = h then some (.overdue ms) else none
  | .unsent id topic reason => if id = h.requestId then some (.unsent topic reason) else none
  | .left k => if k = h then some .abandoned else none
  | _ => none

/-- The call with this handle has ended. -/
def ends (h : Handle) : Note → Bool
  | .concluded k _ | .left k => k = h
  | _ => false

end Note

/-- Logs have their notes in the order of time. -/
abbrev Log := List Note

namespace Log

def accepted (log : Log) : List Handle := log.filterMap (·.accepted?)

def submitted (log : Log) : List Uuid := log.filterMap (·.submitted?)

/-- The first fate that comes to a call after it has been accepted. -/
def fate? (h : Handle) : Log → Option Fate
  | [] => none
  | .accepted k :: rest => if k = h then rest.findSome? (·.fate? h) else fate? h rest
  | _ :: rest => fate? h rest

def endings (log : Log) (h : Handle) : List Note := log.filter (·.ends h)

/-- The number of accepted calls whose fates pass a test. -/
def tally (log : Log) (test : Option Fate → Bool) : Nat :=
  log.accepted.countP fun h => test (fate? h log)

/-- The number of calls that have no fate yet. -/
def undecided (log : Log) : Nat := log.tally Option.isNone

def ofKind (log : Log) (kind : Fate.Kind) : Nat := log.tally fun f => f.any (·.kind = kind)

/-- Some call waits for the reply to this request. -/
def awaits (log : Log) (id : Uuid) : Bool :=
  log.accepted.any fun h => h.requestId = id && (fate? h log).isNone

/-- A reply for which no call waits. -/
def isStray (log : Log) : Note → Bool
  | .received r => !log.awaits r.requestId
  | _ => false

/-- The number of notes that were strays when they were taken. -/
def strays (log : Log) : Nat :=
  (List.range log.length).countP fun i => log[i]?.any (isStray (log.take i))

end Log

structure Session where
  gateway : Gateway
  broker : Broker
  /-- Milliseconds. -/
  clock : Nat := 0
  log : Log := []

namespace Session

/-- What can happen to a gateway. Requests, listeners and calls go by their places in the lists of
the gateway, and callers who leave by the serial numbers of their handles. -/
inductive Event
  | submit (d : Directory) (e : Envelope)
  | publish (request : Nat)
  | listen (listener : Nat)
  | expire (call : Nat)
  | conclude (call : Nat)
  | leave (serial : Nat)
  | startListener
  | stopListener (s : Subscription)
  | tick (milliseconds : Nat)
  /-- Others have used the broker, or topics have been marked or restored. -/
  | elsewhere (b : Broker)

def Event.request? : Event → Option Uuid
  | .submit _ e => some e.requestId
  | _ => none

def start (config : GatewayConfig) (b : Broker) : Session := { gateway := { config }, broker := b }

/-- What is noted when a request is handed to the broker. -/
def publishing (b : Broker) (r : OutgoingRequest) : Log :=
  match b.publish r.topic r.requestId.display r.payload with
  | .ok _ => []
  | .error e => [.unsent r.requestId r.topic e.message]

/-- What is noted when a listener has received a message. -/
def taking (payload : Bytes) : Note :=
  match Reply.ofBytes payload with
  | .ok r => .received r
  | .error _ => .discarded payload

/-- What an event does. An event that cannot happen does nothing. A caller who finds the deadline
passed cannot know whether the request has left the table just before. -/
def step (s : Session) : Event → Session
  | .submit d e =>
    match s.gateway.submit d s.clock e with
    | .ok (h, g) => { s with gateway := g, log := s.log ++ [.accepted h] }
    | .error err => { s with log := s.log ++ [.refused e.requestId err] }
  | .publish k =>
    match s.gateway.outbox[k]? with
    | none => s
    | some r =>
      match s.gateway.publish? s.broker k with
      | some (g, b) => { s with gateway := g, broker := b, log := s.log ++ publishing s.broker r }
      | none => s
  | .listen k =>
    match s.gateway.listeners[k]? with
    | none => s
    | some l =>
      match s.broker.receive? l, s.gateway.listen? s.broker l with
      | some (m, _), some (g, b) =>
        { s with gateway := g, broker := b, log := s.log ++ [taking m.payload] }
      | _, _ => s
  | .expire k =>
    match s.gateway.calls[k]? with
    | none => s
    | some c =>
      if c.deadline ≤ s.clock then
        { s with
          gateway := s.gateway.lapse c
          log := s.log ++ [.expired c.handle s.gateway.config.requestTimeout] }
      else s
  | .conclude k =>
    match s.gateway.calls[k]? with
    | none => s
    | some c =>
      match s.gateway.pending.result? c.handle, s.gateway.conclude? c with
      | some r, some g => { s with gateway := g, log := s.log ++ [.concluded c.handle r] }
      | _, _ => s
  | .leave serial =>
    match s.gateway.calls.find? (·.handle.serial == serial) with
    | none => s
    | some c =>
      { s with gateway := (s.gateway.cancel serial).2, log := s.log ++ [.left c.handle] }
  | .startListener =>
    match s.gateway.startListener s.broker with
    | .ok (_, g, b) => { s with gateway := g, broker := b }
    | .error _ => s
  | .stopListener l =>
    let (g, b) := s.gateway.stopListener s.broker l
    { s with gateway := g, broker := b }
  | .tick ms => { s with clock := s.clock + ms }
  | .elsewhere b => { s with broker := b }

/-- What comes of a session by these events. -/
def run (s : Session) (events : List Event) : Session := events.foldl step s

/-- The requests that are submitted. -/
def submissions (events : List Event) : List Uuid := events.filterMap (·.request?)

end Session

end CallGateway
