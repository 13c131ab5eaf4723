import CallGateway.Broker
import CallGateway.Directory
import CallGateway.Gateway.Config
import CallGateway.Gateway.Pending
import CallGateway.Message.Envelope

/-! A gateway instance. It publishes a request for every call, listens for replies on a topic of
its own, and matches them with the calls by the identifiers of the requests. The definitions below
are the single steps; in which order they come is not the gateway's choice. -/

namespace CallGateway

/-! ## Where calls go

The directory is asked for every call, so a pool that has lost its last instance is noticed at
once. -/

/-- Some instance is known to serve under this name. A directory that does not answer knows none. -/
def Directory.serves (d : Directory) (service : String) : Bool :=
  match d.hasInstances service with
  | .ok served => served
  | .error _ => false

/-- The request topic of a client type. -/
def resolveTopic (d : Directory) (suffix clientType : String) : Except GatewayError String :=
  let service := serviceName clientType
  if service.isEmpty then .error (.unnamedService clientType)
  else if d.serves service then .ok (requestTopic clientType suffix)
  else .error (.serviceNotFound service d.known)

/-! ## The instance -/

/-- A request on its way to the broker. -/
structure OutgoingRequest where
  requestId : Uuid
  topic : String
  payload : Bytes

/-- A call whose caller still waits. -/
structure OpenCall where
  handle : Handle
  /-- The instant at which the wait is over. -/
  deadline : Nat

structure Gateway where
  config : GatewayConfig
  pending : PendingTable := {}
  listeners : List Subscription := []
  outbox : List OutgoingRequest := []
  calls : List OpenCall := []
  /-- The calls that have ended, by the serial numbers of their handles. -/
  ended : List (Nat × CallResult) := []

namespace Gateway

/-- Check a call and enter it. Its request then waits to be published. -/
def submit (g : Gateway) (d : Directory) (clock : Nat) (e : Envelope) :
    Except GatewayError (Handle × Gateway) :=
  if Text.isBlank e.procedureName then .error .blankProcedureName
  else do
    let topic ← resolveTopic d g.config.topicSuffix e.clientType
    let (handle, pending) ← g.pending.create e.requestId
    return (handle,
      { g with
        pending
        outbox := g.outbox ++ [⟨e.requestId, topic, e.toBytes⟩]
        calls := g.calls ++ [⟨handle, clock + g.config.requestTimeout.toNat⟩] })

/-- Let replies come to this instance, whatever the envelope says. -/
def addressed (g : Gateway) (e : Envelope) : Envelope := { e with replyTo := g.config.replyTopic }

/-- Hand one of the requests to the broker. A request that is refused has failed. -/
def publish? (g : Gateway) (b : Broker) (k : Nat) : Option (Gateway × Broker) :=
  g.outbox[k]?.map fun r =>
    let g := { g with outbox := g.outbox.eraseIdx k }
    match b.publish r.topic r.requestId.display r.payload with
    | .ok (_, b) => (g, b)
    | .error e =>
      let failure := .brokerPublish r.requestId r.topic e.message
      ({ g with pending := (g.pending.fail r.requestId failure).2 }, b)

/-- Subscribe to the replies. -/
def startListener (g : Gateway) (b : Broker) :
    Except BrokerError (Subscription × Gateway × Broker) := do
  let (s, b) ← b.subscribe g.config.replyTopic g.config.replyGroup
  return (s, { g with listeners := g.listeners ++ [s] }, b)

def stopListener (g : Gateway) (b : Broker) (s : Subscription) : Gateway × Broker :=
  ({ g with listeners := g.listeners.filter (· != s) }, b.unsubscribe s)

/-- Take what arrived on the reply topic. What is no reply is discarded. -/
def take (g : Gateway) (payload : Bytes) : Gateway :=
  match Reply.ofBytes payload with
  | .ok r => { g with pending := (g.pending.complete r).2 }
  | .error _ => g

/-- A listener receives its next message. -/
def listen? (g : Gateway) (b : Broker) (s : Subscription) : Option (Gateway × Broker) :=
  (b.receive? s).map fun (m, b) => (g.take m.payload, b)

/-- The caller of this call learns its result and is done. -/
def conclude? (g : Gateway) (c : OpenCall) : Option Gateway :=
  (g.pending.result? c.handle).map fun r =>
    { g with
      pending := g.pending.drop c.handle
      calls := g.calls.filter (·.handle != c.handle)
      ended := g.ended ++ [(c.handle.serial, r)] }

/-- The wait for this call is over, unless its request has left the table in the meantime. -/
def lapse (g : Gateway) (c : OpenCall) : Gateway :=
  { g with pending := (g.pending.expire c.handle.requestId g.config.requestTimeout).2 }

/-- The deadline of a call that waits has come. -/
def expire? (g : Gateway) (clock : Nat) (c : OpenCall) : Option Gateway :=
  match g.pending.state? c.handle with
  | some .waiting => if c.deadline ≤ clock then some (g.lapse c) else none
  | _ => none

/-- The caller goes away; says whether the call was still open. -/
def cancel (g : Gateway) (serial : Nat) : Bool × Gateway :=
  match g.calls.find? (·.handle.serial == serial) with
  | none => (false, g)
  | some c =>
    (true,
      { g with
        pending := g.pending.drop c.handle
        calls := g.calls.filter (·.handle != c.handle) })

end Gateway

end CallGateway
