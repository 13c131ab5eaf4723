import CallGateway.Directory
import CallGateway.Gateway
import CallGateway.Worker

/-! Gateways and workers on one broker and one directory, on a clock that stands still while
anything can happen without time passing. What can happen are the events; `step?` says what each
does. -/

namespace CallGateway

structure Deployment where
  broker : Broker := {}
  directory : Directory := {}
  gateways : List Gateway := []
  workers : List Worker := []
  /-- Milliseconds. -/
  clock : Nat := 0
  /-- The calendar time at each reading of the clock. -/
  calendar : Nat → Instant

/-- Something that happens to one gateway or to one worker. -/
inductive Event
  | expire (gateway : Nat) (call : Nat)
  | conclude (gateway : Nat) (call : Nat)
  | publish (gateway : Nat) (request : Nat)
  | listen (gateway : Nat) (listener : Nat)
  | take (worker : Nat) (consumer : Nat)
  | grant (worker : Nat)
  | finish (worker : Nat) (task : Nat)
  deriving DecidableEq

namespace Deployment

def now (d : Deployment) : Instant := d.calendar d.clock

def setGateway (d : Deployment) (i : Nat) (g : Gateway) : Deployment :=
  { d with gateways := d.gateways.set i g }

def setWorker (d : Deployment) (i : Nat) (w : Worker) : Deployment :=
  { d with workers := d.workers.set i w }

def withBroker (d : Deployment) (b : Broker) : Deployment := { d with broker := b }

/-- What an event does, if it can happen now. -/
def step? (d : Deployment) : Event → Option Deployment
  | .expire i k => do
    let g ← d.gateways[i]?
    return d.setGateway i (← g.expire? d.clock (← g.calls[k]?))
  | .conclude i k => do
    let g ← d.gateways[i]?
    return d.setGateway i (← g.conclude? (← g.calls[k]?))
  | .publish i k => do
    let (g, b) ← (← d.gateways[i]?).publish? d.broker k
    return (d.setGateway i g).withBroker b
  | .listen i k => do
    let g ← d.gateways[i]?
    let (g, b) ← g.listen? d.broker (← g.listeners[k]?)
    return (d.setGateway i g).withBroker b
  | .take i k => do
    let w ← d.workers[i]?
    let (w, b) ← w.take? d.broker (← w.consumers[k]?)
    return (d.setWorker i w).withBroker b
  | .grant i => do
    return d.setWorker i (← (← d.workers[i]?).grant? d.now d.clock)
  | .finish i k => do
    let (w, b) ← (← d.workers[i]?).finish? d.broker d.clock k
    return (d.setWorker i w).withBroker b

/-- All events of a gateway; deadlines come before what happens at the same time. -/
def gatewayEvents (i : Nat) (g : Gateway) : List Event :=
  (List.range g.calls.length).map (.expire i) ++ (List.range g.calls.length).map (.conclude i)
    ++ (List.range g.outbox.length).map (.publish i)
    ++ (List.range g.listeners.length).map (.listen i)

def workerEvents (i : Nat) (w : Worker) : List Event :=
  (List.range w.consumers.length).map (.take i)
    ++ .grant i :: (List.range w.tasks.length).map (.finish i)

/-- The events that may happen, in the order in which they are tried. -/
def events (d : Deployment) : List Event :=
  d.gateways.zipIdx.flatMap (fun (g, i) => gatewayEvents i g)
    ++ d.workers.zipIdx.flatMap fun (w, i) => workerEvents i w

/-- The first event that can happen happens. -/
def next? (d : Deployment) : Option Deployment := d.events.findSome? d.step?

/-- Let up to `fuel` events happen, one after the other. -/
def run : (fuel : Nat) → Deployment → Deployment
  | 0, d => d
  | fuel + 1, d =>
    match d.next? with
    | none => d
    | some d => run fuel d

/-- The messages that wait in some queue of the broker. -/
def queued (d : Deployment) : Nat :=
  (d.broker.topics.values.map fun t =>
    (t.groups.values.map fun g => (g.members.map (·.queue.length)).sum).sum).sum

/-- The consumer groups. -/
def groupCount (d : Deployment) : Nat := (d.broker.topics.values.map (·.groups.size)).sum

/-- What is under way: messages, requests, executions and calls. -/
def load (d : Deployment) : Nat :=
  d.queued + (d.gateways.map fun g => g.outbox.length + g.calls.length).sum
    + (d.workers.map fun w => w.waiting.length + w.tasks.length).sum

/-- More events than can happen without time passing: a request goes to at most every group, each of
them replies at most once, and a reply goes to at most every group and is answered by none. -/
def eventBound (d : Deployment) : Nat := (d.load + 1) * (4 * (d.groupCount + 2)) ^ 2

/-- Let everything happen that can happen without time passing. -/
def settle (d : Deployment) : Deployment := run d.eventBound d

/-- The instants at which something falls due. -/
def dueTimes (d : Deployment) : List Nat :=
  (d.gateways.flatMap fun g => g.calls.map (·.deadline))
    ++ d.workers.flatMap fun w => w.tasks.map (·.finish)

/-- The first instant after now at which something falls due. -/
def nextDue? (d : Deployment) : Option Nat := (d.dueTimes.filter (d.clock < ·)).min?

/-- Move the clock and let everything happen that then can happen. -/
def moveTo (d : Deployment) (time : Nat) : Deployment := { d with clock := time }.settle

/-- Pass up to `fuel` instants at which something falls due, none of them after `time`. -/
def pass (time : Nat) : (fuel : Nat) → Deployment → Deployment
  | 0, d => d
  | fuel + 1, d =>
    match d.nextDue? with
    | none => d
    | some t => if t ≤ time then pass time fuel (d.moveTo t) else d

/-- Let time pass. What falls due in the meantime happens when it is due. -/
def advance (d : Deployment) (milliseconds : Nat) : Deployment :=
  let time := d.clock + milliseconds
  (pass time (d.load + 1) d).moveTo time

/-- How a call at a gateway has ended, if it has. -/
def result? (d : Deployment) (i : Nat) (h : Handle) : Option CallResult :=
  d.gateways[i]?.bind fun g => g.ended.lookup h.serial

/-- Let time pass until a call has ended, but over no more than `fuel` instants at which something
falls due. -/
def awaitCall (i : Nat) (h : Handle) : (fuel : Nat) → Deployment → CallResult × Deployment
  | 0, d => (.error (.interrupted h.requestId), d)
  | fuel + 1, d =>
    match d.result? i h, d.nextDue? with
    | some r, _ => (r, d)
    | none, some t => awaitCall i h fuel (d.moveTo t)
    | none, none => (.error (.interrupted h.requestId), d)

/-- Let time pass until a call has ended. -/
def await (d : Deployment) (i : Nat) (h : Handle) : CallResult × Deployment :=
  awaitCall i h (d.eventBound + 1) d.settle

/-! ## What is done from outside -/

/-- Enter a call at a gateway. -/
def submit (d : Deployment) (i : Nat) (e : Envelope) :
    Option (Except GatewayError (Handle × Deployment)) :=
  d.gateways[i]?.map fun g => do
    let (h, g) ← g.submit d.directory d.clock e
    return (h, d.setGateway i g)

/-- Start a replica and let it consume. -/
def startWorker (d : Deployment) (config : WorkerConfig) (catalog : Catalog) :
    Except (Obstacle WorkerError) Unit × Deployment :=
  match Worker.start config catalog d.broker with
  | (.ok w, b) => (.ok (), { d with workers := d.workers ++ [w], broker := b })
  | (.error o, b) => (.error o, d.withBroker b)

def stopWorker (d : Deployment) (i : Nat) : Deployment :=
  match d.workers[i]? with
  | none => d
  | some w =>
    let (w, b) := w.stop d.broker
    (d.setWorker i w).withBroker b

def startListener (d : Deployment) (i : Nat) :
    Option (Except BrokerError (Subscription × Deployment)) :=
  d.gateways[i]?.map fun g => do
    let (s, g, b) ← g.startListener d.broker
    return (s, (d.setGateway i g).withBroker b)

def stopListener (d : Deployment) (i : Nat) (s : Subscription) : Deployment :=
  match d.gateways[i]? with
  | none => d
  | some g =>
    let (g, b) := g.stopListener d.broker s
    (d.setGateway i g).withBroker b

/-- A caller goes away; says whether the call was still open. -/
def cancel (d : Deployment) (i : Nat) (call : Nat) : Bool × Deployment :=
  match d.gateways[i]? with
  | none => (false, d)
  | some g =>
    let (wasOpen, g) := g.cancel call
    (wasOpen, d.setGateway i g)

end Deployment

end CallGateway
