import CallGateway.Basic
import CallGateway.Broker
import CallGateway.Message.Envelope
import CallGateway.Procedure.Dispatch
import CallGateway.Worker.Config

/-! One replica of a pool of workers. For each of its topics a consumer takes one message at a time
and waits for a permit to execute it; the permits of a replica are shared by its consumers and
granted in the order in which they are asked for. Every message from which it can be told whom to
answer is answered once. -/

namespace CallGateway

inductive WorkerError
  | emptyService (service : String)
  | zeroConcurrency
  | invalidConfig (what : String)
  | subscribe (e : BrokerError)
  deriving DecidableEq

/-- The name of the kind of error. -/
def WorkerError.name : WorkerError → String
  | .emptyService _ | .zeroConcurrency | .invalidConfig _ => "InvalidConfig"
  | .subscribe _ => "Subscribe"

/-- What is wrong with a configuration. -/
def WorkerError.detail : WorkerError → String
  | .emptyService service => s!"service name '{service}' is empty after normalisation"
  | .zeroConcurrency => "concurrency must be at least 1"
  | .invalidConfig what => what
  | .subscribe e => e.message

def WorkerError.message (e : WorkerError) : String :=
  match e with
  | .subscribe _ => s!"subscription failed: {e.detail}"
  | .emptyService _ | .zeroConcurrency | .invalidConfig _ =>
    s!"invalid worker configuration: {e.detail}"

structure Consumer where
  subscription : Subscription
  /-- The message for which a permit is wanted. -/
  held : Option Message := none

/-- The execution of a message. -/
structure Task where
  message : Message
  /-- The instant at which it ends. -/
  finish : Nat
  /-- The reply and its topic, if there is someone to reply to. -/
  answer : Option (String × Reply)

structure Worker where
  config : WorkerConfig
  dispatcher : Dispatcher
  consumers : List Consumer
  /-- The consumers that wait for permits, by their subscriptions, the first to ask first. -/
  waiting : List Subscription := []
  free : Nat
  tasks : List Task := []

namespace Worker

/-- The greatest number of permits that can be given out. -/
def permitLimit : Nat := 2 ^ 61 - 1

/-- Subscribe to all of the topics. Where one is refused, those held before are given up. -/
def subscribeAll (group : String) (held : List Subscription) (b : Broker) :
    List String → Except BrokerError (List Subscription) × Broker
  | [] => (.ok held, b)
  | topic :: topics =>
    match b.subscribe topic group with
    | .ok (s, b) => subscribeAll group (held ++ [s]) b topics
    | .error e => (.error e, held.foldl Broker.unsubscribe b)

/-- Start a replica that hosts a catalog of procedures. -/
def start (config : WorkerConfig) (catalog : Catalog) (b : Broker) :
    Except (Obstacle WorkerError) Worker × Broker :=
  if (serviceName config.service).isEmpty then (.error (.error (.emptyService config.service)), b)
  else if config.concurrency = 0 then (.error (.error .zeroConcurrency), b)
  else if permitLimit < config.concurrency.toNat then (.error .breakdown, b)
  else
    match subscribeAll config.consumerGroup [] b config.topics with
    | (.error e, b) => (.error (.error (.subscribe e)), b)
    | (.ok subscriptions, b) =>
      (.ok
        { config
          dispatcher := ⟨catalog, config.coercer, config.executionTimeout⟩
          consumers := subscriptions.map fun s => ⟨s, none⟩
          free := config.concurrency.toNat }, b)

/-- The topics that the replica consumes. -/
def topics (w : Worker) : List String := w.consumers.map (·.subscription.topic)

/-- Stop to consume. What is queued or held is lost; what is being executed goes on. -/
def stop (w : Worker) (b : Broker) : Worker × Broker :=
  ({ w with consumers := [], waiting := [] },
    w.consumers.foldl (fun b c => b.unsubscribe c.subscription) b)

/-- An idle consumer receives its next message and asks for a permit. -/
def take? (w : Worker) (b : Broker) (c : Consumer) : Option (Worker × Broker) :=
  match c.held with
  | some _ => none
  | none => (b.receive? c.subscription).map fun (m, b) =>
    ({ w with
       consumers := w.consumers.map fun d =>
         if d.subscription = c.subscription then { d with held := some m } else d
       waiting := w.waiting ++ [c.subscription] }, b)

/-- The reply to a message, the topic for it, and the time it takes. A message that is no envelope
is refused, if it can be told whom to answer. -/
def answer (w : Worker) (now : Instant) (clock : Nat) (payload : Bytes) :
    Timed (Option (String × Reply)) :=
  match Envelope.ofBytes now payload with
  | .ok e =>
    let t := w.dispatcher.dispatch e now clock
    ⟨t.elapsed, some (e.replyTo, t.result)⟩
  | .error e =>
    ⟨0, (Header.ofBytes? payload).map fun h =>
      (h.replyTo, ⟨h.requestId, .failure s!"Invalid envelope: {e.message}"⟩)⟩

/-- A permit goes to the first consumer that waits, and its message is executed. -/
def grant? (w : Worker) (now : Instant) (clock : Nat) : Option Worker :=
  match w.free, w.waiting with
  | free + 1, s :: waiting =>
    match (w.consumers.find? (·.subscription == s)).bind (·.held) with
    | none => none
    | some m =>
      let t := w.answer now clock m.payload
      some { w with
        consumers := w.consumers.map fun c =>
          if c.subscription = s then { c with held := none } else c
        waiting
        free
        tasks := w.tasks ++ [⟨m, clock + t.elapsed, t.result⟩] }
  | _, _ => none

/-- Publish a reply. A reply that is refused is lost. -/
def reply (b : Broker) (topic : String) (r : Reply) : Broker :=
  match b.publish topic r.requestId.display r.toBytes with
  | .ok (_, b) => b
  | .error _ => b

/-- An execution that has come to its end replies and returns its permit. -/
def finish? (w : Worker) (b : Broker) (clock : Nat) (k : Nat) : Option (Worker × Broker) :=
  match w.tasks[k]? with
  | none => none
  | some t =>
    if t.finish ≤ clock then
      let b := match t.answer with
        | some (topic, r) => reply b topic r
        | none => b
      some ({ w with free := w.free + 1, tasks := w.tasks.eraseIdx k }, b)
    else none

end Worker

end CallGateway
