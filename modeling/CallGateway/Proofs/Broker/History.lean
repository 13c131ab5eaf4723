import CallGateway.Broker

/-!
# Histories of a broker

A history is a new broker to which things have been done in some order. It keeps a record of every
action with the broker before and after it and the subscriptions that were alive, and it knows the
subscriptions that are alive now. Nobody receives on a subscription that the broker has not given
out or that has been dropped, and nobody drops one twice.
-/

namespace CallGateway

/-- The subscription is for this group of this topic. -/
def Subscription.isIn (topic group : String) (s : Subscription) : Bool :=
  s.topic == topic && s.group == group

namespace Broker

/-- What can be done with a broker. Subscriptions go by their serial numbers. -/
inductive Action
  | subscribe (topic group : String)
  | drop (serial : Nat)
  | publish (topic key : String) (payload : Bytes)
  | receive (serial : Nat)
  | failTopic (topic : String)
  | restoreTopic (topic : String)

/-- What whoever acts on a broker learns from it. -/
inductive Answer
  | subscribed (s : Subscription)
  | dropped
  | accepted (r : Receipt)
  | received (s : Subscription) (m : Option Message)
  | refused (e : BrokerError)
  | done

structure Record where
  action : Action
  before : Broker
  /-- The subscriptions that are alive before the action. -/
  held : List Subscription
  answer : Answer
  after : Broker

namespace Record

def subscribed? (r : Record) : Option Subscription :=
  match r.answer with
  | .subscribed s => some s
  | _ => none

/-- The message that the action has published, with the offset that the receipt tells. -/
def accepted? (r : Record) : Option Message :=
  match r.action, r.answer with
  | .publish topic key payload, .accepted receipt => some ⟨topic, key, payload, receipt.offset⟩
  | _, _ => none

/-- The message that the holder of a subscription has received. -/
def received? (r : Record) (s : Subscription) : Option Message :=
  match r.answer with
  | .received s' m => if s' = s then m else none
  | _ => none

/-- The action publishes a message, and the message is put behind those that wait for `s`. -/
def Hands (r : Record) (m : Message) (s : Subscription) : Prop :=
  r.accepted? = some m ∧ r.after.queue s = r.before.queue s ++ [m]

instance {r : Record} {m : Message} {s : Subscription} : Decidable (r.Hands m s) :=
  inferInstanceAs (Decidable (_ ∧ _))

def handed? (r : Record) (s : Subscription) : Option Message :=
  r.accepted?.filter fun m => decide (r.Hands m s)

/-- A member of a group subscribes. -/
def opens (topic group : String) (r : Record) : Bool :=
  r.subscribed?.any (·.isIn topic group)

def acceptedOn? (topic : String) (r : Record) : Option Message :=
  r.accepted?.filter fun m => m.topic == topic

end Record

structure History where
  broker : Broker
  held : List Subscription := []
  records : List Record := []

namespace History

def subscription? (H : History) (serial : Nat) : Option Subscription :=
  H.held.find? (·.serial == serial)

/-- What an action answers, and what it leaves of the broker and of the subscriptions that are
alive. Nothing can be done with a subscription that is not. -/
def perform? (H : History) : Action → Option (Answer × Broker × List Subscription)
  | .subscribe topic group => some <|
    match H.broker.subscribe topic group with
    | .ok (s, b) => (.subscribed s, b, H.held ++ [s])
    | .error e => (.refused e, H.broker, H.held)
  | .drop serial => (H.subscription? serial).map fun s =>
    (.dropped, H.broker.unsubscribe s, H.held.filter (· != s))
  | .publish topic key payload => some <|
    match H.broker.publish topic key payload with
    | .ok (r, b) => (.accepted r, b, H.held)
    | .error e => (.refused e, H.broker, H.held)
  | .receive serial => (H.subscription? serial).map fun s =>
    match H.broker.receive? s with
    | some (m, b) => (.received s (some m), b, H.held)
    | none => (.received s none, H.broker, H.held)
  | .failTopic topic => some (.done, H.broker.failTopic topic, H.held)
  | .restoreTopic topic => some (.done, H.broker.restoreTopic topic, H.held)

/-- Go on by one step, after which these subscriptions are alive. -/
def push (H : History) (r : Record) (held : List Subscription) : History :=
  ⟨r.after, held, H.records ++ [r]⟩

def act (H : History) (a : Action) : History :=
  match H.perform? a with
  | none => H
  | some (answer, after, held) => H.push ⟨a, H.broker, H.held, answer, after⟩ held

/-- A new broker, with a record of all messages or without. -/
def start (keepHistory : Bool) : History := ⟨{ keepHistory }, [], []⟩

/-- What comes of a new broker by these actions. -/
def run (keepHistory : Bool) (actions : List Action) : History :=
  actions.foldl act (start keepHistory)

/-- What a new broker has and every action keeps holds of every history. -/
theorem run_induction {P : History → Prop} {keepHistory : Bool} (new : P (start keepHistory))
    (step : ∀ H a, P H → P (H.act a)) (actions : List Action) : P (run keepHistory actions) := by
  suffices h : ∀ H, P H → P (actions.foldl act H) from h _ new
  induction actions with
  | nil => exact fun _ h => h
  | cons a actions ih => exact fun H h => ih _ (step H a h)

/-- All subscriptions that have been given out. -/
def issued (H : History) : List Subscription := H.records.filterMap (·.subscribed?)

/-- All subscriptions that have been given out for a group of a topic. -/
def members (H : History) (topic group : String) : List Subscription :=
  H.issued.filter (·.isIn topic group)

/-- The messages that have been accepted on a topic. -/
def accepted (H : History) (topic : String) : List Message :=
  H.records.filterMap (·.acceptedOn? topic)

/-- The messages that have been accepted on a topic since a group has had its first member. -/
def since (H : History) (topic group : String) : List Message :=
  (H.records.dropWhile fun r => !r.opens topic group).filterMap (·.acceptedOn? topic)

/-- The messages that have been put behind those that wait for a subscription. -/
def handed (H : History) (s : Subscription) : List Message := H.records.filterMap (·.handed? s)

/-- The messages that the holder of a subscription has received. -/
def received (H : History) (s : Subscription) : List Message :=
  H.records.filterMap (·.received? s)

end History

end Broker

end CallGateway
