import CallGateway.Broker.Group
import CallGateway.Keyed

/-! The message broker. A message that is published on a topic goes to every consumer group of the
topic, and in each to one member. Nothing is kept for groups that come later; a broker with history
keeps a copy of everything it has accepted. -/

namespace CallGateway

inductive BrokerError
  | publishFailed (topic reason : String)
  | invalidName (what : String)
  deriving DecidableEq

namespace BrokerError

/-- The name of the kind of error. -/
def name : BrokerError → String
  | .publishFailed .. => "PublishFailed"
  | .invalidName _ => "InvalidName"

def message : BrokerError → String
  | .publishFailed topic reason => s!"publish to topic '{topic}' failed: {reason}"
  | .invalidName what => s!"invalid topic or group name: {what}"

def emptyTopic : BrokerError := .invalidName "topic must not be empty"

def emptyName (topic group : String) : BrokerError :=
  .invalidName s!"topic '{topic}' / group '{group}'"

/-- The error of a topic that has been marked. -/
def marked (topic : String) : BrokerError := .publishFailed topic "simulated broker failure"

end BrokerError

structure Topic where
  /-- The number of messages accepted so far. It is counted without an end: what becomes of a counter
  of 64 bits after the last offset that it can hold is left out. -/
  nextOffset : Nat := 0
  groups : Keyed String Group := .empty
  history : List Message := []

/-- What a member of a group holds to receive its messages. -/
structure Subscription where
  topic : String
  group : String
  serial : Nat
  deriving DecidableEq

/-- The acceptance of a message. Topics have one partition. -/
structure Receipt where
  topic : String
  partition : Nat := 0
  offset : Nat
  deriving DecidableEq

structure Broker where
  topics : Keyed String Topic := .empty
  /-- Topics that refuse to be published on. -/
  failing : List String := []
  keepHistory : Bool := false
  nextSerial : Nat := 0
  /-- A closed broker delivers what is queued, and nothing else. -/
  closed : Bool := false

namespace Broker

def topic (b : Broker) (name : String) : Topic := (b.topics.get? name).getD {}

def setTopic (b : Broker) (name : String) (t : Topic) : Broker :=
  { b with topics := b.topics.set name t }

def group (b : Broker) (topic group : String) : Group :=
  ((b.topic topic).groups.get? group).getD {}

def setGroup (b : Broker) (topic group : String) (g : Group) : Broker :=
  let t := b.topic topic
  b.setTopic topic { t with groups := t.groups.set group g }

/-- Mark a topic so that it refuses to be published on. -/
def failTopic (b : Broker) (topic : String) : Broker := { b with failing := topic :: b.failing }

def restoreTopic (b : Broker) (topic : String) : Broker :=
  { b with failing := b.failing.filter (· != topic) }

/-- Accept a message on a topic and hand it to all groups. -/
def accept (b : Broker) (m : Message) : Broker :=
  let t := b.topic m.topic
  b.setTopic m.topic
    { nextOffset := t.nextOffset + 1
      groups := t.groups.mapValues (·.deliver m)
      history := if b.keepHistory then t.history ++ [m] else t.history }

def publish (b : Broker) (topic key : String) (payload : Bytes) :
    Except BrokerError (Receipt × Broker) :=
  if topic.isEmpty then .error .emptyTopic
  else if b.failing.contains topic then .error (.marked topic)
  else
    let offset := (b.topic topic).nextOffset
    .ok ({ topic, offset }, b.accept { topic, key, payload, offset })

def subscribe (b : Broker) (topic group : String) : Except BrokerError (Subscription × Broker) :=
  if topic.isEmpty ∨ group.isEmpty then .error (.emptyName topic group)
  else
    let serial := b.nextSerial
    let b := b.setGroup topic group ((b.group topic group).join serial)
    .ok (⟨topic, group, serial⟩, { b with nextSerial := serial + 1 })

def unsubscribe (b : Broker) (s : Subscription) : Broker :=
  b.setGroup s.topic s.group ((b.group s.topic s.group).leave s.serial)

/-- The messages that wait for a subscription, the first to come first. -/
def queue (b : Broker) (s : Subscription) : List Message :=
  match (b.group s.topic s.group).member? s.serial with
  | some x => x.queue
  | none => []

/-- Take the first message that waits. -/
def receive? (b : Broker) (s : Subscription) : Option (Message × Broker) :=
  match b.queue s with
  | [] => none
  | m :: _ => some (m, b.setGroup s.topic s.group ((b.group s.topic s.group).take s.serial))

def close (b : Broker) : Broker := { b with closed := true }

/-- The messages accepted on a topic, if the broker keeps a history. -/
def published (b : Broker) (topic : String) : List Message := (b.topic topic).history

/-- The number of messages accepted on all topics. -/
def totalPublished (b : Broker) : Nat := (b.topics.values.map (·.nextOffset)).sum

/-- The number of messages in all histories. -/
def retained (b : Broker) : Nat := (b.topics.values.map (·.history.length)).sum

/-- The number of members of a group. -/
def memberCount (b : Broker) (topic group : String) : Nat := (b.group topic group).size

end Broker

end CallGateway
