import CallGateway.Basic

/-! A consumer group of one topic: its members take turns, and each message goes to one of them. -/

namespace CallGateway

/-- A message that the broker has accepted. -/
structure Message where
  topic : String
  key : String
  payload : Bytes
  /-- The number of messages accepted on the topic before. -/
  offset : Nat
  deriving DecidableEq

/-- A member of a group with the messages that wait for it. -/
structure Member where
  serial : Nat
  queue : List Message := []
  deriving DecidableEq

structure Group where
  members : List Member := []
  /-- The number of messages that the group has taken; whose turn it is follows from it. -/
  cursor : UInt64 := 0
  deriving DecidableEq

namespace Group

def size (g : Group) : Nat := g.members.length

/-- The position of the member whose turn it is. -/
def turn (g : Group) : Nat := g.cursor.toNat % g.size

def join (g : Group) (serial : Nat) : Group := { g with members := g.members ++ [{ serial }] }

/-- The messages that wait for a member who leaves are lost. The cursor stays. -/
def leave (g : Group) (serial : Nat) : Group :=
  { g with members := g.members.filter (·.serial != serial) }

/-- Hand a message to the member whose turn it is. Without members nothing happens. -/
def deliver (g : Group) (m : Message) : Group :=
  if g.members.isEmpty then g
  else
    { members := g.members.modify g.turn fun x => { x with queue := x.queue ++ [m] }
      cursor := g.cursor + 1 }

def member? (g : Group) (serial : Nat) : Option Member := g.members.find? (·.serial == serial)

/-- Take the first message that waits for a member. -/
def take (g : Group) (serial : Nat) : Group :=
  { g with members := g.members.map fun x =>
      if x.serial = serial then { x with queue := x.queue.tail } else x }

end Group

end CallGateway
