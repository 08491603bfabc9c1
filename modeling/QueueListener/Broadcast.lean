/-!
# Broadcast

**Every subscriber gets what is sent after it subscribed, in order**, as long as it keeps up: only
the last items are kept, as many as the capacity says. A subscriber that has fallen behind hears
how many items it lost and goes on with the oldest that is kept.
-/

namespace QueueListener

/-- What a subscriber gets when it asks. -/
inductive Received (α : Type)
  | item (value : α)
  /-- Nothing was sent since the last item. -/
  | empty
  /-- So many items were lost. -/
  | lagged (lost : Nat)
  deriving DecidableEq, Repr

/-- A broadcast: the items that were sent to subscribers, and for each subscriber the place of the
item that it gets next. -/
structure Broadcast (α : Type) where
  capacity : Nat
  sent : Array α
  places : Array Nat
  deriving DecidableEq, Repr

namespace Broadcast

variable {α : Type}

/-- The least power of two, of at most `fuel` doublings of `power`, that is not below `n`. -/
def powerFrom (n : Nat) : Nat → Nat → Nat
  | 0, power => power
  | fuel + 1, power => if n ≤ power then power else powerFrom n fuel (2 * power)

/-- The least power of two that is not below `n`. -/
def roundedCapacity (n : Nat) : Nat := powerFrom n n 1

/-- A broadcast without subscribers that keeps at least `capacity` items, and at least one. -/
def new (capacity : Nat) : Broadcast α := ⟨roundedCapacity capacity, #[], #[]⟩

/-- Adds a subscriber; gives its number. -/
def subscribe (b : Broadcast α) : Nat × Broadcast α :=
  (b.places.size, { b with places := b.places.push b.sent.size })

/-- Sends an item to all subscribers. Without subscribers the item is dropped. -/
def send (b : Broadcast α) (value : α) : Broadcast α :=
  if b.places.isEmpty then b else { b with sent := b.sent.push value }

/-- The place of the oldest item that is kept. -/
def oldest (b : Broadcast α) : Nat := b.sent.size - b.capacity

/-- Moves a subscriber to a place. -/
def moveTo (b : Broadcast α) (subscriber place : Nat) : Broadcast α :=
  { b with places := b.places.setIfInBounds subscriber place }

/-- What a subscriber gets next. -/
def receive (b : Broadcast α) (subscriber : Nat) : Received α × Broadcast α :=
  let place := b.places.getD subscriber b.sent.size
  if place < b.oldest then (.lagged (b.oldest - place), b.moveTo subscriber b.oldest)
  else match b.sent[place]? with
    | some value => (.item value, b.moveTo subscriber (place + 1))
    | none => (.empty, b)

end Broadcast

end QueueListener
