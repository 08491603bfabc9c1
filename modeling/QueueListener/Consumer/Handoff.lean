import QueueListener.Broker.Basic
/-!
# The handoff between broker and consumer

**What the broker pushes waits in two places.** The notices of the broker pile up in front of the
handoff without bound; a feed moves them one by one into the handoff, which has room for as many as
the consumer may have unsettled. The consumer takes them out in the same order.
-/

namespace QueueListener

/-- What a consumer takes out of its handoff. -/
inductive Parcel
  | delivery (delivery : Delivery)
  | cancelled
  | shutdown (cause : ClientError)
  deriving DecidableEq

/-- A handoff. -/
structure Handoff where
  capacity : Nat
  /-- What the broker has pushed and the feed has not moved yet. -/
  outside : List Notice := []
  inside : List Parcel := []
  /-- Whether the consumer still takes parcels. -/
  accepting : Bool := true
  /-- Whether nothing more will come in. -/
  ended : Bool := false
  deriving DecidableEq

/-- What the feed of a handoff has done. -/
inductive FeedStep
  /-- It moved a notice, or let go of it. -/
  | moved
  /-- It has nothing to move, or no room. -/
  | waits
  | ended
  deriving DecidableEq, Repr

namespace Handoff

/-- Whether there is room for one more parcel. -/
def hasRoom (h : Handoff) : Bool := h.inside.length < h.capacity

/-- Puts the last parcel in. -/
def putLast (h : Handoff) (parcel : Parcel) (rest : List Notice) : FeedStep × Handoff :=
  if !h.accepting then (.ended, { h with outside := rest, ended := true })
  else if h.hasRoom then
    (.ended, { h with outside := rest, inside := h.inside ++ [parcel], ended := true })
  else (.waits, h)

/-- One step of the feed. Deliveries for a consumer that takes nothing more stay unsettled at the
broker. -/
def feed (h : Handoff) : FeedStep × Handoff :=
  if h.ended then (.waits, h)
  else match h.outside with
    | [] => (.waits, h)
    | .delivered delivery :: rest =>
      if !h.accepting then (.moved, { h with outside := rest })
      else if h.hasRoom then
        (.moved, { h with outside := rest, inside := h.inside ++ [.delivery delivery] })
      else (.waits, h)
    | .cancelled :: rest => h.putLast .cancelled rest
    | .shutdown cause :: rest => h.putLast (.shutdown cause) rest
    | .ended :: rest => (.ended, { h with outside := rest, ended := true })

/-- The deliveries inside, and the handoff closed and empty. -/
def drain (h : Handoff) : List Delivery × Handoff :=
  (h.inside.filterMap fun
    | .delivery delivery => some delivery
    | _ => none,
    { h with inside := [], accepting := false })

end Handoff

end QueueListener
