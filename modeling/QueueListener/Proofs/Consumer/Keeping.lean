import QueueListener.Proofs.Consumer.DeskWork
import QueueListener.Proofs.Consumer.Leaving
import QueueListener.Proofs.Consumer.Lines
/-!
# Work that keeps the line

**A consumer that settles only what it has taken up keeps its line**, and so does a listener that
settles on the channel nothing that comes later, except what it is free to settle.

* `Client.Works.keeps` — requests that spare the line keep it;
* `Desk.Abreast`, `keeps_permits` — work at a desk whose batch was taken up;
* `Listener.Frees`, `Bench.Works.keeps` — the work of a listener.
-/

namespace QueueListener

variable {line : Line} {may : Nat → Settlement → Prop} {tag : Nat}

/-- What reaches no further than the floor spares the line. -/
theorem Line.spares_of_le {s : Settlement} (taken : s.tag ≤ line.floor) : line.Spares s :=
  fun _ awaits => Settlement.covers_of_lt (Nat.lt_of_le_of_lt taken awaits.1) s.multiple s.verdict

theorem Broker.Op.SettlesOnly.heeds {op : Op} (only : op.SettlesOnly may)
    (spares : ∀ s, may line.channel s → line.Spares s) : op.Heeds line := by
  cases op with
  | acknowledge channel s => exact fun here => spares s (here ▸ only)
  | consume | createChannel => exact absurd only id
  | _ => trivial

/-- **Requests that spare the line keep it.** -/
theorem Client.Works.keeps {c c' : Client} (works : c.Works may c')
    (spares : ∀ s, may line.channel s → line.Spares s) : line.Keeps c.broker c'.broker :=
  works.induction (motive := line.Keeps c.broker)
    (fun b _ only kept => kept.trans (Line.step_keeps b (only.heeds spares))) (.refl line _)

/-! ### The desk -/

/-- The batch of a desk was taken up before, and is empty when it has no last delivery. -/
structure Desk.Abreast (desk : Desk) (floor : Nat) : Prop where
  taken : ∀ last, desk.lastDeferred = some last → last ≤ floor
  empty : desk.lastDeferred = none → desk.deferred = 0

/-- **A desk keeps the line** as long as it works on a delivery that was taken up. -/
theorem Desk.keeps_permits {post : Post} (taken : tag ≤ line.floor) :
    Permits post tag fun desk desk' : Desk => desk.Abreast line.floor →
      line.Keeps desk.client.broker desk'.client.broker ∧ desk'.Abreast line.floor where
  refl _ abreast := ⟨.refl line _, abreast⟩
  trans _ _ _ first second abreast := by
    obtain ⟨keeps, abreast'⟩ := first abreast
    obtain ⟨keeps', abreast''⟩ := second abreast'
    exact ⟨keeps.trans keeps', abreast''⟩
  asks _ _ works abreast := by
    refine ⟨works.keeps fun s concerns => Line.spares_of_le ?_, ⟨abreast.taken, abreast.empty⟩⟩
    obtain ⟨-, own | batch⟩ := concerns
    · exact own ▸ taken
    · exact abreast.taken _ batch
  counts _ _ abreast := ⟨.refl line _, ⟨abreast.taken, abreast.empty⟩⟩
  resets _ _ := ⟨.refl line _, ⟨nofun, fun _ => rfl⟩⟩
  defers _ _ := ⟨.refl line _, ⟨fun _ same => Option.some.inj same ▸ taken, nofun⟩⟩
  shows _ abreast := ⟨.refl line _, ⟨abreast.taken, abreast.empty⟩⟩

/-! ### The listener -/

/-- A listener settles nothing behind the delivery that it works on, except what it is free to
settle. -/
def Listener.Frees (listener : Listener) (freed : Nat → Prop) : Prop :=
  ∀ own, listener.Minds (fun s => ∀ tag, own < tag → s.covers tag = true → freed tag) own

/-- A listener that works on a delivery that was taken up spares the line. -/
theorem Listener.Frees.minds {listener : Listener} (frees : listener.Frees line.freed)
    (taken : tag ≤ line.floor) : listener.Minds line.Spares tag := by
  intro aware number payload redelivered command among s asked later awaits
  by_contra covers
  exact awaits.2 (frees tag aware number payload redelivered command among s asked later
    (Nat.lt_of_le_of_lt taken awaits.1) (eq_true_of_ne_false covers))

/-- **What a listener does keeps the line** if it spares it. -/
theorem Bench.Works.keeps {bench bench' : Bench} (works : bench.Works line.Spares bench') :
    line.Keeps bench.client.broker bench'.client.broker :=
  works.client.keeps fun _ settles => settles.2

end QueueListener
