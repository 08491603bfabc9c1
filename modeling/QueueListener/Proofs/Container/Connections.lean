import QueueListener.Proofs.Broker.Connections
import QueueListener.Proofs.Consumer.Engagement
import QueueListener.Proofs.Container.Turns
/-!
# The shared connection

**A container has at most one connection open**, however often its consumers ask for one, whatever
connections are lost or refused, and whenever it closes its own.

* `Contact`, `World.contact` — what happens to the shared connection;
* `World.usable?`, `connection_cases` — a request: the cached connection, a new one, or a refusal;
* `World.Shares` — the invariant; `contact_shares`, `contacts_share` — one contact, and any number;
* `run_shares_connection` — all sequences of contacts.
-/

namespace QueueListener

open Broker

/-! ### Clients and brokers -/

/-- **The connections of a reachable broker are numbered**: none has a number that is yet to come. -/
theorem Broker.Reachable.connections_numbered {b : Broker} (reachable : b.Reachable) :
    ∀ connection ∈ b.connections.keys, connection ≤ b.lastId := by
  induction reachable with
  | empty => exact fun _ member => absurd member List.not_mem_nil
  | collect _ ih => exact ih
  | @step b reached op ih =>
    intro connection member
    by_cases connects : op = .connect
    · subst connects
      have after : (b.step .connect).2 = b.connect.2 := Reply.ofResult_snd _ _
      rw [after] at member ⊢
      rcases b.connect_cases with ⟨_, -, same, lastId, -⟩ | ⟨-, lastId, added, -⟩
      · rw [same] at member
        exact lastId ▸ ih connection member
      · have fresh : b.lastId + 1 ∉ b.connections.keys := fun member =>
          absurd (ih _ member) (Nat.not_succ_le_self _)
        rw [added, Table.keys_set_of_fresh fresh] at member
        rw [lastId]
        rcases List.mem_append.mp member with old | new
        · exact Nat.le_succ_of_le (ih connection old)
        · exact (List.mem_singleton.mp new).le
    · rw [(b.step_cuts connects).keys] at member
      exact (ih connection member).trans (step_accounts reached.tidy.1 op).lastId

/-- A client at a reachable broker; only the request for a connection may be answered by a fault. -/
structure Client.Dependable (c : Client) : Prop where
  reachable : c.broker.Reachable
  faults : ∀ fault ∈ c.faults, fault.op = .connect

theorem Client.Works.dependable {c c' : Client} {may : Nat → Settlement → Prop}
    (works : c.Works may c') (dependable : c.Dependable) : c'.Dependable where
  reachable := by
    obtain ⟨ops, -, ran⟩ := works.ran
    exact ran ▸ dependable.reachable.run ops
  faults fault armed := by
    obtain ⟨earlier, before, same⟩ := works.faults fault armed
    exact same ▸ dependable.faults earlier before

/-- The client is not kept from connecting. -/
structure Client.Connects (c : Client) : Prop where
  unarmed : ArmedFault.take .connect c.faults = none
  accepted : c.broker.refusesConnections = false
  trusted : c.broker.rejectsCredentials = false

/-- **A client that asks for a connection** is refused, or gets the connection with the next
number. -/
theorem Client.connect_cases (c : Client) :
    (∃ error client, c.call .connect (·.connect) = (.error error, client) ∧ ¬ c.Connects ∧
        client.broker.connections = c.broker.connections) ∨
      c.Connects ∧ ∃ client, c.call .connect (·.connect) = (.ok (c.broker.lastId + 1), client) ∧
        client.broker.connections =
          c.broker.connections.set (c.broker.lastId + 1) { isOpen := true } := by
  unfold call
  cases taken : ArmedFault.take .connect c.faults with
  | some answer =>
    refine .inl ⟨answer.1, { c with faults := answer.2 }, rfl, fun connects => ?_, rfl⟩
    rw [connects.unarmed] at taken
    cases taken
  | none =>
    dsimp only
    rcases c.broker.connect_cases with ⟨error, refused, same, -, why⟩ |
      ⟨answered, -, added, accepted, trusted⟩
    · refine .inl ⟨error, _, by rw [refused], fun connects => ?_, same⟩
      rcases why with refuses | rejects
      · rw [connects.accepted] at refuses
        cases refuses
      · rw [connects.trusted] at rejects
        cases rejects
    · exact .inr ⟨⟨taken, accepted, trusted⟩, _, by rw [answered], added⟩

/-- The next number is new. -/
theorem Client.Dependable.fresh {c : Client} (dependable : c.Dependable) :
    c.broker.lastId + 1 ∉ c.broker.connections.keys := fun member =>
  absurd (dependable.reachable.connections_numbered _ member) (Nat.not_succ_le_self _)

/-! ### What happens to the connection -/

/-- What happens to the connection that a container shares. -/
inductive Contact
  /-- A consumer asks for the connection. -/
  | request
  /-- The container closes the connection. -/
  | close
  /-- Somebody does something at the broker: connections are lost or refused, others connect. -/
  | elsewhere (op : Broker.Op)
  /-- A fault is armed for the requests for a connection. -/
  | refuse (error : ClientError) (times : Nat)

/-- Whether the container closes its connection, or connections are lost. -/
def Contact.ends : Contact → Bool
  | .close => true
  | .elsewhere .dropConnections => true
  | .elsewhere (.closeConnection _) => true
  | _ => false

theorem Contact.keeps_of_not_ends {op : Op} (lasts : (Contact.elsewhere op).ends = false) (id : Nat) :
    ¬ op.Loses id := by
  cases op with
  | closeConnection | dropConnections => cases lasts
  | _ => exact fun lost => lost

namespace World

/-- The shared connection, if there is one and it is open. -/
def usable? (w : World) : Option Nat := w.shared.filter w.client.broker.connectionOpen

/-- No connection is usable when the cached one, if there is one, is closed. -/
theorem usable?_eq_none_iff (w : World) : w.usable? = none ↔
    ∀ id, w.shared = some id → w.client.broker.connectionOpen id = false := by
  unfold usable?
  cases w.shared with
  | none => simp
  | some id => simp [Option.filter_some]

theorem usable?_eq_some_iff (w : World) {id : Nat} : w.usable? = some id ↔
    w.shared = some id ∧ w.client.broker.connectionOpen id = true :=
  Option.filter_eq_some_iff

/-- The world after something has happened to the connection. -/
def contact (w : World) : Contact → World
  | .request => (connection.run w).2
  | .close => w.closeConnection
  | .elsewhere op => (w.atBroker fun b => b.step op).2
  | .refuse error times => { w with client := w.client.arm ⟨.connect, error, times⟩ }

/-- The world after several contacts. -/
def contacts (w : World) (contacts : List Contact) : World := contacts.foldl contact w

/-- The connections that the container makes: those that the broker knows after a request, and did
not before. -/
def made (w : World) : Contact → List Nat
  | .request => (connection.run w).2.client.broker.connections.keys.filter
      (· ∉ w.client.broker.connections.keys)
  | _ => []

/-- The connections that the container makes in several contacts. -/
def madeIn (w : World) : List Contact → List Nat
  | [] => []
  | contact :: rest => w.made contact ++ (w.contact contact).madeIn rest

/-- **A request for the connection** is answered with the one that all share, if it is open. If not, a
new one takes its place, unless it is refused. -/
theorem connection_cases (w : World) :
    (∃ id, w.usable? = some id ∧ connection.run w = (.ok id, w)) ∨
      (w.usable? = none ∧ ∃ error w', connection.run w = (.error error, w') ∧ ¬ w.client.Connects ∧
        w'.shared = w.shared ∧ w'.client.broker.connections = w.client.broker.connections) ∨
      (w.usable? = none ∧ w.client.Connects ∧ ∃ w',
        connection.run w = (.ok (w.client.broker.lastId + 1), w') ∧
          w'.shared = some (w.client.broker.lastId + 1) ∧ w'.client.broker.connections =
            w.client.broker.connections.set (w.client.broker.lastId + 1) { isOpen := true }) := by
  have asked := request_run (fun client => client.call .connect (·.connect)) w
  obtain ⟨handoffs, tasks, delivered⟩ := ({ w with
    client := (w.client.call .connect (·.connect)).2 } : World).deliverNotices_shape
  rw [delivered] at asked
  unfold connection
  rw [run_get_bind]
  cases usable : w.usable? with
  | some id =>
    have cached : w.shared.filter w.client.broker.connectionOpen = some id := usable
    rw [cached]
    exact .inl ⟨id, rfl, rfl⟩
  | none =>
    have missing : w.shared.filter w.client.broker.connectionOpen = none := usable
    rw [missing]
    refine .inr ?_
    dsimp only
    rcases w.client.connect_cases with ⟨error, client, refused, kept, same⟩ |
      ⟨connects, client, answered, added⟩
    · rw [refused] at asked
      exact .inl ⟨rfl, error, _, run_bind_error asked, kept, rfl, same⟩
    · rw [answered] at asked
      exact .inr ⟨rfl, connects, _, run_bind_ok asked, rfl, added⟩

/-- The end of the shared connection: nothing is cached any more, and what was cached is closed. -/
theorem closeConnection_cases (w : World) (dependable : w.client.Dependable) :
    (w.shared = none ∧ w.closeConnection = w) ∨
      ∃ id, w.shared = some id ∧ w.closeConnection.shared = none ∧
        w.closeConnection.client.broker.connections =
          (w.client.broker.closeConnection id none).connections := by
  unfold closeConnection
  cases cached : w.shared with
  | none => exact .inl ⟨rfl, rfl⟩
  | some id =>
    have untaken : ArmedFault.take .closeConnection w.client.faults = none :=
      ArmedFault.take_of_other fun fault armed same => by
        have connects := dependable.faults fault armed
        rw [same] at connects
        cases connects
    refine .inr ⟨id, rfl, ?_⟩
    obtain ⟨handoffs, tasks, delivered⟩ := ({ w with
      client := (w.client.closeConnection id).2, shared := none } : World).deliverNotices_shape
    dsimp only
    rw [delivered]
    refine ⟨rfl, ?_⟩
    show (w.client.closeConnection id).2.broker.connections = _
    unfold Client.closeConnection Client.call
    rw [untaken]

theorem deliverNotices_dependable {w : World} (dependable : w.client.Dependable) :
    w.deliverNotices.client.Dependable := by
  obtain ⟨handoffs, tasks, delivered⟩ := w.deliverNotices_shape
  rw [delivered]
  exact ⟨dependable.reachable.collect, dependable.faults⟩

theorem Passes.dependable {w w' : World} (passes : w.Passes w') (dependable : w.client.Dependable) :
    w'.client.Dependable := by
  induction passes with
  | refl => exact dependable
  | tail _ aside ih =>
    cases aside with
    | asked works => exact works.dependable ih
    | delivered => exact deliverNotices_dependable ih
    | fed | noted | woken => exact ih
    | told =>
      rw [publish_client]
      exact ih

/-- Whatever happens to the connection, the client stays dependable. -/
theorem contact_dependable {w : World} (dependable : w.client.Dependable) (contact : Contact) :
    (w.contact contact).client.Dependable := by
  cases contact with
  | request => exact w.connection_passes.dependable dependable
  | close =>
    show w.closeConnection.client.Dependable
    unfold closeConnection
    split
    next => exact dependable
    next id _ =>
      have closes : w.client.Works (fun _ _ => True) (w.client.closeConnection id).2 :=
        w.client.closeConnection_works id
      exact deliverNotices_dependable (closes.dependable dependable)
  | elsewhere op => exact deliverNotices_dependable ⟨dependable.reachable.step op, dependable.faults⟩
  | refuse error times =>
    refine ⟨dependable.reachable, fun fault armed => ?_⟩
    rcases List.mem_append.mp armed with before | new
    · exact dependable.faults fault before
    · rw [List.mem_singleton.mp new]

/-! ### The invariant -/

/-- **The invariant of the shared connection.** Of the connections that the container has made, only
the cached one can be open, and every one that is not was ended. -/
structure Shares (w : World) (made : List Nat) (ends : Nat) : Prop where
  dependable : w.client.Dependable
  known : ∀ id ∈ made, id ∈ w.client.broker.connections.keys
  distinct : made.Nodup
  cached : ∀ id ∈ made, w.client.broker.connectionOpen id = true → w.shared = some id
  bounded : made.length ≤ ends + (made.filter w.client.broker.connectionOpen).length

namespace Shares

variable {w w' : World} {made : List Nat} {ends : Nat}

/-- **At most one connection is open.** -/
theorem atMostOne (shares : w.Shares made ends) :
    (made.filter w.client.broker.connectionOpen).length ≤ 1 := by
  have distinct := shares.distinct.filter (p := w.client.broker.connectionOpen)
  have same : ∀ id ∈ made.filter w.client.broker.connectionOpen, w.shared = some id :=
    fun id member => shares.cached id (List.mem_of_mem_filter member) (List.mem_filter.mp member).2
  cases listed : made.filter w.client.broker.connectionOpen with
  | nil => exact Nat.zero_le _
  | cons first rest =>
    rw [listed] at distinct same
    cases rest with
    | nil => exact le_rfl
    | cons second rest =>
      obtain ⟨atFirst, atSecond, -⟩ := List.forall_mem_cons.mp same |>.imp id List.forall_mem_cons.mp
      obtain rfl := Option.some.inj (atFirst.symm.trans atSecond)
      exact absurd List.mem_cons_self (List.nodup_cons.mp distinct).1

/-- So the container has made at most one more than were ended. -/
theorem count (shares : w.Shares made ends) : made.length ≤ 1 + ends := by
  have := shares.bounded
  have := shares.atMostOne
  omega

/-- What leaves the connections as they are. -/
theorem still (shares : w.Shares made ends) (dependable : w'.client.Dependable)
    (keys : ∀ id ∈ w.client.broker.connections.keys, id ∈ w'.client.broker.connections.keys)
    (same : ∀ id ∈ w.client.broker.connections.keys,
      w'.client.broker.connectionOpen id = w.client.broker.connectionOpen id)
    (shared : w'.shared = w.shared) : w'.Shares made ends where
  dependable := dependable
  known id member := keys id (shares.known id member)
  distinct := shares.distinct
  cached id member opened := by
    rw [shared]
    exact shares.cached id member ((same id (shares.known id member)).symm.trans opened)
  bounded := by
    have open_ : made.filter w'.client.broker.connectionOpen =
        made.filter w.client.broker.connectionOpen :=
      List.filter_congr fun id member => same id (shares.known id member)
    rw [open_]
    exact shares.bounded

/-- What ends connections: it may be the one that is open. -/
theorem ended (shares : w.Shares made ends) (dependable : w'.client.Dependable)
    (keys : w'.client.broker.connections.keys = w.client.broker.connections.keys)
    (cached : ∀ id, w'.client.broker.connectionOpen id = true →
      w.client.broker.connectionOpen id = true ∧ (w.shared = some id → w'.shared = some id)) :
    w'.Shares made (ends + 1) where
  dependable := dependable
  known id member := keys ▸ shares.known id member
  distinct := shares.distinct
  cached id member opened :=
    (cached id opened).2 (shares.cached id member (cached id opened).1)
  bounded := by
    have := shares.bounded
    have := shares.atMostOne
    omega

/-- When none is usable, nothing that the container has made is open: it would be the cached one. -/
theorem closed (shares : w.Shares made ends) (unusable : w.usable? = none) :
    ∀ id ∈ made, w.client.broker.connectionOpen id = false := by
  intro id member
  refine eq_false_of_ne_true fun isOpen => ?_
  have shut := w.usable?_eq_none_iff.mp unusable id (shares.cached id member isOpen)
  rw [isOpen] at shut
  cases shut

/-- A new connection takes the place of one that is not usable. -/
theorem added (shares : w.Shares made ends) (dependable : w'.client.Dependable) {new : Nat}
    (unusable : w.usable? = none) (fresh : new ∉ w.client.broker.connections.keys)
    (shared : w'.shared = some new) (added : w'.client.broker.connections =
      w.client.broker.connections.set new { isOpen := true }) : w'.Shares (made ++ [new]) ends := by
  obtain ⟨opened, others⟩ := connectionOpen_of_added added
  have closed := shares.closed unusable
  have apart : ∀ id ∈ made, id ≠ new := fun id member same => fresh (same ▸ shares.known id member)
  have keys : w'.client.broker.connections.keys = w.client.broker.connections.keys ++ [new] := by
    rw [added, Table.keys_set_of_fresh fresh]
  have before : made.filter w.client.broker.connectionOpen = [] :=
    List.filter_eq_nil_iff.mpr fun id member => by rw [closed id member]; exact nofun
  refine ⟨dependable, fun id member => ?_, ?_, fun id member isOpen => ?_, ?_⟩
  · rw [keys]
    exact List.mem_append.mpr ((List.mem_append.mp member).imp_left (shares.known id))
  · exact List.nodup_append.mpr ⟨shares.distinct, List.nodup_singleton _,
      fun id member other new => List.mem_singleton.mp new ▸ apart id member⟩
  · rcases List.mem_append.mp member with old | latest
    · rw [others id (apart id old), closed id old] at isOpen
      cases isOpen
    · rw [List.mem_singleton.mp latest]
      exact shared
  · have bounded := shares.bounded
    rw [before] at bounded
    rw [List.filter_append, List.filter_singleton, opened, List.length_append, List.length_append]
    simp only [List.length_nil, List.length_singleton, cond_true] at bounded ⊢
    omega

end Shares

/-! ### Contacts -/

variable {w w' : World} {made : List Nat} {ends : Nat}

/-- A request makes nothing new when the connections stay the same. -/
theorem made_request_of_same (same : (connection.run w).2.client.broker.connections =
    w.client.broker.connections) : w.made .request = [] := by
  unfold World.made
  rw [same]
  exact List.filter_eq_nil_iff.mpr fun id member => by simpa using member

/-- It makes the connection that is added. -/
theorem made_request_of_added {id : Nat} {record : ConnectionRecord}
    (fresh : id ∉ w.client.broker.connections.keys)
    (added : (connection.run w).2.client.broker.connections =
      w.client.broker.connections.set id record) : w.made .request = [id] := by
  unfold World.made
  have old : w.client.broker.connections.keys.filter (· ∉ w.client.broker.connections.keys) = [] :=
    List.filter_eq_nil_iff.mpr fun id member => by simpa using member
  rw [added, Table.keys_set_of_fresh fresh, List.filter_append, old, List.nil_append]
  exact List.filter_eq_self.mpr fun other member => by
    rw [List.mem_singleton.mp member]
    simpa using fresh

/-- **A request.** -/
theorem request_shares (shares : w.Shares made ends) :
    (w.contact .request).Shares (made ++ w.made .request) ends := by
  have dependable := contact_dependable shares.dependable .request
  show (connection.run w).2.Shares _ _
  rcases w.connection_cases with ⟨id, -, ran⟩ | ⟨-, error, w', ran, -, shared, same⟩ |
    ⟨unusable, -, w', ran, shared, added⟩
  · rw [made_request_of_same (by rw [ran]), List.append_nil, ran]
    exact shares
  · rw [made_request_of_same (by rw [ran]; exact same), List.append_nil]
    refine shares.still dependable ?_ ?_ ?_
    · rw [ran, same]
      exact fun _ => id
    · intro id _
      rw [ran]
      exact connectionOpen_congr (by rw [same])
    · rw [ran]
      exact shared
  · have fresh := shares.dependable.fresh
    rw [made_request_of_added fresh (by rw [ran]; exact added)]
    change (connection.run w).2.client.Dependable at dependable
    rw [ran] at dependable ⊢
    exact shares.added dependable unusable fresh shared added

/-- **The container closes its connection.** -/
theorem close_shares (shares : w.Shares made ends) :
    (w.contact .close).Shares made (ends + 1) := by
  have dependable := contact_dependable shares.dependable .close
  show w.closeConnection.Shares _ _
  rcases closeConnection_cases w shares.dependable with ⟨-, same⟩ | ⟨id, cached, dropped, closed⟩
  · rw [same]
    exact shares.ended shares.dependable rfl fun id isOpen => ⟨isOpen, fun cached => cached⟩
  · have cuts : Cuts (· = id) w.client.broker (w.client.broker.closeConnection id none) :=
      Leads.cuts (closeConnection_leads w.client.broker id none rfl)
    have same : ∀ other, w.closeConnection.client.broker.connectionOpen other =
        (w.client.broker.closeConnection id none).connectionOpen other := fun other =>
      connectionOpen_congr (by rw [closed])
    refine shares.ended dependable (by rw [closed, cuts.keys]) fun other isOpen => ?_
    rw [same] at isOpen
    refine ⟨cuts.closed other isOpen, fun shared => ?_⟩
    obtain rfl := Option.some.inj (cached.symm.trans shared)
    rw [closeConnection_shuts] at isOpen
    cases isOpen

/-- **Something happens at the broker.** -/
theorem elsewhere_shares (shares : w.Shares made ends) (op : Op) :
    (w.contact (.elsewhere op)).Shares made
      (ends + if (Contact.elsewhere op).ends then 1 else 0) := by
  have dependable := contact_dependable shares.dependable (.elsewhere op)
  obtain ⟨handoffs, tasks, delivered⟩ := ({ w with
    client := { w.client with broker := (w.client.broker.step op).2 } } : World).deliverNotices_shape
  have after : w.contact (.elsewhere op) = _ := delivered
  rw [after] at dependable ⊢
  by_cases connects : op = .connect
  · subst connects
    have reached : (w.client.broker.step .connect).2 = w.client.broker.connect.2 :=
      Reply.ofResult_snd _ _
    have fresh := shares.dependable.fresh
    rcases w.client.broker.connect_cases with ⟨_, -, same, -⟩ | ⟨-, -, added, -⟩
    · rw [← reached] at same
      have kept : Cuts (fun _ => False) w.client.broker (w.client.broker.step .connect).2 :=
        .of_same same
      exact shares.still dependable (fun id member => kept.keys ▸ member)
        (fun id _ => kept.kept id fun lost => lost) rfl
    · rw [← reached] at added
      refine shares.still dependable (fun id member => ?_) (fun id member => ?_) rfl
      · show id ∈ (w.client.broker.step .connect).2.connections.keys
        rw [added, Table.keys_set_of_fresh fresh]
        exact List.mem_append_left _ member
      · exact (connectionOpen_of_added added).2 id
          fun new : id = w.client.broker.lastId + 1 => fresh (new ▸ member)
  · have cuts := w.client.broker.step_cuts connects
    split
    next =>
      exact shares.ended dependable cuts.keys fun id isOpen =>
        ⟨cuts.closed id isOpen, fun cached => cached⟩
    next lasts =>
      refine shares.still dependable (fun id member => cuts.keys ▸ member) (fun id _ => ?_) rfl
      exact cuts.kept id (Contact.keeps_of_not_ends (eq_false_of_ne_true lasts) id)

/-- **One contact keeps the invariant.** -/
theorem contact_shares (shares : w.Shares made ends) (contact : Contact) :
    (w.contact contact).Shares (made ++ w.made contact)
      (ends + if contact.ends then 1 else 0) := by
  cases contact with
  | request => exact request_shares shares
  | close =>
    rw [show w.made .close = [] from rfl, List.append_nil]
    exact close_shares shares
  | elsewhere op =>
    rw [show w.made (.elsewhere op) = [] from rfl, List.append_nil]
    exact elsewhere_shares shares op
  | refuse error times =>
    rw [show w.made (.refuse error times) = [] from rfl, List.append_nil]
    exact ⟨contact_dependable shares.dependable (.refuse error times), shares.known, shares.distinct,
      shares.cached, shares.bounded⟩

/-- **So does any number of them.** -/
theorem contacts_share (shares : w.Shares made ends) (contacts : List Contact) :
    (w.contacts contacts).Shares (made ++ w.madeIn contacts)
      (ends + contacts.countP (·.ends)) := by
  induction contacts generalizing w made ends with
  | nil =>
    rw [show w.madeIn [] = [] from rfl, List.append_nil]
    exact shares
  | cons contact rest ih =>
    have later := ih (contact_shares shares contact)
    rw [List.append_assoc, Nat.add_assoc] at later
    rw [List.countP_cons, Nat.add_comm (rest.countP _)]
    exact later

/-! ### All sequences -/

/-- **The shared connection**, after contacts in which the container has made these connections, and in
which connections were ended so often. -/
structure SharesConnection (w : World) (made : List Nat) (ends : Nat) : Prop where
  /-- At most one connection that the container has made is open. -/
  atMostOne : (made.filter w.client.broker.connectionOpen).length ≤ 1
  /-- It is the cached one. -/
  cached : ∀ id ∈ made, w.client.broker.connectionOpen id = true → w.shared = some id
  /-- The container has made at most one connection more than were ended. -/
  count : made.length ≤ 1 + ends
  /-- A request that succeeds answers with a connection that is open, and cached. -/
  answers : ∀ id w', connection.run w = (.ok id, w') →
    w'.client.broker.connectionOpen id = true ∧ w'.shared = some id
  /-- A cached connection that is open is the answer, and nothing changes. -/
  reuses : ∀ id, w.shared = some id → w.client.broker.connectionOpen id = true →
    connection.run w = (.ok id, w) ∧ w.made .request = []
  /-- When none is cached, or the cached one is closed, a request that succeeds makes a new one. -/
  renews : (∀ id, w.shared = some id → w.client.broker.connectionOpen id = false) →
    ∀ id w', connection.run w = (.ok id, w') → w.made .request = [id]
  /-- And only a refusal keeps it from that. -/
  succeeds : (∀ id, w.shared = some id → w.client.broker.connectionOpen id = false) →
    ((∃ id w', connection.run w = (.ok id, w')) ↔ w.client.Connects)
  /-- A refused attempt leaves the cache as it was, and makes nothing. -/
  refused : ∀ error w', connection.run w = (.error error, w') →
    w'.shared = w.shared ∧ w.made .request = [] ∧
      ∀ id, w.shared = some id → w.client.broker.connectionOpen id = false

/-- A request that is answered: the usable connection is the answer, or a new one is made. -/
theorem answered_request {id : Nat} (dependable : w.client.Dependable)
    (ran : connection.run w = (.ok id, w')) :
    (w.usable? = some id ∧ w' = w) ∨
      w.usable? = none ∧ w.client.Connects ∧ w'.shared = some id ∧ w.made .request = [id] ∧
        w'.client.broker.connectionOpen id = true := by
  rcases w.connection_cases with ⟨_, usable, reused⟩ | ⟨-, _, _, refused, -⟩ |
    ⟨missing, connects, _, renewed, shared, added⟩
  · cases reused.symm.trans ran
    exact .inl ⟨usable, rfl⟩
  · cases refused.symm.trans ran
  · cases renewed.symm.trans ran
    have makes : w.made .request = [w.client.broker.lastId + 1] :=
      made_request_of_added dependable.fresh (by rw [ran]; exact added)
    exact .inr ⟨missing, connects, shared, makes, (connectionOpen_of_added added).1⟩

/-- A request that is refused: none was usable, and the cache is what it was. -/
theorem refused_request {error : ClientError} (ran : connection.run w = (.error error, w')) :
    w.usable? = none ∧ w'.shared = w.shared ∧ w.made .request = [] := by
  rcases w.connection_cases with ⟨_, -, reused⟩ | ⟨missing, _, _, refused, -, shared, same⟩ |
    ⟨-, -, _, renewed, -⟩
  · cases reused.symm.trans ran
  · cases refused.symm.trans ran
    exact ⟨missing, shared, made_request_of_same (by rw [ran]; exact same)⟩
  · cases renewed.symm.trans ran

/-- **A usable connection is the answer**, and nothing happens. -/
theorem request_of_usable {id : Nat} (usable : w.usable? = some id) :
    connection.run w = (.ok id, w) := by
  rcases w.connection_cases with ⟨_, same, ran⟩ | ⟨missing, -⟩ | ⟨missing, -⟩
  · obtain rfl := Option.some.inj (usable.symm.trans same)
    exact ran
  · cases usable.symm.trans missing
  · cases usable.symm.trans missing

/-- Without one, a request succeeds if the client is not kept from connecting. -/
theorem exists_answer_iff (dependable : w.client.Dependable) (missing : w.usable? = none) :
    (∃ id w', connection.run w = (.ok id, w')) ↔ w.client.Connects := by
  refine ⟨fun ⟨id, w', ran⟩ => ?_, fun connects => ?_⟩
  · rcases answered_request dependable ran with ⟨usable, -⟩ | ⟨-, connects, -⟩
    · cases usable.symm.trans missing
    · exact connects
  · rcases w.connection_cases with ⟨_, usable, -⟩ | ⟨-, _, _, -, kept, -⟩ | ⟨-, -, _, renewed, -⟩
    · cases usable.symm.trans missing
    · exact absurd connects kept
    · exact ⟨_, _, renewed⟩

/-- The invariant gives all that is promised of the connection. -/
theorem Shares.sharesConnection (shares : w.Shares made ends) : w.SharesConnection made ends where
  atMostOne := shares.atMostOne
  cached := shares.cached
  count := shares.count
  answers id w' ran := by
    rcases answered_request shares.dependable ran with ⟨usable, rfl⟩ | ⟨-, -, shared, -, opened⟩
    · exact (w'.usable?_eq_some_iff.mp usable).symm
    · exact ⟨opened, shared⟩
  reuses id cached opened := by
    have ran := request_of_usable (w.usable?_eq_some_iff.mpr ⟨cached, opened⟩)
    exact ⟨ran, made_request_of_same (by rw [ran])⟩
  renews closed id w' ran := by
    rcases answered_request shares.dependable ran with ⟨usable, -⟩ | ⟨-, -, -, makes, -⟩
    · cases usable.symm.trans (w.usable?_eq_none_iff.mpr closed)
    · exact makes
  succeeds closed := exists_answer_iff shares.dependable (w.usable?_eq_none_iff.mpr closed)
  refused error w' ran := by
    obtain ⟨missing, shared, makes⟩ := refused_request ran
    exact ⟨shared, makes, w.usable?_eq_none_iff.mp missing⟩

/-- **The container shares one connection**, whatever happens to it, and whoever asks for it. -/
theorem run_shares_connection (w : World) (reachable : w.client.broker.Reachable)
    (faults : ∀ fault ∈ w.client.faults, fault.op = .connect) (contacts : List Contact) :
    (w.contacts contacts).SharesConnection (w.madeIn contacts) (contacts.countP (·.ends)) := by
  have start : w.Shares [] 0 := ⟨⟨reachable, faults⟩, nofun, .nil, nofun, le_rfl⟩
  have shares := contacts_share start contacts
  rw [List.nil_append, Nat.zero_add] at shares
  exact shares.sharesConnection

/-- Two consumers ask for the connection; it is lost, and the broker refuses the next one, and then a
fault does. Two ask once more. The container closes the connection, and somebody asks again. -/
def outage : List Contact :=
  [.request, .request, .elsewhere .dropConnections, .elsewhere (.refuseConnections true), .request,
    .elsewhere (.refuseConnections false), .refuse (.connection "refused") 1, .request, .request, .request,
    .close, .request]

/-- Three connections are made, one more than were ended, and the last one is open. -/
theorem run_shares_connection_outage :
    let w := World.new { settings := {} } {}
    w.madeIn outage = [1, 2, 3] ∧ outage.countP (·.ends) = 2 ∧
      (w.madeIn outage).filter (w.contacts outage).client.broker.connectionOpen = [3] ∧
      (w.contacts outage).SharesConnection [1, 2, 3] 2 := by
  intro w
  have made : w.madeIn outage = [1, 2, 3] := by decide +kernel
  have shares := w.run_shares_connection .empty nofun outage
  rw [made] at shares
  exact ⟨made, rfl, by decide +kernel, shares⟩

end World

end QueueListener
