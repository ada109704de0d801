import QueryRewriting.Proofs.Cluster.Applications
import QueryRewriting.Proofs.Cluster.Commands
import QueryRewriting.Service.Admin

/-! # Operations on a cluster

What may be done to a cluster, one thing after the other: definitions are put and deleted, nodes are
told to reload or to clear, queries are rewritten, partitions close, instances expire, the store is
written past the service, it fails and recovers, and nodes and links come and go. Each operation
leaves the caches quiet, and whoever is reported to have carried out its command knows nothing of
the ids concerned but what the store holds. -/

namespace QueryRewriting

/-- What may be done to a cluster. A node is named by its id. -/
inductive Operation where
  | put (sender id : String) (request : PutRequest)
  | delete (sender id : String)
  | reload (sender id : String)
  | clear (sender : String) (id? : Option String)
  | rewrite (node : String) (request : RewriteRequest)
  | close (node : String) (partition : Partition)
  /-- An instance in the cache held at a place expires, or gives way to others. -/
  | expire (node : String) (place : Nat) (id : String)
  /-- The store is written directly: a document is put under an id, or the one there is dropped. -/
  | write (id : String) (document? : Option Json)
  | outage (failed : Bool)
  | down (node : String) (down : Bool)
  | link (node : String) (link? : Option Link)

/-- Whether an operation may change what the store holds for an id. -/
def Operation.Writes (id : String) : Operation → Prop
  | .put _ key _ => key = id
  | .delete _ key => key = id
  | .write key _ => key = id
  | _ => False

/-- Lets the instance of an id in one place expire. -/
def Registry.expire (registry : Registry) (place : Nat) (id : String) : Registry :=
  match registry.cache? place with
  | some cache => registry.setCache place (cache.remove id)
  | none => registry

/-- A quiet registry stays quiet when an instance expires. -/
theorem Registry.Quiet.expire {registry : Registry} {P : String → Definition → Prop}
    (quiet : registry.Quiet P) (place : Nat) (id : String) :
    (registry.expire place id).kinds = registry.kinds ∧ (registry.expire place id).Quiet P := by
  unfold Registry.expire
  cases present : registry.cache? place with
  | none => exact ⟨rfl, quiet⟩
  | some cache =>
      have advances : Advances Nothing registry (registry.setCache place (cache.remove id)) :=
        .setCache present fun _ _ quiet => quiet.remove id
      exact ⟨advances.kinds, advances.all (fun _ _ never => never.elim) quiet⟩

/-- The definition of a request is made of what the request gives. -/
theorem PutRequest.definition_eq_ok_iff {request : PutRequest} {id : String}
    {definition : Definition} :
    request.definition id = .ok definition ↔
      checkId id = .ok () ∧ (Text.trim request.kind).isEmpty = false ∧
        definition =
          ⟨id, Text.trim request.kind, request.config, request.logging, currentVersion⟩ := by
  unfold PutRequest.definition
  cases checkId id with
  | error e => simp [bind, Except.bind]
  | ok _ =>
      cases empty : (Text.trim request.kind).isEmpty with
      | true => simp [bind, Except.bind, empty]
      | false =>
          simp only [bind, Except.bind, empty, true_and]
          exact ⟨fun same => (Except.ok.inj same).symm, fun same => congrArg Except.ok same.symm⟩

namespace Cluster

/-- What a node is made to do; nothing, if there is no such node. -/
def onNode (cluster : Cluster) (n : String) (act : Node → Option Broadcast × Cluster) :
    Option Broadcast × Cluster :=
  match cluster.find? n with
  | some node => act node
  | none => (none, cluster)

/-- Carries out an operation; the report of the command that it sends, if it sends one. -/
def perform (cluster : Cluster) : Operation → Option Broadcast × Cluster
  | .put sender id request => cluster.onNode sender fun sender =>
    let (response, cluster) := cluster.put sender id request
    (response.toOption.map (·.invalidation), cluster)
  | .delete sender id => cluster.onNode sender fun sender =>
    let (response, cluster) := cluster.delete sender id
    (response.toOption.map (·.invalidation), cluster)
  | .reload sender id => cluster.onNode sender fun sender =>
    let (report, cluster) := cluster.reload sender id
    (report.toOption, cluster)
  | .clear sender id? => cluster.onNode sender fun sender =>
    let (report, cluster) := cluster.clear sender id?
    (report.toOption, cluster)
  | .rewrite n request => cluster.onNode n fun node =>
    (none, (cluster.rewriteQuery node request).2.2)
  | .close n partition => cluster.onNode n fun node => (none, (cluster.close node partition).2)
  | .expire n place id => cluster.onNode n fun node =>
    (none, cluster.setNode { node with registry := node.registry.expire place id })
  | .write id document? => (none, { cluster with store := cluster.store.write id document? })
  | .outage failed => (none, { cluster with store := { cluster.store with available := !failed } })
  | .down n down => (none, cluster.setDown n down)
  | .link n link? => (none, cluster.setLink n link?)

variable {cluster before after : Cluster} {n : String} {node old : Node} {operation : Operation}
  {P Q : String → String → Definition → Prop}

/-! ## One operation -/

/-- What an operation comes to: the caches are quiet afterwards, every node knows the kinds that it
knew before, whoever is listed in the report obeys the command, and the store holds what it held for
every id that the operation does not write. -/
structure Settles (Q : String → String → Definition → Prop) (operation : Operation)
    (before : Cluster) (report? : Option Broadcast) (after : Cluster) : Prop where
  quiet : after.Quiet Q
  kinds : ∀ n node, after.find? n = some node →
    ∃ old, before.find? n = some old ∧ node.registry.kinds = old.registry.kinds
  obeyed : ∀ report, report? = some report → ∀ reply ∈ report.succeeded,
    ObeyedBy report.command after.store Q after reply.nodeId
  frame : ∀ id, ¬ operation.Writes id → after.store.find? id = before.store.find? id

theorem Quiet.mono (quiet : cluster.Quiet P) (weaker : ∀ n key d, P n key d → Q n key d) :
    cluster.Quiet Q := by
  intro n node found place inside
  exact (quiet n node found place inside).mono (weaker n)

/-- Whether a cluster is quiet depends on its nodes only. -/
theorem Quiet.of_nodes (quiet : before.Quiet Q) (same : after.nodes = before.nodes) :
    after.Quiet Q := by
  intro n node found
  rw [find?, same] at found
  exact quiet n node found

/-- An operation that no node takes part in. -/
theorem Settles.still (quiet : before.Quiet Q) (same : after.nodes = before.nodes)
    (frame : ∀ id, ¬ operation.Writes id → after.store.find? id = before.store.find? id) :
    Settles Q operation before none after where
  quiet := quiet.of_nodes same
  kinds n node found := by
    rw [find?, same] at found
    exact ⟨node, found, rfl⟩
  obeyed _ none := nomatch none
  frame := frame

/-- A broadcast leaves the documents. -/
theorem documents_broadcast (quiet : cluster.Quiet P) (sender : Node) (message : Command) :
    (cluster.broadcast sender message).2.store.documents = cluster.store.documents :=
  (broadcast_sound (quiet.mono fun _ _ _ _ => trivial) (fun _ _ _ _ => trivial) sender
    message).1.documents

/-- A broadcast over a store that may just have been written. -/
theorem broadcast_settles (before middle : Cluster) (quiet : before.Quiet Q)
    (same : middle.nodes = before.nodes) (sender : Node) (message : Command)
    (fresh : ∀ n key d, (middle.broadcast sender message).2.store.Holds key d → Q n key d)
    (frame : ∀ id, ¬ operation.Writes id → middle.store.find? id = before.store.find? id) :
    Settles Q operation before (middle.broadcast sender message).1.toOption
      (middle.broadcast sender message).2 := by
  have still : middle.Quiet Q := quiet.of_nodes same
  have documents := documents_broadcast still sender message
  obtain ⟨advances, obeyed⟩ := broadcast_sound still
    (fun n key d holds => fresh n key d ((Store.holds_congr documents).mpr holds)) sender message
  constructor
  · refine advances.all ?_ still
    intro n key d holds
    exact fresh n key d ((Store.holds_congr documents).mpr holds)
  · intro n node found
    obtain ⟨old, begun, advances⟩ := advances.nodes n node found
    rw [find?, same] at begun
    exact ⟨old, begun, advances.kinds⟩
  · intro report sent reply listed
    cases collected : (middle.broadcast sender message).1 with
    | error e =>
        rw [collected] at sent
        cases sent
    | ok told =>
        rw [collected] at sent
        cases sent
        obtain ⟨named, obeyed⟩ := obeyed report collected
        rw [named]
        exact (obeyed reply listed).congr documents.symm
  · intro id unwritten
    exact (Store.find?_congr documents id).trans (frame id unwritten)

/-- The report sent on behalf of a write lists nobody who did not succeed. -/
theorem notify_settles (before middle : Cluster) (quiet : before.Quiet Q)
    (same : middle.nodes = before.nodes) (sender : Node) (message : Command)
    (fresh : ∀ n key d, (middle.notify sender message).2.store.Holds key d → Q n key d)
    (frame : ∀ id, ¬ operation.Writes id → middle.store.find? id = before.store.find? id) :
    Settles Q operation before (some (middle.notify sender message).1)
      (middle.notify sender message).2 := by
  obtain ⟨quiet, kinds, obeyed, frame⟩ :=
    broadcast_settles before middle quiet same sender message fresh frame
  refine ⟨quiet, kinds, ?_, frame⟩
  intro report told reply listed
  cases told
  unfold notify at listed ⊢
  generalize middle.broadcast sender message = result at obeyed listed ⊢
  obtain ⟨outcome, after⟩ := result
  cases outcome with
  | ok report => exact obeyed report rfl reply listed
  | error e => cases e <;> cases listed

/-- A report comes from a node that is there. -/
theorem of_onNode_report {act : Node → Option Broadcast × Cluster} {report : Broadcast}
    (sent : (cluster.onNode n act).1 = some report) : ∃ node, cluster.onNode n act = act node := by
  unfold onNode at sent ⊢
  cases found : cluster.find? n with
  | none =>
      rw [found] at sent
      cases sent
  | some node => exact ⟨node, rfl⟩

/-- A put is accepted when its definition has no problems and the store takes it. -/
theorem of_accept {sender : Node} {id : String} {request : PutRequest} {definition : Definition}
    {store : Store} (accepted : cluster.accept sender id request = .ok (definition, store)) :
    request.definition id = .ok definition ∧ sender.registry.kinds.check definition = .ok () ∧
      cluster.store.put definition = .ok store := by
  unfold accept at accepted
  simp only [bind, Except.bind] at accepted
  split at accepted
  · cases accepted
  rename_i made named
  cases checked : sender.registry.kinds.check made with
  | error e =>
      rw [checked] at accepted
      cases accepted
  | ok _ =>
      rw [checked] at accepted
      cases stored : cluster.store.put made with
      | error e =>
          rw [stored] at accepted
          cases accepted
      | ok left =>
          rw [stored] at accepted
          cases accepted
          exact ⟨named, checked, stored⟩

/-- What a put that was accepted stores, and what it then sends. -/
theorem put_eq_of_accept {sender : Node} {id : String} {request : PutRequest}
    {definition : Definition} {store : Store}
    (accepted : cluster.accept sender id request = .ok (definition, store)) :
    store = cluster.store.write id (some definition.toDocument) ∧
      cluster.put sender id request =
        (.ok ⟨id, definition.schemaVersion, ({ cluster with store }.notify sender (.reload id)).1⟩,
          ({ cluster with store }.notify sender (.reload id)).2) := by
  obtain ⟨named, _, stored⟩ := of_accept accepted
  obtain ⟨_, _, rfl⟩ := PutRequest.definition_eq_ok_iff.mp named
  exact ⟨Store.of_put stored, by rw [put, accepted]⟩

/-- Telling the members of a write leaves the documents. -/
theorem documents_notify (quiet : cluster.Quiet P) (sender : Node) (message : Command) :
    (cluster.notify sender message).2.store.documents = cluster.store.documents :=
  documents_broadcast quiet sender message

/-- What a put that reports its command has stored. -/
theorem documents_put {sender id : String} {request : PutRequest} {report : Broadcast}
    (quiet : cluster.Quiet P)
    (sent : (cluster.perform (.put sender id request)).1 = some report) :
    ∃ accepted, request.definition id = .ok accepted ∧
      (cluster.perform (.put sender id request)).2.store.documents =
        (cluster.store.write id (some accepted.toDocument)).documents := by
  rw [perform] at sent ⊢
  obtain ⟨node, acts⟩ := of_onNode_report sent
  rw [acts] at sent ⊢
  cases accepted : cluster.accept node id request with
  | error e =>
      rw [put, accepted] at sent
      cases sent
  | ok stored =>
      obtain ⟨definition, store⟩ := stored
      obtain ⟨named, _, _⟩ := of_accept accepted
      obtain ⟨rfl, puts⟩ := put_eq_of_accept accepted
      have still : Quiet P { cluster with
          store := cluster.store.write id (some definition.toDocument) } := quiet.of_nodes rfl
      rw [puts]
      exact ⟨definition, named, documents_notify still node (.reload id)⟩

/-- What a put settles. -/
theorem put_settles (quiet : cluster.Quiet Q) (sender : Node) (id : String) (request : PutRequest)
    (fresh : ∀ n key d, (cluster.put sender id request).2.store.Holds key d → Q n key d) :
    Settles Q (.put sender.id id request) cluster
      ((cluster.put sender id request).1.toOption.map (·.invalidation))
      (cluster.put sender id request).2 := by
  cases accepted : cluster.accept sender id request with
  | error e =>
      have refused : cluster.put sender id request = (.error e, cluster) := by
        rw [put, accepted]
      rw [refused]
      exact .still quiet rfl fun _ _ => rfl
  | ok stored =>
      obtain ⟨definition, store⟩ := stored
      obtain ⟨rfl, puts⟩ := put_eq_of_accept accepted
      rw [puts] at fresh ⊢
      refine notify_settles cluster { cluster with store := cluster.store.write id _ } quiet rfl
        sender (.reload id) fresh ?_
      intro key unwritten
      exact Store.find?_write_of_ne (Ne.symm unwritten) _

/-- A deletion is refused, or drops the document and sends the command to clear. -/
theorem delete_cases (cluster : Cluster) (sender : Node) (id : String) :
    (∃ e, cluster.delete sender id = (.error e, cluster)) ∨
      ∃ deleted store, store = cluster.store.write id none ∧
        cluster.delete sender id =
          (.ok ⟨id, deleted, ({ cluster with store }.notify sender (.clear (some id))).1⟩,
            ({ cluster with store }.notify sender (.clear (some id))).2) := by
  unfold delete
  simp only [bind, Except.bind]
  cases checkId id with
  | error e => exact Or.inl ⟨e, rfl⟩
  | ok _ =>
      cases erased : cluster.store.delete id with
      | error e => exact Or.inl ⟨.ofStore e, rfl⟩
      | ok result => exact Or.inr ⟨result.1, result.2, (Store.of_delete erased).2, rfl⟩

/-- A deletion that reports its command has dropped the document. -/
theorem documents_delete {sender id : String} {report : Broadcast} (quiet : cluster.Quiet P)
    (sent : (cluster.perform (.delete sender id)).1 = some report) :
    (cluster.perform (.delete sender id)).2.store.documents =
      (cluster.store.write id none).documents := by
  rw [perform] at sent ⊢
  obtain ⟨node, acts⟩ := of_onNode_report sent
  rw [acts] at sent ⊢
  rcases delete_cases cluster node id with ⟨e, refused⟩ | ⟨deleted, store, rfl, deletes⟩
  · rw [refused] at sent
    cases sent
  · have still : Quiet P { cluster with store := cluster.store.write id none } :=
      quiet.of_nodes rfl
    rw [deletes]
    exact documents_notify still node (.clear (some id))

/-- What a deletion settles. -/
theorem delete_settles (quiet : cluster.Quiet Q) (sender : Node) (id : String)
    (fresh : ∀ n key d, (cluster.delete sender id).2.store.Holds key d → Q n key d) :
    Settles Q (.delete sender.id id) cluster
      ((cluster.delete sender id).1.toOption.map (·.invalidation))
      (cluster.delete sender id).2 := by
  rcases delete_cases cluster sender id with ⟨e, refused⟩ | ⟨deleted, store, rfl, deletes⟩
  · rw [refused]
    exact .still quiet rfl fun _ _ => rfl
  · rw [deletes] at fresh ⊢
    refine notify_settles cluster { cluster with store := cluster.store.write id none } quiet rfl
      sender (.clear (some id)) fresh ?_
    intro key unwritten
    exact Store.find?_write_of_ne (Ne.symm unwritten) _

/-- A command that is asked for as such. -/
theorem toOption_mapError {ε δ α : Type} (f : ε → δ) (outcome : Except ε α) :
    (outcome.mapError f).toOption = outcome.toOption := by
  cases outcome <;> rfl

/-- What a reload settles. -/
theorem reload_settles (quiet : cluster.Quiet Q) (sender : Node) (id : String)
    (fresh : ∀ n key d, (cluster.reload sender id).2.store.Holds key d → Q n key d) :
    Settles Q (.reload sender.id id) cluster (cluster.reload sender id).1.toOption
      (cluster.reload sender id).2 := by
  unfold reload at fresh ⊢
  cases checked : checkId id with
  | error e => exact .still quiet rfl fun _ _ => rfl
  | ok _ =>
      rw [checked] at fresh
      simp only [toOption_mapError]
      exact broadcast_settles cluster cluster quiet rfl sender (.reload id) fresh fun _ _ => rfl

/-- What a clearing settles. -/
theorem clear_settles (quiet : cluster.Quiet Q) (sender : Node) (id? : Option String)
    (fresh : ∀ n key d, (cluster.clear sender id?).2.store.Holds key d → Q n key d) :
    Settles Q (.clear sender.id id?) cluster (cluster.clear sender id?).1.toOption
      (cluster.clear sender id?).2 := by
  unfold clear at fresh ⊢
  cases checked : id?.mapM checkId with
  | error e => exact .still quiet rfl fun _ _ => rfl
  | ok _ =>
      rw [checked] at fresh
      simp only [toOption_mapError]
      exact broadcast_settles cluster cluster quiet rfl sender (.clear id?) fresh fun _ _ => rfl

/-- An operation on one node alone; the store keeps its documents. -/
theorem setNode_settles {store : Store} (found : cluster.find? n = some old)
    (quiet : cluster.Quiet Q) (documents : store.documents = cluster.store.documents)
    (named : node.id = old.id) (kinds : node.registry.kinds = old.registry.kinds)
    (own : node.registry.Quiet (Q n)) :
    Settles Q operation cluster none ({ cluster with store }.setNode node) := by
  have same : node.id = n := named.trans (id_of_find? found)
  have there : ({ cluster with store } : Cluster).find? n = some old := found
  have cases (m : String) (last : Node)
      (present : ({ cluster with store }.setNode node).find? m = some last) :
      m = n ∧ last = node ∨ cluster.find? m = some last := by
    by_cases own : m = n
    · subst own
      rw [find?_setNode_self there same] at present
      exact Or.inl ⟨rfl, (Option.some.inj present).symm⟩
    · rw [find?_setNode_of_ne (same ▸ own)] at present
      exact Or.inr present
  refine ⟨?_, ?_, nofun, fun id _ => Store.find?_congr documents id⟩
  · intro m last present
    rcases cases m last present with ⟨rfl, rfl⟩ | before
    · exact own
    · exact quiet m last before
  · intro m last present
    rcases cases m last present with ⟨rfl, rfl⟩ | before
    · exact ⟨old, found, kinds⟩
    · exact ⟨last, before, rfl⟩

/-- What a request to rewrite a query settles. -/
theorem rewriteQuery_settles (found : cluster.find? n = some node) (quiet : cluster.Quiet Q)
    (request : RewriteRequest)
    (fresh : ∀ n key d, (cluster.rewriteQuery node request).2.2.store.Holds key d → Q n key d) :
    Settles Q operation cluster none (cluster.rewriteQuery node request).2.2 := by
  obtain ⟨documents, _, _, _, _⟩ := Node.rewriteQuery_sound
    (fun place inside => (quiet n node found place inside).mono fun _ _ _ => trivial)
    (fun _ _ _ => trivial) request
  have fresh (key : String) (d : Definition) (holds : cluster.store.Holds key d) : Q n key d :=
    fresh n key d ((Store.holds_congr documents).mpr holds)
  obtain ⟨_, named, kinds, own, _⟩ :=
    Node.rewriteQuery_sound (quiet n node found) fresh request
  exact setNode_settles found quiet documents named kinds own

/-- What is done on a node settles what it settles there, or nothing if there is no such node. -/
theorem onNode_settles {act : Node → Option Broadcast × Cluster} (quiet : cluster.Quiet Q)
    (acts : ∀ node, cluster.find? n = some node →
      Settles Q operation cluster (act node).1 (act node).2) :
    Settles Q operation cluster (cluster.onNode n act).1 (cluster.onNode n act).2 := by
  unfold onNode
  cases found : cluster.find? n with
  | none => exact .still quiet rfl fun _ _ => rfl
  | some node => exact acts node found

/-- **Every operation keeps what is known of the instances of a node**, if it is true of what the
store holds afterwards. -/
theorem perform_settles (quiet : cluster.Quiet Q) (operation : Operation)
    (fresh : ∀ n key d, (cluster.perform operation).2.store.Holds key d → Q n key d) :
    Settles Q operation cluster (cluster.perform operation).1 (cluster.perform operation).2 := by
  cases operation with
  | put sender id request =>
      refine onNode_settles quiet fun node found => ?_
      rw [perform, onNode, found] at fresh
      have settles := put_settles quiet node id request fresh
      rwa [id_of_find? found] at settles
  | delete sender id =>
      refine onNode_settles quiet fun node found => ?_
      rw [perform, onNode, found] at fresh
      have settles := delete_settles quiet node id fresh
      rwa [id_of_find? found] at settles
  | reload sender id =>
      refine onNode_settles quiet fun node found => ?_
      rw [perform, onNode, found] at fresh
      have settles := reload_settles quiet node id fresh
      rwa [id_of_find? found] at settles
  | clear sender id? =>
      refine onNode_settles quiet fun node found => ?_
      rw [perform, onNode, found] at fresh
      have settles := clear_settles quiet node id? fresh
      rwa [id_of_find? found] at settles
  | rewrite n request =>
      refine onNode_settles quiet fun node found => ?_
      rw [perform, onNode, found] at fresh
      exact rewriteQuery_settles found quiet request fresh
  | close n partition =>
      refine onNode_settles quiet fun node found => ?_
      obtain ⟨kinds, own⟩ := (quiet n node found).close partition
      exact setNode_settles found quiet rfl rfl kinds own
  | expire n place id =>
      refine onNode_settles quiet fun node found => ?_
      obtain ⟨kinds, own⟩ := (quiet n node found).expire place id
      exact setNode_settles found quiet rfl rfl kinds own
  | write id document? =>
      refine .still quiet rfl fun key unwritten => ?_
      exact Store.find?_write_of_ne (Ne.symm unwritten) document?
  | outage failed => exact .still quiet rfl fun _ _ => rfl
  | down n down => exact .still quiet rfl fun _ _ => rfl
  | link n link? => exact .still quiet rfl fun _ _ => rfl

end Cluster

end QueryRewriting
