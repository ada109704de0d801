import QueryRewriting.Proofs.Cluster.Scatter

/-! # What a write touches

A write is made in some surroundings: it looks at a store, puts another one in its place, and has
commands carried out, and that is all it can do to the world. In a cluster the surroundings are its
store, its nodes and the links between them. In the same surroundings with a record, everything that
a write does is written down, in order. -/

namespace QueryRewriting

/-- A world with a store, whose members carry out commands in ways of their own. -/
structure Surroundings (World : Type) where
  store : World → Store
  write : Store → World → World
  /-- The sender carries out a command itself, within a time. -/
  command : Nat → String → Command → World → Except ClusterError Reply × World
  /-- A peer is sent a command, and is waited for as long. -/
  send : Nat → String → Command → World → Except ClusterError Reply × World

/-- The store and the members of a cluster. -/
def Cluster.surroundings : Surroundings Cluster where
  store := Cluster.store
  write store cluster := { cluster with store }
  command timeout n message cluster := cluster.command timeout n message
  send timeout n message cluster := cluster.send timeout n message

/-- What a write does: a store is put in place, or a member is told a command. -/
inductive Deed where
  | wrote (store : Store)
  | told (n : String) (message : Command)

namespace Surroundings

variable {World : Type}

/-- Sends a command to some peers, one after the other. -/
def sendAll (around : Surroundings World) (timeout : Nat) (message : Command) (world : World) :
    List Peer → Broadcast.Outcomes × World
  | [] => ([], world)
  | peer :: rest =>
    let (outcome, world) := around.send timeout peer.nodeId message world
    let (outcomes, world) := around.sendAll timeout message world rest
    ((peer.nodeId, outcome) :: outcomes, world)

/-- Sends a command to every member that a node knows. -/
def broadcast (around : Surroundings World) (sender : Node) (message : Command) (world : World) :
    Except ClusterError Broadcast × World :=
  let (own, world) := around.command sender.requestTimeout sender.id message world
  let (others, world) := around.sendAll sender.requestTimeout message world sender.peers
  (Broadcast.collect message ((sender.id, own) :: others), world)

/-- Tells every member of a write, and lists who has heard. -/
def notify (around : Surroundings World) (sender : Node) (message : Command) (world : World) :
    Broadcast × World :=
  let (outcome, world) := around.broadcast sender message world
  (.bestEffort message outcome, world)

/-- The definition that a request may store, and the store with it. -/
def accept (store : Store) (sender : Node) (id : String) (request : PutRequest) :
    Except ServiceError (Definition × Store) := do
  let definition ← request.definition id
  (sender.registry.kinds.check definition).mapError .ofRewriter
  let store ← (store.put definition).mapError .ofStore
  return (definition, store)

/-- The store without a definition, and whether there was one. -/
def drop (store : Store) (id : String) : Except ServiceError (Bool × Store) := do
  checkId id
  (store.delete id).mapError .ofStore

/-- Puts a definition. -/
def put (around : Surroundings World) (sender : Node) (id : String) (request : PutRequest)
    (world : World) : Except ServiceError PutResponse × World :=
  match accept (around.store world) sender id request with
  | .error e => (.error e, world)
  | .ok (definition, store) =>
    let (invalidation, world) := around.notify sender (.reload id) (around.write store world)
    (.ok { id, schemaVersion := definition.schemaVersion, invalidation }, world)

/-- Deletes a definition. -/
def delete (around : Surroundings World) (sender : Node) (id : String) (world : World) :
    Except ServiceError DeleteResponse × World :=
  match drop (around.store world) id with
  | .error e => (.error e, world)
  | .ok (deleted, store) =>
    let (invalidation, world) :=
      around.notify sender (.clear (some id)) (around.write store world)
    (.ok { id, deleted, invalidation }, world)

/-- The same surroundings, in which all that is done to the world is recorded. -/
def recording (around : Surroundings World) : Surroundings (World × List Deed) where
  store recorded := around.store recorded.1
  write store := fun (world, deeds) => (around.write store world, deeds ++ [.wrote store])
  command timeout n message := fun (world, deeds) =>
    let (outcome, world) := around.command timeout n message world
    (outcome, world, deeds ++ [.told n message])
  send timeout n message := fun (world, deeds) =>
    let (outcome, world) := around.send timeout n message world
    (outcome, world, deeds ++ [.told n message])

variable (around : Surroundings World) (sender : Node) (message : Command) (id : String)
  (world : World) (deeds : List Deed)

/-! ## In a cluster -/

/-- In a cluster this is how a command is sent to some peers. -/
theorem cluster_sendAll (timeout : Nat) (cluster : Cluster) (peers : List Peer) :
    Cluster.surroundings.sendAll timeout message cluster peers =
      Cluster.sendAll timeout message cluster peers := by
  induction peers generalizing cluster with
  | nil => rfl
  | cons peer rest ih =>
      simp only [sendAll, Cluster.sendAll, ih]
      rfl

/-- In a cluster this is how the members are told of a write. -/
theorem cluster_notify (cluster : Cluster) :
    Cluster.surroundings.notify sender message cluster = cluster.notify sender message := by
  have same : Cluster.surroundings.broadcast sender message cluster =
      cluster.broadcast sender message := by
    simp only [broadcast, Cluster.broadcast, cluster_sendAll]
    rfl
  refine Prod.ext ?_ ?_
  · rw [Cluster.notify_eq, notify, same]
  · rw [notify, same]
    rfl

/-- **A put in the surroundings of a cluster** is a put of that cluster. -/
theorem cluster_put (request : PutRequest) (cluster : Cluster) :
    Cluster.surroundings.put sender id request cluster = cluster.put sender id request := by
  have same : accept (Cluster.surroundings.store cluster) sender id request =
      cluster.accept sender id request := rfl
  unfold put Cluster.put
  rw [same]
  cases cluster.accept sender id request with
  | error e => rfl
  | ok result => simp only [cluster_notify]; rfl

/-- **A deletion in the surroundings of a cluster** is a deletion of that cluster. -/
theorem cluster_delete (cluster : Cluster) :
    Cluster.surroundings.delete sender id cluster = cluster.delete sender id := by
  unfold delete Cluster.delete
  have same : drop (Cluster.surroundings.store cluster) id = (do
      checkId id
      (cluster.store.delete id).mapError .ofStore) := rfl
  rw [same]
  split <;> rename_i erased
  · simp only [erased]
  · simp only [erased, cluster_notify]; rfl

/-! ## On record -/

/-- It is recorded that each of the peers was sent the command. -/
theorem recording_sendAll (timeout : Nat) (peers : List Peer) :
    around.recording.sendAll timeout message (world, deeds) peers =
      ((around.sendAll timeout message world peers).1,
        (around.sendAll timeout message world peers).2,
        deeds ++ peers.map fun peer => .told peer.nodeId message) := by
  induction peers generalizing world deeds with
  | nil => simp [sendAll]
  | cons peer rest ih =>
      have sends : around.recording.send timeout peer.nodeId message (world, deeds) =
          ((around.send timeout peer.nodeId message world).1,
            (around.send timeout peer.nodeId message world).2,
            deeds ++ [.told peer.nodeId message]) := rfl
      rw [List.map_cons, List.append_cons deeds]
      simp only [sendAll, sends, ih]

/-- It is recorded that each member was told. -/
theorem recording_notify :
    around.recording.notify sender message (world, deeds) =
      ((around.notify sender message world).1, (around.notify sender message world).2,
        deeds ++ sender.memberIds.map fun n => .told n message) := by
  have tells : around.recording.command sender.requestTimeout sender.id message (world, deeds) =
      ((around.command sender.requestTimeout sender.id message world).1,
        (around.command sender.requestTimeout sender.id message world).2,
        deeds ++ [.told sender.id message]) := rfl
  rw [Node.memberIds, List.map_cons, List.map_map, List.append_cons deeds]
  simp only [notify, broadcast, tells, recording_sendAll, Function.comp_def]

/-- What is put on record of a put: nothing if it is refused, else the store that it writes and then
one command to every member. -/
theorem recording_put (request : PutRequest) :
    around.recording.put sender id request (world, deeds) =
      match accept (around.store world) sender id request with
      | .error e => (.error e, world, deeds)
      | .ok (definition, store) =>
        (.ok ⟨id, definition.schemaVersion,
            (around.notify sender (.reload id) (around.write store world)).1⟩,
          (around.notify sender (.reload id) (around.write store world)).2,
          deeds ++ .wrote store :: sender.memberIds.map fun n => .told n (.reload id)) := by
  have same : around.recording.store (world, deeds) = around.store world := rfl
  have writes (store : Store) : around.recording.write store (world, deeds) =
      (around.write store world, deeds ++ [.wrote store]) := rfl
  rw [put, same]
  cases accept (around.store world) sender id request with
  | error e => rfl
  | ok result => simp only [writes, recording_notify, List.append_assoc, List.singleton_append]

/-- What is put on record of a deletion. -/
theorem recording_delete :
    around.recording.delete sender id (world, deeds) =
      match drop (around.store world) id with
      | .error e => (.error e, world, deeds)
      | .ok (deleted, store) =>
        (.ok ⟨id, deleted,
            (around.notify sender (.clear (some id)) (around.write store world)).1⟩,
          (around.notify sender (.clear (some id)) (around.write store world)).2,
          deeds ++ .wrote store :: sender.memberIds.map fun n => .told n (.clear (some id))) := by
  have same : around.recording.store (world, deeds) = around.store world := rfl
  have writes (store : Store) : around.recording.write store (world, deeds) =
      (around.write store world, deeds ++ [.wrote store]) := rfl
  rw [delete, same]
  cases drop (around.store world) id with
  | error e => rfl
  | ok result => simp only [writes, recording_notify, List.append_assoc, List.singleton_append]

end Surroundings

end QueryRewriting
