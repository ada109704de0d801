import QueryRewriting.Proofs.Cache.Visits
import QueryRewriting.Service.Admin

/-! # Commands only read

Whatever a command does on the members of a cluster, and however far it gets, the store is at most
read for it. Nothing is assumed of the caches that it meets. -/

namespace QueryRewriting

/-- Two stores that differ in how often they were read at most. -/
structure Store.Keeps (before after : Store) : Prop where
  documents : after.documents = before.documents
  available : after.available = before.available

namespace Store.Keeps

variable {before middle after : Store}

theorem refl (store : Store) : store.Keeps store := ⟨rfl, rfl⟩

theorem trans (first : before.Keeps middle) (second : middle.Keeps after) : before.Keeps after :=
  ⟨second.documents.trans first.documents, second.available.trans first.available⟩

end Store.Keeps

/-! ## Sweeps -/

/-- A step of a reload writes nothing. -/
theorem Reload.step_keeps (kinds : Kinds) (id : String) (phase : Reload) (store : Store)
    (cache : PartitionCache) : store.Keeps (phase.step kinds id store cache).2.1 := by
  rw [store_step]
  exact ⟨rfl, rfl⟩

namespace Sweep

/-- A step of a sweep writes nothing. -/
theorem step_keeps (sweep : Sweep) (store : Store) (registry : Registry) :
    store.Keeps (sweep.step store registry).2.1 := by
  unfold step
  split
  · exact .refl store
  · split
    · exact .refl store
    · exact .refl store
    · exact Reload.step_keeps ..

/-- A sweep writes nothing. -/
theorem run_keeps (fuel : Nat) (sweep : Sweep) (store : Store) (registry : Registry) :
    store.Keeps (run fuel sweep store registry).2.1 := by
  induction fuel generalizing sweep store registry with
  | zero => exact .refl store
  | succ fuel ih => exact (step_keeps sweep store registry).trans (ih ..)

end Sweep

/-- A node that carries out a command writes nothing. -/
theorem Node.executeWithin_keeps (node : Node) (delays : Delays) (time : Nat) (message : Command)
    (store : Store) : store.Keeps (node.executeWithin delays time message store).2.1 := by
  cases message with
  | reload id => exact Sweep.run_keeps ..
  | clear id? => exact .refl store

/-! ## Clusters -/

namespace Cluster

/-- A command to a member writes nothing. -/
theorem command_keeps (cluster : Cluster) (timeout : Nat) (n : String) (message : Command) :
    cluster.store.Keeps (cluster.command timeout n message).2.store := by
  unfold command
  cases cluster.find? n with
  | none => exact .refl cluster.store
  | some node => exact node.executeWithin_keeps cluster.delays timeout message cluster.store

/-- A command on its way to a peer writes nothing. -/
theorem send_keeps (cluster : Cluster) (timeout : Nat) (n : String) (message : Command) :
    cluster.store.Keeps (cluster.send timeout n message).2.store := by
  unfold send
  cases cluster.linkTo n with
  | sound => exact cluster.command_keeps timeout n message
  | _ => exact .refl cluster.store

/-- A command to some peers writes nothing. -/
theorem sendAll_keeps (timeout : Nat) (message : Command) (cluster : Cluster) (peers : List Peer) :
    cluster.store.Keeps (sendAll timeout message cluster peers).2.store := by
  induction peers generalizing cluster with
  | nil => exact .refl cluster.store
  | cons peer rest ih => exact (cluster.send_keeps timeout peer.nodeId message).trans (ih _)

/-- **A broadcast leaves the store as it is**, but for its reads. -/
theorem broadcast_keeps (cluster : Cluster) (sender : Node) (message : Command) :
    cluster.store.Keeps (cluster.broadcast sender message).2.store :=
  (cluster.command_keeps ..).trans (sendAll_keeps ..)

end Cluster

end QueryRewriting
