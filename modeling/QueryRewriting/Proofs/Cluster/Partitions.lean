import QueryRewriting.Proofs.Cluster.Chronicle

/-! # The places of open partitions

The cache of a partition is found by its place, so nothing that is done on one partition reaches
another as long as no two of them share a place. A partition is opened at a place behind all others,
and nothing else gives a place to a partition.
-/

namespace QueryRewriting

namespace Registry

variable {before middle after : Registry} {F P : String → Definition → Prop}

/-- A registry between calls: its caches are quiet, and no two of its partitions share a place. -/
structure Orderly (registry : Registry) : Prop where
  quiet : registry.Quiet fun _ _ => True
  apart : registry.handles.Nodup

/-! ## What becomes of the open partitions -/

/-- What one operation makes of the list of open partitions: they stay, or one more is opened, or
one is closed. -/
def Shifts (before after : Registry) : Prop :=
  after.opened = before.opened ∨
    (∃ partition, after.opened = before.opened ++ [(partition, before.caches.length)]) ∨
    ∃ partition, after.opened = before.opened.filter (·.1 ≠ partition)

/-- What only adds to caches opens and closes no partition. -/
theorem Advances.shifts (advances : Advances F before after) : before.Shifts after :=
  .inl advances.opened

/-- Partitions are where a shift has left them after caches were added to. -/
theorem Shifts.advances (shifts : before.Shifts middle) (advances : Advances F middle after) :
    before.Shifts after := by
  unfold Shifts
  rw [advances.opened]
  exact shifts

/-- A new place is not yet taken. -/
theorem Quiet.length_not_mem (quiet : before.Quiet P) : before.caches.length ∉ before.handles := by
  intro member
  obtain ⟨cache, present, _⟩ := quiet _ member
  have outside : before.cache? before.caches.length = none :=
    List.getElem?_eq_none (Nat.le_refl _)
  cases outside.symm.trans present

/-- No two partitions share a cache after a shift. -/
theorem Shifts.apart (shifts : before.Shifts after) (quiet : before.Quiet P)
    (apart : before.handles.Nodup) : after.handles.Nodup := by
  unfold handles at apart ⊢
  rcases shifts with same | ⟨partition, opens⟩ | ⟨partition, closes⟩
  · rwa [same]
  · rw [opens, List.map_append, List.map_singleton]
    refine List.nodup_append.mpr ⟨apart, List.pairwise_singleton _ _, ?_⟩
    rintro place member other new rfl
    cases List.mem_singleton.mp new
    exact quiet.length_not_mem member
  · rw [closes]
    exact apart.sublist (List.filter_sublist.map _)

/-- Serving a partition opens at most that one. -/
theorem serve_shifts {partition : Partition} {handle : Nat}
    (served : before.serve partition = .ok (handle, after)) : before.Shifts after := by
  have same := serve_eq_getOrCreate served
  unfold getOrCreate at same
  split at same
  · cases same
    exact .inl rfl
  · cases same
    exact .inr (.inl ⟨partition, rfl⟩)

/-- Closing a partition closes at most that one. -/
theorem close_shifts (registry : Registry) (partition : Partition) :
    registry.Shifts (registry.close partition).2 := by
  unfold close
  cases registry.find? partition with
  | none => exact .inl rfl
  | some handle =>
      have closes : registry.Shifts (registry.withdraw partition) := .inr (.inr ⟨partition, rfl⟩)
      exact closes.advances (clearAt_sound _ handle).1

/-- An instance that expires opens and closes no partition. -/
theorem expire_shifts (registry : Registry) (place : Nat) (id : String) :
    registry.Shifts (registry.expire place id) := by
  unfold expire
  split <;> exact .inl rfl

end Registry

/-- A request to rewrite a query opens at most its partition. -/
theorem Node.rewriteQuery_shifts {node : Node} {P : String → Definition → Prop}
    (quiet : node.registry.Quiet P) (request : RewriteRequest) (store : Store) :
    node.registry.Shifts (node.rewriteQuery request store).2.2.2.registry := by
  have quiet : node.registry.Quiet fun _ _ => True := fun place inside =>
    (quiet place inside).mono fun _ _ _ => trivial
  unfold rewriteQuery
  cases prepared : node.prepare request with
  | error e => exact .inl rfl
  | ok accepted =>
      obtain ⟨threshold, handle, registry⟩ := accepted
      obtain ⟨_, _, inside⟩ := quiet_of_prepare quiet prepared
      have opens := Registry.serve_shifts (serve_of_prepare prepared)
      obtain ⟨_, advances, _⟩ := Registry.lookupAll_sound (request.rewriters.map (·.id)) inside
        fun key d (_ : store.Holds key d) => trivial
      simp only
      generalize registry.lookupAll handle store (request.rewriters.map (·.id)) = result
        at advances ⊢
      obtain ⟨outcome, left, after⟩ := result
      cases outcome <;> exact opens.advances advances

namespace Cluster

variable {cluster before middle after : Cluster} {n : String} {node old : Node}
  {F : String → Definition → Prop} {P : String → String → Definition → Prop}

/-- What one operation makes of the open partitions of every node. -/
def Shifts (before after : Cluster) : Prop :=
  ∀ n node, after.find? n = some node →
    ∃ old, before.find? n = some old ∧ old.registry.Shifts node.registry

/-- Nothing shifts while the nodes stay. -/
theorem Shifts.still (same : after.nodes = before.nodes) : before.Shifts after := by
  intro n node found
  rw [find?, same] at found
  exact ⟨node, found, .inl rfl⟩

theorem Advances.shifts (advances : Advances F before after) : before.Shifts after := by
  intro n node found
  obtain ⟨old, begun, advances⟩ := advances.nodes n node found
  exact ⟨old, begun, advances.shifts⟩

/-- If one node is replaced by one that has shifted, the cluster has. -/
theorem Shifts.setNode {store : Store} (found : before.find? n = some old)
    (named : node.id = old.id) (shifts : old.registry.Shifts node.registry) :
    before.Shifts ({ before with store }.setNode node) := by
  intro m last present
  have own : node.id = n := named.trans (id_of_find? found)
  have there : ({ before with store } : Cluster).find? n = some old := found
  by_cases same : m = n
  · subst same
    cases (find?_setNode_self there own).symm.trans present
    exact ⟨old, found, shifts⟩
  · rw [find?_setNode_of_ne (own ▸ same)] at present
    exact ⟨last, present, .inl rfl⟩

/-- What is done on a node shifts the cluster as it does there. -/
theorem onNode_shifts {act : Node → Option Broadcast × Cluster}
    (acts : ∀ node, cluster.find? n = some node → cluster.Shifts (act node).2) :
    cluster.Shifts (cluster.onNode n act).2 := by
  unfold onNode
  cases found : cluster.find? n with
  | none => exact .still rfl
  | some node => exact acts node found

/-- A broadcast over a store that may just have been written. -/
theorem broadcast_shifts (quiet : before.Quiet P) (store : Store) (sender : Node)
    (message : Command) :
    before.Shifts ({ before with store }.broadcast sender message).2 := by
  have still : Quiet (fun _ _ _ => True) { before with store } := by
    exact (quiet.mono fun _ _ _ _ => trivial).of_nodes rfl
  exact (broadcast_sound still (fun _ _ _ _ => trivial) sender message).1.shifts

/-- A put opens and closes no partition. -/
theorem put_shifts (quiet : cluster.Quiet P) (sender : Node) (id : String) (request : PutRequest) :
    cluster.Shifts (cluster.put sender id request).2 := by
  cases accepted : cluster.accept sender id request with
  | error e =>
      rw [put, accepted]
      exact .still rfl
  | ok stored =>
      obtain ⟨definition, store⟩ := stored
      rw [(put_eq_of_accept accepted).2]
      exact broadcast_shifts quiet store sender (.reload id)

/-- A deletion opens and closes no partition. -/
theorem delete_shifts (quiet : cluster.Quiet P) (sender : Node) (id : String) :
    cluster.Shifts (cluster.delete sender id).2 := by
  rcases delete_cases cluster sender id with ⟨e, refused⟩ | ⟨deleted, store, _, deletes⟩
  · rw [refused]
    exact .still rfl
  · rw [deletes]
    exact broadcast_shifts quiet store sender (.clear (some id))

/-- A reload opens and closes no partition. -/
theorem reload_shifts (quiet : cluster.Quiet P) (sender : Node) (id : String) :
    cluster.Shifts (cluster.reload sender id).2 := by
  unfold reload
  split
  · exact .still rfl
  · exact broadcast_shifts quiet cluster.store sender (.reload id)

/-- A clearing opens and closes no partition. -/
theorem clear_shifts (quiet : cluster.Quiet P) (sender : Node) (id? : Option String) :
    cluster.Shifts (cluster.clear sender id?).2 := by
  unfold clear
  split
  · exact .still rfl
  · exact broadcast_shifts quiet cluster.store sender (.clear id?)

/-- Whatever is done to a cluster, each node opens or closes one partition at most. -/
theorem perform_shifts (quiet : cluster.Quiet P) (operation : Operation) :
    cluster.Shifts (cluster.perform operation).2 := by
  cases operation with
  | put sender id request => exact onNode_shifts fun node _ => put_shifts quiet node id request
  | delete sender id => exact onNode_shifts fun node _ => delete_shifts quiet node id
  | reload sender id => exact onNode_shifts fun node _ => reload_shifts quiet node id
  | clear sender id? => exact onNode_shifts fun node _ => clear_shifts quiet node id?
  | rewrite n request =>
      refine onNode_shifts fun node found => ?_
      obtain ⟨_, named, _⟩ := Node.rewriteQuery_sound
        (fun place inside => (quiet n node found place inside).mono fun _ _ _ => trivial)
        (fun key d (_ : cluster.store.Holds key d) => trivial) request
      exact .setNode found named (Node.rewriteQuery_shifts (quiet n node found) request _)
  | close n partition =>
      refine onNode_shifts fun node found => ?_
      exact .setNode found rfl (node.registry.close_shifts partition)
  | expire n place id =>
      refine onNode_shifts fun node found => ?_
      exact .setNode found rfl (node.registry.expire_shifts place id)
  | _ => exact .still rfl

end Cluster

/-- **Between operations every node is orderly.** -/
theorem Chronicle.orderly_state (chronicle : Chronicle) (t : Nat) {n : String} {node : Node}
    (found : (chronicle.state t).find? n = some node) : node.registry.Orderly := by
  have quiet (s : Nat) := (chronicle.quiet_state s).mono fun _ _ _ _ => trivial
  refine ⟨quiet t n node found, ?_⟩
  induction t generalizing node with
  | zero =>
      have opened := chronicle.fresh node (List.mem_of_find?_eq_some found)
      rw [Registry.handles, opened]
      exact List.nodup_nil
  | succ t ih =>
      obtain ⟨old, begun, shifts⟩ :=
        Cluster.perform_shifts (quiet t) (chronicle.operations t) n node found
      exact shifts.apart (quiet t n old begun) (ih begun)

end QueryRewriting
