import QueryRewriting.Proofs.Cluster.Chronicle
import QueryRewriting.Proofs.Cluster.Reads
import QueryRewriting.Proofs.Definition.Documents
import QueryRewriting.Proofs.Service.Surroundings
import QueryRewriting.Proofs.Text.Words

/-! # Writes are atomic

A put or a deletion that is answered with an error has done nothing: the cluster is as it was, and
nobody was told a command. One that is answered has changed the document of its id and nothing else
in the store, and then told every member one command. Whether it is answered is settled before the
first member is told, so it does not matter what becomes of the command. -/

namespace QueryRewriting

open Surroundings Chronicle

/-- A write that is answered with an error: nothing was done. -/
structure Refused (before after : Cluster) (deeds : List Deed) : Prop where
  unchanged : after = before
  silent : deeds = []

/-- A write that is answered: the store differs in the document of an id at most, and first the
store was written and then each member was told one command. -/
structure Completed (before after : Cluster) (sender : Node) (id : String) (document? : Option Json)
    (message : Command) (deeds : List Deed) : Prop where
  held : after.store.documents.get? id = document?
  others : ∀ other, other ≠ id →
    after.store.documents.get? other = before.store.documents.get? other
  available : after.store.available = before.store.available
  deeds : deeds = .wrote (before.store.write id document?) ::
    sender.memberIds.map fun n => .told n message

variable {cluster : Cluster} {sender : Node} {id : String} {message : Command} {store : Store}

/-! ## The store -/

/-- A deletion answers whether there was a document, and drops it. -/
theorem Surroundings.of_drop {deleted : Bool} {left : Store}
    (dropped : drop store id = .ok (deleted, left)) :
    deleted = (store.documents.get? id).isSome ∧ left = store.write id none := by
  unfold drop at dropped
  cases checked : checkId id with
  | error e =>
      rw [checked] at dropped
      cases dropped
  | ok _ =>
      rw [checked] at dropped
      cases erased : store.delete id with
      | error e =>
          rw [erased] at dropped
          cases dropped
      | ok result =>
          rw [erased] at dropped
          cases dropped
          exact Store.of_delete erased

/-- What is written before a broadcast is there after it. -/
theorem Cluster.notify_completed (cluster : Cluster) (sender : Node) (id : String)
    (document? : Option Json) (message : Command) :
    Completed cluster
      ({ cluster with store := cluster.store.write id document? }.notify sender message).2 sender id
      document? message
      (.wrote (cluster.store.write id document?) ::
        sender.memberIds.map fun n => .told n message) := by
  let written : Cluster := { cluster with store := cluster.store.write id document? }
  have keeps : written.store.Keeps (written.notify sender message).2.store :=
    written.broadcast_keeps sender message
  refine ⟨?_, fun other distinct => ?_, ?_, rfl⟩
  · rw [keeps.documents]
    exact Store.get?_write_self ..
  · rw [keeps.documents]
    exact Store.get?_write_of_ne distinct ..
  · rw [keeps.available]
    exact Store.available_write ..

/-- The definition of a request reads back from its document. -/
theorem PutRequest.find?_of_held {request : PutRequest} {definition : Definition}
    (named : request.definition id = .ok definition)
    (held : store.documents.get? id = some definition.toDocument)
    (ordered : (Json.object request.config).Ordered) (storable : request.config.Storable) :
    store.find? id = .ok (some definition) := by
  obtain ⟨_, visible, made⟩ := PutRequest.definition_eq_ok_iff.mp named
  have current : { definition with schemaVersion := currentVersion } = definition := by rw [made]
  have own : definition.id = id := by rw [made]
  have reads : Definition.ofDocument definition.id definition.toDocument = .ok definition := by
    refine (Definition.ofDocument_toDocument ?_ ?_ ?_).trans (congrArg Except.ok current) <;>
      rw [made]
    exacts [Text.isBlank_trim visible, ordered, storable]
  unfold Store.find?
  rw [held, ← own]
  simp only [reads]

/-- **Writes are atomic.** What is on record of a put or of a deletion is made by the put or the
deletion of the cluster itself. If it is answered with an error, the cluster is as it was and nobody
was told a command. If a put is answered, its definition was accepted and is what the store now
holds under the id, with nothing else changed in the store, and every member was told once to reload
the id. If a deletion is answered, it tells whether there was a document, which is gone, and every
member was told once to clear the id, also when there was none. A write that the store took is
answered whatever becomes of its command: in any surroundings, however the members carry it out,
fail or do not reply. -/
theorem writes_are_atomic (cluster : Cluster) (sender : Node) (id : String) :
    (∀ request response after deeds,
      Cluster.surroundings.recording.put sender id request (cluster, []) =
        (response, after, deeds) →
      cluster.put sender id request = (response, after) ∧
      (∀ e, response = .error e → Refused cluster after deeds) ∧
      ∀ stored, response = .ok stored → ∃ definition,
        request.definition id = .ok definition ∧
        sender.registry.kinds.check definition = .ok () ∧
        Completed cluster after sender id (some definition.toDocument) (.reload id) deeds ∧
        ((Json.object request.config).Ordered → request.config.Storable →
          after.store.find? id = .ok (some definition))) ∧
    (∀ response after deeds,
      Cluster.surroundings.recording.delete sender id (cluster, []) = (response, after, deeds) →
      cluster.delete sender id = (response, after) ∧
      (∀ e, response = .error e → Refused cluster after deeds) ∧
      ∀ dropped, response = .ok dropped →
        dropped.deleted = (cluster.store.documents.get? id).isSome ∧
        Completed cluster after sender id none (.clear (some id)) deeds) ∧
    ∀ (World : Type) (around : Surroundings World) (world : World),
      (∀ request definition store,
        accept (around.store world) sender id request = .ok (definition, store) →
        ∃ stored, (around.put sender id request world).1 = .ok stored) ∧
      ∀ deleted store, drop (around.store world) id = .ok (deleted, store) →
        ∃ dropped, (around.delete sender id world).1 = .ok dropped := by
  refine ⟨?_, ?_, fun World around world => ⟨?_, ?_⟩⟩
  · intro request response after deeds recorded
    have same : accept (Cluster.surroundings.store cluster) sender id request =
        cluster.accept sender id request := rfl
    have plain := cluster_put sender id request cluster
    rw [put, same] at plain
    rw [recording_put, same] at recorded
    cases accepted : cluster.accept sender id request with
    -- What is refused is refused before anything is written or told.
    | error e =>
        rw [accepted] at recorded plain
        cases recorded
        refine ⟨plain.symm, fun _ _ => ⟨rfl, rfl⟩, ?_⟩
        rintro _ ⟨⟩
    | ok result =>
        obtain ⟨definition, store⟩ := result
        rw [accepted] at recorded plain
        cases recorded
        obtain ⟨named, checked, _⟩ := Cluster.of_accept accepted
        obtain ⟨rfl, _⟩ := Cluster.put_eq_of_accept accepted
        have completed := cluster.notify_completed sender id (some definition.toDocument)
          (.reload id)
        rw [← cluster_notify] at completed
        refine ⟨plain.symm, ?_, fun _ _ => ⟨definition, named, checked, completed, ?_⟩⟩
        · rintro _ ⟨⟩
        · exact PutRequest.find?_of_held named completed.held
  · intro response after deeds recorded
    have plain := cluster_delete sender id cluster
    rw [delete] at plain
    rw [recording_delete] at recorded
    cases dropped : drop (Cluster.surroundings.store cluster) id with
    | error e =>
        rw [dropped] at recorded plain
        cases recorded
        refine ⟨plain.symm, fun _ _ => ⟨rfl, rfl⟩, ?_⟩
        rintro _ ⟨⟩
    | ok result =>
        obtain ⟨deleted, store⟩ := result
        rw [dropped] at recorded plain
        cases recorded
        obtain ⟨rfl, rfl⟩ := of_drop dropped
        have completed := cluster.notify_completed sender id none (.clear (some id))
        rw [← cluster_notify] at completed
        refine ⟨plain.symm, ?_, fun _ answered => ?_⟩
        · rintro _ ⟨⟩
        · cases answered
          exact ⟨rfl, completed⟩
  -- Whatever the members answer, a write that was done is answered.
  · intro request definition store accepted
    rw [put, accepted]
    exact ⟨_, rfl⟩
  · intro deleted store dropped
    rw [delete, dropped]
    exact ⟨_, rfl⟩

/-! ### Writes that reach nobody else -/

/-- A node with two peers. -/
def lonelyNode : Node := { startedNode "a" "b" with peers := [⟨"b", ""⟩, ⟨"c", ""⟩] }

/-- One peer of the node is down, and the other one does not reply. -/
def lonelyCluster : Cluster :=
  { Cluster.ofNodes .none [lonelyNode, startedNode "b" "a", startedNode "c" "a"] with
    down := ["b"], faults := [("c", .silent)] }

/-- A rewriter is put; one is put under an id that is none; and one is deleted that was never there.
-/
theorem lonelyCluster_written :
    (∃ stored after deeds,
      Cluster.surroundings.recording.put lonelyNode "r" ⟨"replace", labtopRules, none⟩
        (lonelyCluster, []) = (.ok stored, after, deeds) ∧
      after.store.find? "r" = .ok (some ⟨"r", "replace", labtopRules, none, 3⟩) ∧
      deeds.tail = [.told "a" (.reload "r"), .told "b" (.reload "r"), .told "c" (.reload "r")]) ∧
    (∃ e after deeds,
      Cluster.surroundings.recording.put lonelyNode "bad id" ⟨"replace", labtopRules, none⟩
        (lonelyCluster, []) = (.error e, after, deeds) ∧ Refused lonelyCluster after deeds) ∧
    ∃ dropped after deeds,
      Cluster.surroundings.recording.delete lonelyNode "gone" (lonelyCluster, []) =
        (.ok dropped, after, deeds) ∧
      dropped.deleted = false ∧
      Completed lonelyCluster after lonelyNode "gone" none (.clear (some "gone")) deeds := by
  refine ⟨?_, ?_, ?_⟩
  · rcases recorded : Cluster.surroundings.recording.put lonelyNode "r"
      ⟨"replace", labtopRules, none⟩ (lonelyCluster, []) with ⟨response, after, deeds⟩
    obtain ⟨plain, _, completed⟩ :=
      (writes_are_atomic lonelyCluster lonelyNode "r").1 _ _ _ _ recorded
    have answers : ∃ stored, (lonelyCluster.put lonelyNode "r"
        ⟨"replace", labtopRules, none⟩).1 = .ok stored := ⟨_, rfl⟩
    rw [plain] at answers
    obtain ⟨stored, rfl⟩ := answers
    obtain ⟨definition, named, _, completed, reads⟩ := completed stored rfl
    have trimmed : Text.trim "replace" = "replace" := by decide +kernel
    obtain ⟨_, _, rfl⟩ := PutRequest.definition_eq_ok_iff.mp named
    refine ⟨stored, after, deeds, rfl, ?_, ?_⟩
    · have found := reads rfl ⟨by decide, fun _ member => nomatch member⟩
      rwa [trimmed] at found
    · rw [completed.deeds]
      rfl
  · rcases recorded : Cluster.surroundings.recording.put lonelyNode "bad id"
      ⟨"replace", labtopRules, none⟩ (lonelyCluster, []) with ⟨response, after, deeds⟩
    obtain ⟨plain, refused, _⟩ :=
      (writes_are_atomic lonelyCluster lonelyNode "bad id").1 _ _ _ _ recorded
    have answers : ∃ e, (lonelyCluster.put lonelyNode "bad id"
        ⟨"replace", labtopRules, none⟩).1 = .error e := ⟨_, rfl⟩
    rw [plain] at answers
    obtain ⟨e, rfl⟩ := answers
    exact ⟨e, after, deeds, rfl, refused e rfl⟩
  · rcases recorded : Cluster.surroundings.recording.delete lonelyNode "gone"
      (lonelyCluster, []) with ⟨response, after, deeds⟩
    obtain ⟨plain, _, completed⟩ :=
      (writes_are_atomic lonelyCluster lonelyNode "gone").2.1 _ _ _ recorded
    have answers : ∃ dropped, (lonelyCluster.delete lonelyNode "gone").1 = .ok dropped := ⟨_, rfl⟩
    rw [plain] at answers
    obtain ⟨dropped, rfl⟩ := answers
    obtain ⟨absent, completed⟩ := completed dropped rfl
    exact ⟨dropped, after, deeds, rfl, absent.trans rfl, completed⟩

end QueryRewriting
