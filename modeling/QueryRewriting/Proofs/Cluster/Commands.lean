import QueryRewriting.Proofs.Cache.Sweeps
import QueryRewriting.Cluster

/-! # Commands on their way through a cluster

A command goes from member to member. What a member that acknowledged it knows of the ids that it
covers is what the store holds, and none of the members that come later undoes that.
-/

namespace QueryRewriting

/-- Whether a command is about an id: it names it, or it names none. -/
def Command.Covers (command : Command) (id : String) : Prop := ∀ only ∈ command.id?, only = id

/-- What holds after a command: of the ids that it covers, nothing is held but what the store
holds. -/
def Command.Obeyed (command : Command) (store : Store) (P : String → Definition → Prop)
    (key : String) (definition : Definition) : Prop :=
  (command.Covers key → store.Holds key definition) ∧ P key definition

/-- Whatever the store holds may be there after a command. -/
theorem Command.obeyed_of_holds {command : Command} {store : Store}
    {P : String → Definition → Prop} (fresh : ∀ key d, store.Holds key d → P key d) (key : String)
    (d : Definition) (holds : store.Holds key d) : command.Obeyed store P key d :=
  ⟨fun _ => holds, fresh key d holds⟩

theorem Command.Obeyed.congr {command : Command} {store other : Store}
    {P : String → Definition → Prop} (same : store.documents = other.documents) (key : String)
    (d : Definition) (obeyed : command.Obeyed store P key d) : command.Obeyed other P key d :=
  ⟨fun covered => (Store.holds_congr same).mp (obeyed.1 covered), obeyed.2⟩

/-! ## One node -/

namespace Node

variable {node : Node} {store : Store} {P : String → Definition → Prop}

/-- Clearing adds nothing, and leaves nothing that was to be cleared. -/
theorem clear_sound (store : Store) (node : Node) (id? : Option String)
    (quiet : node.registry.Quiet P) :
    (node.clear id?).1.nodeId = node.id ∧ (node.clear id?).2.id = node.id ∧
      Registry.Advances Registry.Nothing node.registry (node.clear id?).2.registry ∧
      (node.clear id?).2.registry.Quiet ((Command.clear id?).Obeyed store P) := by
  cases id? with
  | none =>
      obtain ⟨advances, emptied⟩ := node.registry.invalidateAll_sound
      exact ⟨rfl, rfl, advances, emptied P _ quiet⟩
  | some id =>
      obtain ⟨advances, dropped⟩ := Registry.invalidate_sound id node.registry
      refine ⟨rfl, rfl, advances, ?_⟩
      intro place member
      refine (dropped P quiet place member).mono fun key d known => ⟨?_, known.2⟩
      intro covered
      exact absurd (covered id rfl).symm known.1

/-- **A node that has carried out a command in time obeys it.** -/
theorem executeWithin_sound (quiet : node.registry.Quiet P)
    (fresh : ∀ key d, store.Holds key d → P key d) (delays : Delays) (time : Nat)
    (command : Command) :
    (node.executeWithin delays time command store).2.1.documents = store.documents ∧
      (node.executeWithin delays time command store).2.2.id = node.id ∧
      Registry.Advances store.Holds node.registry
        (node.executeWithin delays time command store).2.2.registry ∧
      ∀ reply, (node.executeWithin delays time command store).1 = some (.ok reply) →
        reply.nodeId = node.id ∧
          (node.executeWithin delays time command store).2.2.registry.Quiet
            (command.Obeyed store P) := by
  cases command with
  | clear id? =>
      obtain ⟨replies, named, advances, obeyed⟩ := clear_sound store node id? quiet
      refine ⟨rfl, named, advances.mono fun _ _ never => never.elim, ?_⟩
      intro reply answers
      cases answers
      exact ⟨replies, obeyed⟩
  | reload id =>
      obtain ⟨documents, advances, renewed⟩ :=
        Registry.reloadWithin_sound quiet fresh delays time id
      refine ⟨documents, rfl, advances, ?_⟩
      intro reply answers
      obtain ⟨outcome, ended, replied⟩ := Option.map_eq_some_iff.mp answers
      cases outcome with
      | error e => cases replied
      | ok count =>
          cases replied
          refine ⟨rfl, ?_⟩
          intro place member
          refine (renewed count ended place member).mono fun key d known => ⟨?_, known.2⟩
          intro covered
          exact known.1 (covered id rfl).symm

end Node

/-! ## Nodes by their ids -/

namespace Cluster

variable {cluster before after last : Cluster} {n : String} {node old : Node}

/-- A node that is found under an id has it. -/
theorem id_of_find? (found : cluster.find? n = some node) : node.id = n := by
  have named := List.find?_some found
  exact of_decide_eq_true named

/-- Under each id there is the node that was put there, or the one that was there before. -/
theorem find?_setNode (cluster : Cluster) (node : Node) (n : String) :
    (cluster.setNode node).find? n =
      (cluster.find? n).map fun old => if old.id = node.id then node else old := by
  have named : ((fun found : Node => decide (found.id = n)) ∘
      fun old : Node => if old.id = node.id then node else old) =
      fun old => decide (old.id = n) := by
    funext old
    by_cases same : old.id = node.id
    · simp [same]
    · simp [same]
  rw [find?, setNode, List.find?_map, named]
  rfl

/-- Replacing a node leaves the others. -/
theorem find?_setNode_of_ne (distinct : n ≠ node.id) :
    (cluster.setNode node).find? n = cluster.find? n := by
  rw [find?_setNode]
  cases found : cluster.find? n with
  | none => rfl
  | some old =>
      have other : old.id ≠ node.id := fun same => distinct ((id_of_find? found).symm.trans same)
      simp [other]

theorem find?_setNode_self (found : cluster.find? n = some old) (named : node.id = n) :
    (cluster.setNode node).find? n = some node := by
  rw [find?_setNode, found]
  simp [id_of_find? found, named]

/-! ## What a command leaves alone -/

/-- The caches of every node are quiet; `P` says for each node what is known of their instances. -/
def Quiet (P : String → String → Definition → Prop) (cluster : Cluster) : Prop :=
  ∀ n node, cluster.find? n = some node → node.registry.Quiet (P n)

/-- Commands went to some nodes: the store keeps its documents, and what was known of the instances
of a node is known of them still, if it is true of what `F` lets in. -/
structure Advances (F : String → Definition → Prop) (before after : Cluster) : Prop where
  documents : after.store.documents = before.store.documents
  nodes : ∀ n node, after.find? n = some node →
    ∃ old, before.find? n = some old ∧ old.registry.Advances F node.registry

variable {F : String → Definition → Prop} {P Q : String → String → Definition → Prop}

namespace Advances

theorem refl (cluster : Cluster) : Advances F cluster cluster :=
  ⟨rfl, fun _ node found => ⟨node, found, .refl node.registry⟩⟩

/-- What is added in two parts is added. -/
theorem trans (first : Advances F before after) (second : Advances F after last) :
    Advances F before last where
  documents := second.documents.trans first.documents
  nodes n node found := by
    obtain ⟨middle, met, later⟩ := second.nodes n node found
    obtain ⟨old, begun, earlier⟩ := first.nodes n middle met
    exact ⟨old, begun, earlier.trans later⟩

/-- What adds of one sort adds of every wider one. -/
theorem mono {G : String → Definition → Prop} (advances : Advances F before after)
    (weaker : ∀ key d, F key d → G key d) : Advances G before after where
  documents := advances.documents
  nodes n node found := by
    obtain ⟨old, begun, advances⟩ := advances.nodes n node found
    exact ⟨old, begun, advances.mono weaker⟩

/-- If whatever is added is as asked, a quiet cluster stays quiet. -/
theorem all (advances : Advances F before after) (fresh : ∀ n key d, F key d → P n key d)
    (quiet : before.Quiet P) : after.Quiet P := by
  intro n node found
  obtain ⟨old, begun, advances⟩ := advances.nodes n node found
  exact advances.all (fresh n) (quiet n old begun)

/-- One node has carried out something; the store keeps its documents. -/
theorem setNode {store : Store} (found : before.find? n = some old) (named : node.id = old.id)
    (documents : store.documents = before.store.documents)
    (advances : old.registry.Advances F node.registry) :
    Advances F before ({ before with store }.setNode node) where
  documents := documents
  nodes m other present := by
    have own : node.id = n := named.trans (id_of_find? found)
    have there : ({ before with store } : Cluster).find? n = some old := found
    by_cases same : m = n
    · subst same
      rw [find?_setNode_self there own] at present
      cases present
      exact ⟨old, there, advances⟩
    · rw [find?_setNode_of_ne (own ▸ same)] at present
      exact ⟨other, present, .refl other.registry⟩

end Advances

/-- The node under an id obeys a command. -/
def ObeyedBy (message : Command) (store : Store) (P : String → String → Definition → Prop)
    (cluster : Cluster) (n : String) : Prop :=
  ∀ node, cluster.find? n = some node → node.registry.Quiet (message.Obeyed store (P n))

/-- A member that has obeyed stays so while others do. -/
theorem ObeyedBy.advances {message : Command} {store : Store}
    (obeyed : ObeyedBy message store P before n) (advances : Advances store.Holds before after)
    (fresh : ∀ n key d, store.Holds key d → P n key d) : ObeyedBy message store P after n := by
  intro node found
  obtain ⟨old, begun, advances⟩ := advances.nodes n node found
  exact advances.all (Command.obeyed_of_holds (fresh n)) (obeyed old begun)

/-- Whether a member has obeyed depends on the documents of the store only. -/
theorem ObeyedBy.congr {message : Command} {store other : Store}
    (obeyed : ObeyedBy message store P cluster n) (same : store.documents = other.documents) :
    ObeyedBy message other P cluster n := by
  intro node found place inside
  refine (obeyed node found place inside).mono ?_
  exact Command.Obeyed.congr same

/-! ## Members -/

/-- A member that replies has obeyed, and nothing but what the store holds was added. -/
theorem command_sound (quiet : cluster.Quiet P)
    (fresh : ∀ n key d, cluster.store.Holds key d → P n key d) (timeout : Nat) (n : String)
    (message : Command) :
    Advances cluster.store.Holds cluster (cluster.command timeout n message).2 ∧
      ∀ reply, (cluster.command timeout n message).1 = .ok reply →
        reply.nodeId = n ∧
          ObeyedBy message cluster.store P (cluster.command timeout n message).2 n := by
  unfold command
  cases found : cluster.find? n with
  | none => exact ⟨.refl cluster, fun _ answers => nomatch answers⟩
  | some node =>
      have ran := Node.executeWithin_sound (quiet n node found) (fresh n) cluster.delays timeout
        message
      simp only
      generalize node.executeWithin cluster.delays timeout message cluster.store = result at ran ⊢
      obtain ⟨documents, named, advances, obeyed⟩ := ran
      refine ⟨Advances.setNode found named documents advances, ?_⟩
      intro reply answers
      split at answers
      · cases answers
      · cases answers
      · rename_i told replied
        cases answers
        obtain ⟨replies, obeyed⟩ := obeyed _ replied
        have own := id_of_find? found
        refine ⟨replies.trans own, ?_⟩
        intro last present
        have there : ({ cluster with store := result.2.1 } : Cluster).find? n = some node := found
        cases (find?_setNode_self there (named.trans own)).symm.trans present
        exact obeyed

/-- The same of a command on its way to a peer. -/
theorem send_sound (quiet : cluster.Quiet P)
    (fresh : ∀ n key d, cluster.store.Holds key d → P n key d) (timeout : Nat) (n : String)
    (message : Command) :
    Advances cluster.store.Holds cluster (cluster.send timeout n message).2 ∧
      ∀ reply, (cluster.send timeout n message).1 = .ok reply →
        reply.nodeId = n ∧
          ObeyedBy message cluster.store P (cluster.send timeout n message).2 n := by
  unfold send
  cases cluster.linkTo n with
  | sound => exact command_sound quiet fresh timeout n message
  | _ => exact ⟨.refl cluster, fun _ answers => nomatch answers⟩

/-- What the store holds later it held before. -/
theorem fresh_of_advances (advances : Advances F before after)
    (fresh : ∀ n key d, before.store.Holds key d → P n key d) (n : String) (key : String)
    (d : Definition) (holds : after.store.Holds key d) : P n key d :=
  fresh n key d ((Store.holds_congr advances.documents).mp holds)

/-- The same of a command to some peers, each of which has obeyed if it replies. -/
theorem sendAll_sound (peers : List Peer) (quiet : cluster.Quiet P)
    (fresh : ∀ n key d, cluster.store.Holds key d → P n key d) (timeout : Nat)
    (message : Command) :
    Advances cluster.store.Holds cluster (sendAll timeout message cluster peers).2 ∧
      ∀ n reply, (n, .ok reply) ∈ (sendAll timeout message cluster peers).1 →
        reply.nodeId = n ∧
          ObeyedBy message cluster.store P (sendAll timeout message cluster peers).2 n := by
  induction peers generalizing cluster with
  | nil => exact ⟨.refl cluster, fun _ _ member => nomatch member⟩
  | cons peer rest ih =>
      obtain ⟨first, own⟩ := send_sound quiet fresh timeout peer.nodeId message
      have onward := fresh_of_advances first fresh
      obtain ⟨others, later⟩ := ih (first.all fresh quiet) onward
      have same : ∀ key d, (cluster.send timeout peer.nodeId message).2.store.Holds key d →
          cluster.store.Holds key d := fun _ _ => (Store.holds_congr first.documents).mp
      have others := others.mono same
      refine ⟨first.trans others, ?_⟩
      intro n reply member
      rcases List.mem_cons.mp member with front | rear
      · obtain ⟨rfl, answers⟩ := Prod.mk.inj front
        obtain ⟨named, obeyed⟩ := own reply answers.symm
        exact ⟨named, obeyed.advances others fresh⟩
      · obtain ⟨named, obeyed⟩ := later n reply rear
        exact ⟨named, obeyed.congr first.documents⟩

/-- A reply is one of the outcomes. -/
theorem mem_of_mem_replies {outcomes : Broadcast.Outcomes} {reply : Reply}
    (listed : reply ∈ Broadcast.replies outcomes) : ∃ n, (n, .ok reply) ∈ outcomes := by
  obtain ⟨⟨n, outcome⟩, member, replied⟩ := List.mem_filterMap.mp listed
  cases outcome with
  | error e => cases replied
  | ok told =>
      cases replied
      exact ⟨n, member⟩

/-- Whoever is said to have succeeded has replied to this command. -/
theorem succeeded_of_collect {message : Command} {outcomes : Broadcast.Outcomes}
    {report : Broadcast} (collected : Broadcast.collect message outcomes = .ok report) :
    report.command = message ∧ report.succeeded = Broadcast.replies outcomes := by
  unfold Broadcast.collect at collected
  simp only at collected
  split at collected
  · cases collected
  · cases collected
    exact ⟨rfl, rfl⟩

/-- **Whoever is listed as having succeeded obeys the command**, and nothing is let in on any node
but what the store holds. -/
theorem broadcast_sound (quiet : cluster.Quiet P)
    (fresh : ∀ n key d, cluster.store.Holds key d → P n key d) (sender : Node)
    (message : Command) :
    Advances cluster.store.Holds cluster (cluster.broadcast sender message).2 ∧
      ∀ report, (cluster.broadcast sender message).1 = .ok report →
        report.command = message ∧ ∀ reply ∈ report.succeeded,
          ObeyedBy message cluster.store P (cluster.broadcast sender message).2 reply.nodeId := by
  obtain ⟨first, own⟩ := command_sound quiet fresh sender.requestTimeout sender.id message
  have onward := fresh_of_advances first fresh
  obtain ⟨others, later⟩ := sendAll_sound sender.peers (first.all fresh quiet) onward
    sender.requestTimeout message
  have same : ∀ key d,
      (cluster.command sender.requestTimeout sender.id message).2.store.Holds key d →
      cluster.store.Holds key d := fun _ _ => (Store.holds_congr first.documents).mp
  have others := others.mono same
  refine ⟨first.trans others, ?_⟩
  intro report collected
  obtain ⟨named, succeeded⟩ := succeeded_of_collect collected
  refine ⟨named, ?_⟩
  intro reply listed
  rw [succeeded] at listed
  obtain ⟨n, member⟩ := mem_of_mem_replies listed
  rcases List.mem_cons.mp member with front | rear
  · obtain ⟨rfl, answers⟩ := Prod.mk.inj front
    obtain ⟨named, obeyed⟩ := own reply answers.symm
    rw [named]
    exact obeyed.advances others fresh
  · obtain ⟨rfl, obeyed⟩ := later n reply rear
    exact obeyed.congr first.documents

end Cluster

end QueryRewriting
