import QueryRewriting.Proofs.Cluster.Commands
import QueryRewriting.Service.Admin

/-! # What a broadcast accounts for

The ids of the members that accepted settings name are distinct. Whatever becomes of a command on
each of the members, the answer lists every member: in a report it is listed once, under the
successes or under the failures, and an answer that no member was reached lists all of them. -/

namespace QueryRewriting

/-! ## Members -/

namespace Settings

/-- Two checks one after the other are passed if both are. -/
theorem andThen_eq_ok_iff {ε : Type} {first next : Except ε Unit} :
    (first >>= fun _ => next) = .ok () ↔ first = .ok () ∧ next = .ok () := by
  cases first <;> simp [bind, Except.bind]

/-- A refusal on a condition is passed if the condition does not hold. -/
theorem refuse_eq_ok_iff {condition : Bool} {fault : Fault} :
    refuse condition fault = .ok () ↔ condition = false := by
  cases condition <;> simp [refuse]

/-- Accepted peers differ from the node, from those before and from each other. -/
theorem nodup_of_checkPeers {nodeId : String} {seen : List String} {peers : List Peer}
    (accepted : checkPeers nodeId seen peers = .ok ()) :
    (∀ peer ∈ peers, peer.nodeId ≠ nodeId ∧ peer.nodeId ∉ seen) ∧
      (peers.map (·.nodeId)).Nodup := by
  induction peers generalizing seen with
  | nil => exact ⟨fun _ member => (List.not_mem_nil member).elim, List.nodup_nil⟩
  | cons peer rest ih =>
      simp only [checkPeers, andThen_eq_ok_iff, refuse_eq_ok_iff] at accepted
      obtain ⟨_, other, unseen, _, accepted⟩ := accepted
      obtain ⟨apart, distinct⟩ := ih accepted
      refine ⟨List.forall_mem_cons.mpr ⟨⟨of_decide_eq_false other, ?_⟩, ?_⟩, ?_⟩
      · simpa using unseen
      · intro later member
        obtain ⟨foreign, unseen⟩ := apart later member
        exact ⟨foreign, fun known => unseen (List.mem_cons_of_mem peer.nodeId known)⟩
      · rw [List.map_cons, List.nodup_cons]
        refine ⟨fun again => ?_, distinct⟩
        obtain ⟨later, member, same⟩ := List.mem_map.mp again
        exact (apart later member).2 (same ▸ List.mem_cons_self)

/-- The members that accepted settings name are distinct. -/
theorem nodup_of_check {s : Settings} (accepted : s.check = .ok ()) :
    (s.nodeId :: s.peers.map (·.nodeId)).Nodup := by
  simp only [check, andThen_eq_ok_iff] at accepted
  obtain ⟨_, _, _, _, _, _, _, _, _, peers, _⟩ := accepted
  obtain ⟨apart, distinct⟩ := nodup_of_checkPeers peers
  rw [List.nodup_cons]
  refine ⟨fun own => ?_, distinct⟩
  obtain ⟨peer, member, same⟩ := List.mem_map.mp own
  exact (apart peer member).1 same

end Settings

/-- The members that a node knows are those of its settings, itself first. -/
theorem Node.memberIds_of_ofSettings {kinds : Kinds} {s : Settings} {node : Node}
    (made : Node.ofSettings kinds s = .ok node) :
    node.memberIds = s.nodeId :: s.peers.map (·.nodeId) := by
  unfold ofSettings at made
  simp only [bind, Except.bind] at made
  split at made
  · cases made
  · cases made
    rfl

/-! ## Outcomes -/

/-- Nobody was reached: there is no reply, and no error that the member reported itself. -/
def Unreached : Except ClusterError Reply → Prop
  | .ok _ => False
  | .error (.nodeError _ _) => False
  | .error _ => True

namespace Broadcast

/-- A report on some members, each of which is listed under its successes or under its failures, in
the order of the members. -/
structure Lists (message : Command) (members : List String)
    (outcome : String → Except ClusterError Reply) (report : Broadcast) : Prop where
  command : report.command = message
  succeeded : report.succeeded.map (·.nodeId) = members.filter fun n => (outcome n).isOk
  failed : report.failed.map (·.nodeId) = members.filter fun n => !(outcome n).isOk

variable {message : Command} {members : List String}
  {outcome : String → Except ClusterError Reply} {report : Broadcast}

/-- Each member is listed once. -/
theorem Lists.perm (lists : report.Lists message members outcome) :
    (report.succeeded.map (·.nodeId) ++ report.failed.map (·.nodeId)).Perm members := by
  rw [lists.succeeded, lists.failed]
  exact List.filter_append_perm _ members

/-- A report without failures lists all members as having succeeded. -/
theorem Lists.complete (lists : report.Lists message members outcome)
    (complete : report.failed = []) : report.succeeded.map (·.nodeId) = members := by
  have failed := lists.failed
  rw [complete, List.map_nil, eq_comm, List.filter_eq_nil_iff] at failed
  rw [lists.succeeded, List.filter_eq_self]
  intro n member
  simpa using failed n member

/-- What an answer to a command accounts for: a report lists the members, and without one no member
was reached and all of them have failed. -/
structure Accounts (message : Command) (members : List String)
    (outcome : String → Except ClusterError Reply) (answer : Except ClusterError Broadcast) :
    Prop where
  reported : ∀ report, answer = .ok report → report.Lists message members outcome
  unreached : ∀ e, answer = .error e →
    ∃ failed, e = .noNodesReachable failed ∧ failed.map (·.nodeId) = members
  error_iff : (∃ e, answer = .error e) ↔ ∀ n ∈ members, Unreached (outcome n)

/-- A failure names the member that it happened on. -/
theorem nodeId_ofError (n : String) (e : ClusterError) : (Failure.ofError n e).nodeId = n := by
  cases e <;> rfl

/-- A failure counts as not reached if its error does. -/
theorem kind_ofError_iff (n : String) (e : ClusterError) :
    (Failure.ofError n e).kind = .unreachable ↔ Unreached (.error e) := by
  cases e <;> simp [Failure.ofError, Unreached]

section Outcomes

variable {n : String} {reply : Reply} {e : ClusterError} {rest : Outcomes}

@[simp] theorem replies_ok : replies ((n, .ok reply) :: rest) = reply :: replies rest := rfl

@[simp] theorem replies_error : replies ((n, .error e) :: rest) = replies rest := rfl

@[simp] theorem failures_ok : failures ((n, .ok reply) :: rest) = failures rest := rfl

@[simp] theorem failures_error :
    failures ((n, .error e) :: rest) = .ofError n e :: failures rest := rfl

end Outcomes

/-- Those who have replied, in the order of the members. -/
theorem nodeIds_replies
    (named : ∀ n ∈ members, ∀ reply, outcome n = .ok reply → reply.nodeId = n) :
    (replies (members.map fun n => (n, outcome n))).map (·.nodeId) =
      members.filter fun n => (outcome n).isOk := by
  induction members with
  | nil => rfl
  | cons n rest ih =>
      have later := ih fun other member => named other (List.mem_cons_of_mem n member)
      rw [List.map_cons]
      cases ended : outcome n with
      | ok reply =>
          rw [replies_ok, List.map_cons, named n List.mem_cons_self reply ended, later]
          refine (List.filter_cons_of_pos ?_).symm
          rw [ended]
          rfl
      | error e =>
          rw [replies_error, later]
          refine (List.filter_cons_of_neg ?_).symm
          rw [ended]
          exact Bool.false_ne_true

/-- Those who have failed, in the order of the members. -/
theorem nodeIds_failures :
    (failures (members.map fun n => (n, outcome n))).map (·.nodeId) =
      members.filter fun n => !(outcome n).isOk := by
  induction members with
  | nil => rfl
  | cons n rest ih =>
      rw [List.map_cons]
      cases ended : outcome n with
      | ok reply =>
          rw [failures_ok, ih]
          refine (List.filter_cons_of_neg ?_).symm
          rw [ended]
          exact Bool.false_ne_true
      | error e =>
          rw [failures_error, List.map_cons, nodeId_ofError, ih]
          refine (List.filter_cons_of_pos ?_).symm
          rw [ended]
          rfl

/-- Nobody was reached exactly if every outcome says so. -/
theorem silent_iff :
    ((replies (members.map fun n => (n, outcome n))).isEmpty &&
        (failures (members.map fun n => (n, outcome n))).all (·.kind = .unreachable)) = true ↔
      ∀ n ∈ members, Unreached (outcome n) := by
  induction members with
  | nil => simp [replies, failures]
  | cons n rest ih =>
      rw [List.forall_mem_cons, ← ih, List.map_cons]
      cases ended : outcome n with
      | ok reply => simp [Unreached]
      | error e =>
          rw [replies_error, failures_error, List.all_cons, ← kind_ofError_iff n e]
          simp only [Bool.and_eq_true, decide_eq_true_eq]
          exact and_left_comm

/-- **The answer to a command accounts for every member.** -/
theorem accounts_collect (message : Command)
    (named : ∀ n ∈ members, ∀ reply, outcome n = .ok reply → reply.nodeId = n) :
    Accounts message members outcome
      (collect message (members.map fun n => (n, outcome n))) := by
  have silent := @silent_iff members outcome
  unfold collect
  simp only
  split
  · rename_i unreached
    have all := silent.mp unreached
    refine ⟨nofun, ?_, iff_of_true ⟨_, rfl⟩ all⟩
    rintro _ ⟨⟩
    refine ⟨_, rfl, ?_⟩
    rw [nodeIds_failures, List.filter_eq_self]
    intro n member
    cases ended : outcome n with
    | ok reply => exact (ended ▸ all n member : Unreached (.ok reply)).elim
    | error e => rfl
  · rename_i reached
    refine ⟨?_, nofun, iff_of_false (fun ⟨e, fails⟩ => nomatch fails) (reached ∘ silent.mpr)⟩
    rintro _ ⟨⟩
    exact ⟨rfl, nodeIds_replies named, nodeIds_failures⟩

/-- What is told of a command whose failure undoes nothing: an answer that nobody was reached is a
report too. -/
def bestEffort (message : Command) : Except ClusterError Broadcast → Broadcast
  | .ok report => report
  | .error (.noNodesReachable failed) => { command := message, succeeded := [], failed }
  | .error _ => { command := message, succeeded := [], failed := [] }

/-- What is told of a command lists every member that the answer accounts for. -/
theorem Accounts.bestEffort {answer : Except ClusterError Broadcast}
    (accounts : Accounts message members outcome answer) :
    (bestEffort message answer).Lists message members outcome := by
  cases answer with
  | ok report => exact accounts.reported report rfl
  | error e =>
      obtain ⟨failed, rfl, listed⟩ := accounts.unreached e rfl
      have unreached := accounts.error_iff.mp ⟨_, rfl⟩
      have none (n : String) (member : n ∈ members) : (outcome n).isOk = false := by
        cases ended : outcome n with
        | ok reply => exact (ended ▸ unreached n member : Unreached (.ok reply)).elim
        | error e => rfl
      refine ⟨rfl, ?_, ?_⟩
      · refine (List.filter_eq_nil_iff.mpr fun n member => ?_).symm
        simp [none n member]
      · refine listed.trans (List.filter_eq_self.mpr fun n member => ?_).symm
        simp [none n member]

end Broadcast

end QueryRewriting
