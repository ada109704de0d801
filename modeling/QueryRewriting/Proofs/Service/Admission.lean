import QueryRewriting.Proofs.Cluster.Chronicle
import QueryRewriting.Proofs.Kind.Soundness

/-! # What is admitted can be used

A definition that is only to be checked is judged as one that is to be stored. What was stored
through the service reads back as it was sent and can be loaded on every partition, until the next
write. -/

namespace QueryRewriting

variable {cluster : Cluster} {sender : Node} {id : String} {request : PutRequest}

/-! ## Checking and storing -/

/-- A definition can be examined unless its kind is not known. -/
theorem Kinds.problems_error {kinds : Kinds} {definition : Definition} {e : RewriterError}
    (fails : kinds.problems definition = .error e) : e = .unknownKind definition.kind := by
  unfold problems at fails
  cases found : kinds.resolve definition.kind with
  | error other =>
      rw [found] at fails
      cases fails
      unfold resolve at found
      split at found
      · cases found
      · cases found
        rfl
  | ok kind =>
      rw [found] at fails
      cases fails

/-- A request of which no definition can be made is invalid as such. -/
theorem PutRequest.definition_error {e : ServiceError} (fails : request.definition id = .error e) :
    ∃ message, e = .invalidRequest message := by
  unfold PutRequest.definition at fails
  cases checked : checkId id with
  | error other =>
      rw [checked] at fails
      cases fails
      unfold checkId at checked
      split at checked
      · cases checked
        exact ⟨_, rfl⟩
      · cases checked
  | ok _ =>
      rw [checked] at fails
      simp only [bind, Except.bind] at fails
      split at fails
      · cases fails
        exact ⟨_, rfl⟩
      · cases fails

/-- What has no problems is accepted, and what has some is refused with all of them. -/
theorem Kinds.check_eq (kinds : Kinds) (definition : Definition) :
    kinds.check definition =
      match kinds.problems definition with
      | .ok [] => .ok ()
      | .ok (first :: rest) => .error (.invalidConfig definition.id (first :: rest))
      | .error e => .error e := by
  unfold check
  cases kinds.problems definition with
  | error e => rfl
  | ok messages => cases messages <;> rfl

/-- There is nothing to say against a definition that is accepted. -/
theorem Kinds.problems_of_check {kinds : Kinds} {definition : Definition}
    (checked : kinds.check definition = .ok ()) : kinds.problems definition = .ok [] := by
  rw [Kinds.check_eq] at checked
  split at checked
  · assumption
  · cases checked
  · cases checked

namespace Cluster

/-- What a put answers depends on its definition alone, as long as the store works. -/
theorem put_of_refused {e : ServiceError} (refused : request.definition id = .error e) :
    (cluster.put sender id request).1 = .error e := by
  have fails : cluster.accept sender id request = .error e := by
    rw [accept, refused]
    rfl
  rw [put, fails]

/-- A put of a faulty definition is refused with its faults. -/
theorem put_of_faulty {definition : Definition} {e : RewriterError}
    (named : request.definition id = .ok definition)
    (faulty : sender.registry.kinds.check definition = .error e) :
    (cluster.put sender id request).1 = .error (.ofRewriter e) := by
  have fails : cluster.accept sender id request = .error (.ofRewriter e) := by
    simp only [accept, named, bind, Except.bind, faulty]
    rfl
  rw [put, fails]

/-- A put of an accepted definition is stored while the store works. -/
theorem put_of_checked {definition : Definition} (works : cluster.store.available = true)
    (named : request.definition id = .ok definition)
    (checked : sender.registry.kinds.check definition = .ok ()) :
    ∃ stored, (cluster.put sender id request).1 = .ok stored := by
  have written : ∃ store, cluster.store.put definition = .ok store := by
    rw [Store.put_eq, if_pos works]
    exact ⟨_, rfl⟩
  obtain ⟨store, written⟩ := written
  have accepted : cluster.accept sender id request = .ok (definition, store) := by
    simp only [accept, named, bind, Except.bind, checked, written]
    rfl
  exact ⟨_, congrArg Prod.fst (put_eq_of_accept accepted).2⟩

/-- **A definition is checked as it would be put.** -/
theorem put_of_validate (works : cluster.store.available = true) :
    (∀ response, sender.registry.kinds.validate id request = .ok response →
      (response.valid = true ↔ ∃ stored, (cluster.put sender id request).1 = .ok stored) ∧
        (response.valid = false →
          (cluster.put sender id request).1 =
              .error (.load (.rewriter (.invalidConfig id response.errors))) ∨
            ∃ kind, (cluster.put sender id request).1 =
                .error (.load (.rewriter (.unknownKind kind))) ∧
              response.errors = [(RewriterError.unknownKind kind).message])) ∧
    ∀ e, sender.registry.kinds.validate id request = .error e →
      (∃ message, e = .invalidRequest message) ∧ (cluster.put sender id request).1 = .error e := by
  unfold Kinds.validate
  -- Both sides take the same steps: read the definition, find its kind, look for problems.
  cases named : request.definition id with
  | error refusal =>
      refine ⟨fun _ answers => (nomatch answers), ?_⟩
      intro e answers
      cases answers
      exact ⟨PutRequest.definition_error named, put_of_refused named⟩
  | ok definition =>
      have same : definition.id = id := by
        obtain ⟨_, _, rfl⟩ := PutRequest.definition_eq_ok_iff.mp named
        rfl
      have checked := sender.registry.kinds.check_eq definition
      simp only [bind, Except.bind]
      cases problems : sender.registry.kinds.problems definition with
      | error e =>
          cases Kinds.problems_error problems
          rw [problems] at checked
          have refused : (cluster.put sender id request).1 = _ := put_of_faulty named checked
          refine ⟨?_, fun _ answers => (nomatch answers)⟩
          intro response answers
          cases answers
          refine ⟨?_, fun _ => Or.inr ⟨definition.kind, refused, rfl⟩⟩
          rw [refused]
          exact ⟨nofun, nofun⟩
      | ok messages =>
          rw [problems] at checked
          refine ⟨?_, fun _ answers => (nomatch answers)⟩
          intro response answers
          cases answers
          cases messages with
          | nil =>
              have stored : ∃ stored, (cluster.put sender id request).1 = .ok stored :=
                put_of_checked works named checked
              exact ⟨⟨fun _ => stored, fun _ => rfl⟩, nofun⟩
          | cons first rest =>
              have refused : (cluster.put sender id request).1 = _ := put_of_faulty named checked
              rw [same] at refused
              refine ⟨?_, fun _ => Or.inl refused⟩
              rw [refused]
              exact ⟨nofun, nofun⟩

/-! ## Using what was stored -/

/-- What the store holds it shows while it works. -/
theorem definition_of_holds {definition : Definition} (works : cluster.store.available = true)
    (valid : checkId id = .ok ()) (holds : cluster.store.Holds id definition) :
    (cluster.definition id).1 = .ok definition := by
  have reply : (cluster.store.get id).1 = .ok (some definition) := by
    rw [Store.get_eq, if_pos works]
    exact holds
  simp only [Cluster.definition, Store.definition, valid, reply]

end Cluster

namespace Chronicle

variable {chronicle : Chronicle} {n : String} {node : Node} {j t : Nat}

/-- What was put is loadable, and the store holds it until the next write. -/
theorem holds_of_stored {stored : PutResponse} (put : chronicle.operations j = .put n id request)
    (there : (chronicle.state j).find? n = some node)
    (answers : ((chronicle.state j).put node id request).1 = .ok stored)
    (sound : node.registry.kinds.Sound) (ordered : (Json.object request.config).Ordered)
    (survive : ∀ x ∈ (Json.object request.config).numbers, x.Survives) (later : j < t)
    (unwritten : chronicle.Unwritten id (j + 1) t) :
    ∃ accepted, request.definition id = .ok accepted ∧
      (∃ rewriter, node.registry.kinds.load id accepted = .ok rewriter) ∧
      (chronicle.state t).store.Holds id accepted := by
  have sent : chronicle.report j = some stored.invalidation := by
    rw [report, put, Cluster.perform, Cluster.onNode, there]
    simp only [answers]
    rfl
  obtain ⟨accepted, named, held⟩ := holds_of_put put sent
  refine ⟨accepted, named, ?_⟩
  cases taken : (chronicle.state j).accept node id request with
  | error e =>
      rw [Cluster.put, taken] at answers
      cases answers
  | ok result =>
      obtain ⟨definition, store⟩ := result
      obtain ⟨same, checked, _⟩ := Cluster.of_accept taken
      cases named.symm.trans same
      obtain ⟨loads, visible, shallow⟩ :=
        Kinds.loads_of_problems sound (Kinds.problems_of_check checked)
      obtain ⟨_, _, rfl⟩ := PutRequest.definition_eq_ok_iff.mp named
      refine ⟨loads, ?_⟩
      have reads := Definition.ofDocument_toDocument visible ordered ⟨shallow ordered, survive⟩
      have holds := (held _).mpr reads
      exact (find?_of_unwritten unwritten later (Nat.le_refl t)).trans holds

end Chronicle

/-- **What the service admits always loads.** A definition is judged as one to be stored whenever it
is only to be checked, and with the same faults. Once it was stored, and until something else is
written under its id, it reads back as it was sent, and every partition of every node finds an
instance. -/
theorem admitted_loads :
    (∀ (cluster : Cluster) (sender : Node) (id : String) (request : PutRequest),
      sender.registry.kinds = .builtin → cluster.store.available = true →
      (∀ response, Kinds.builtin.validate id request = .ok response →
        (response.valid = true ↔ ∃ stored, (cluster.put sender id request).1 = .ok stored) ∧
          (response.valid = false →
            (cluster.put sender id request).1 =
                .error (.load (.rewriter (.invalidConfig id response.errors))) ∨
              ∃ kind, (cluster.put sender id request).1 =
                  .error (.load (.rewriter (.unknownKind kind))) ∧
                response.errors = [(RewriterError.unknownKind kind).message])) ∧
      ∀ e, Kinds.builtin.validate id request = .error e →
        (∃ message, e = .invalidRequest message) ∧
          (cluster.put sender id request).1 = .error e) ∧
    ∀ (chronicle : Chronicle) (j t : Nat) (n id : String) (request : PutRequest) (sender : Node)
      (stored : PutResponse),
      (∀ node ∈ chronicle.start.nodes, node.registry.kinds = .builtin) →
      chronicle.operations j = .put n id request → (chronicle.state j).find? n = some sender →
      ((chronicle.state j).put sender id request).1 = .ok stored →
      (Json.object request.config).Ordered →
      (∀ x ∈ (Json.object request.config).numbers, x.Survives) →
      j < t → chronicle.Unwritten id (j + 1) t → (chronicle.state t).store.available = true →
      ((chronicle.state t).definition id).1 =
          .ok ⟨id, Text.trim request.kind, request.config, request.logging, currentVersion⟩ ∧
        ∀ m node partition, (chronicle.state t).find? m = some node →
          ∃ made, ((node.registry.getOrCreate partition).2.lookup
            (node.registry.getOrCreate partition).1 id (chronicle.state t).store).1 = .ok made := by
  constructor
  · intro cluster sender id request builtin works
    rw [← builtin]
    exact Cluster.put_of_validate works
  · intro chronicle j t n id request sender stored builtin put there answers ordered survive later
      unwritten works
    have known (moment : Nat) (m : String) (node : Node)
        (found : (chronicle.state moment).find? m = some node) :
        node.registry.kinds = .builtin := by
      obtain ⟨old, begun, same⟩ := Chronicle.kinds_state found
      exact same.trans (builtin old (List.mem_of_find?_eq_some begun))
    have sound : sender.registry.kinds.Sound := known j n sender there ▸ Kinds.builtin_sound
    obtain ⟨accepted, named, ⟨rewriter, loads⟩, holds⟩ :=
      Chronicle.holds_of_stored put there answers sound ordered survive later unwritten
    obtain ⟨valid, _, rfl⟩ := PutRequest.definition_eq_ok_iff.mp named
    refine ⟨Cluster.definition_of_holds works valid holds, ?_⟩
    intro m node partition found
    have quiet := chronicle.quiet_state t m node found
    obtain ⟨kinds, opened, inside⟩ := quiet.getOrCreate partition
    obtain ⟨cache, present, quiet⟩ := opened _ inside
    rw [kinds, known t m node found] at quiet
    rw [known j n sender there] at loads
    rw [Registry.lookup, present, kinds, known t m node found]
    exact quiet.lookup_ok works holds loads

open Chronicle in
/-- The request that a chronicle begins with, checked and put, and the same rules for a kind that
takes none. -/
theorem labtop_admitted :
    (∃ stored, ((putAndDeleted.state 0).put (startedNode "a" "b") "r"
        ⟨"replace", labtopRules, none⟩).1 = .ok stored) ∧
      ((putAndDeleted.state 0).put (startedNode "a" "b") "r" ⟨"noop", labtopRules, none⟩).1 =
        .error (.load (.rewriter (.invalidConfig "r"
          ["noop does not accept config key \"rules\"."]))) ∧
      ((putAndDeleted.state 1).definition "r").1 = .ok ⟨"r", "replace", labtopRules, none, 3⟩ ∧
      ∃ node, (putAndDeleted.state 1).find? "b" = some node ∧ ∀ partition,
        ∃ made, ((node.registry.getOrCreate partition).2.lookup
          (node.registry.getOrCreate partition).1 "r" (putAndDeleted.state 1).store).1 =
            .ok made := by
  obtain ⟨checked, loads⟩ := admitted_loads
  have valid : Kinds.builtin.validate "r" ⟨"replace", labtopRules, none⟩ = .ok ⟨"r", []⟩ := by
    rfl
  have invalid : Kinds.builtin.validate "r" ⟨"noop", labtopRules, none⟩ =
      .ok ⟨"r", ["noop does not accept config key \"rules\"."]⟩ := by
    rfl
  have stores := ((checked (putAndDeleted.state 0) (startedNode "a" "b") "r" _ rfl rfl).1 _
    valid).1.mp rfl
  refine ⟨stores, ?_, ?_⟩
  · have refused := ((checked (putAndDeleted.state 0) (startedNode "a" "b") "r" _ rfl rfl).1 _
      invalid).2 rfl
    refine refused.resolve_right ?_
    rintro ⟨kind, _, same⟩
    have written : (RewriterError.unknownKind kind).message =
        "Unknown rewriter kind " ++ Text.quoted kind ++ "." := rfl
    have front : "Unknown rewriter kind ".toList.head? = some 'U' := by decide +kernel
    have first : "noop does not accept config key \"rules\".".toList.head? = _ :=
      congrArg (fun text => text.toList.head?) (List.cons.inj same).1
    rw [written, String.toList_append, String.toList_append, List.append_assoc, List.head?_append,
      front, Option.some_or] at first
    revert first
    decide +kernel
  · obtain ⟨stored, answers⟩ := stores
    obtain ⟨reads, found⟩ := loads putAndDeleted 0 1 "a" "r" ⟨"replace", labtopRules, none⟩
      (startedNode "a" "b") stored
      (by simp [putAndDeleted, Cluster.ofNodes, startedNode, Registry.empty]) rfl rfl answers rfl
      (fun _ member => nomatch member) (by decide)
      (fun i late early => absurd early (Nat.not_lt.mpr late)) (by decide +kernel)
    have trimmed : Text.trim "replace" = "replace" := by decide +kernel
    rw [trimmed] at reads
    have there : ((putAndDeleted.state 1).find? "b").isSome = true := by decide +kernel
    obtain ⟨node, there⟩ := Option.isSome_iff_exists.mp there
    refine ⟨reads, node, there, ?_⟩
    exact fun partition => found "b" node partition there

end QueryRewriting
