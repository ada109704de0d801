import QueryRewriting.Kind.Builtin
import QueryRewriting.Proofs.Cluster.Operations
import QueryRewriting.Proofs.Definition.Documents

/-! # Chronicles of a cluster

A cluster goes from one completed operation to the next; time counts operations. Every definition
that a node runs, the store held at a moment after the last command about it that the node
acknowledged. So a definition that was put, and put last, is the one that runs, and one that was
deleted runs no more.
-/

namespace QueryRewriting

/-- A cluster whose nodes serve no partition at first, and what is done to it. -/
structure Chronicle where
  start : Cluster
  fresh : ∀ node ∈ start.nodes, node.registry.opened = []
  operations : Nat → Operation

namespace Chronicle

/-- The cluster when so many operations have been completed. -/
def state (chronicle : Chronicle) : Nat → Cluster
  | 0 => chronicle.start
  | t + 1 => ((chronicle.state t).perform (chronicle.operations t)).2

/-- The report of the command that an operation sends, if it sends one. -/
def report (chronicle : Chronicle) (t : Nat) : Option Broadcast :=
  ((chronicle.state t).perform (chronicle.operations t)).1

/-- A node acknowledges a command about an id: the report lists it as having succeeded. -/
def Acknowledged (chronicle : Chronicle) (n id : String) (t : Nat) : Prop :=
  ∃ report, chronicle.report t = some report ∧ report.command.Covers id ∧
    ∃ reply ∈ report.succeeded, reply.nodeId = n

/-- Whether an id was acknowledged can be found out by looking at every time up to the last. -/
instance (chronicle : Chronicle) (n id : String) (t : Nat) :
    Decidable (chronicle.Acknowledged n id t) :=
  inferInstanceAs (Decidable (∃ report ∈ chronicle.report t,
    (∀ only ∈ report.command.id?, only = id) ∧ ∃ reply ∈ report.succeeded, reply.nodeId = n))

/-- A node serves a request to rewrite a query. -/
structure Serves (chronicle : Chronicle) (n : String) (t : Nat) (node : Node)
    (request : RewriteRequest) : Prop where
  asked : chronicle.operations t = .rewrite n request
  there : (chronicle.state t).find? n = some node

/-- A node that serves a request runs a rewriter for it. -/
def Runs (chronicle : Chronicle) (n : String) (t : Nat) (node : Node) (application : Application) :
    Prop :=
  ∃ request, chronicle.Serves n t node request ∧
    application ∈ node.applications request (chronicle.state t).store

/-- From one time to another nothing is written under an id. -/
def Unwritten (chronicle : Chronicle) (id : String) (since bound : Nat) : Prop :=
  ∀ i, since ≤ i → i < bound → ¬ (chronicle.operations i).Writes id

/-- A definition that the store held up to a time, at a moment after all commands about it that a
node acknowledged before another. -/
def Held (chronicle : Chronicle) (time told : Nat) (n key : String) (definition : Definition) :
    Prop :=
  ∃ m ≤ time, (chronicle.state m).store.Holds key definition ∧
    ∀ j < told, chronicle.Acknowledged n key j → j < m

variable {chronicle : Chronicle} {n id key : String} {t since : Nat} {node : Node}
  {definition : Definition}

/-- What the store holds now was held at some time that a node may know of. -/
theorem held_of_holds {told : Nat} (bound : told ≤ t)
    (holds : (chronicle.state t).store.Holds key definition) :
    chronicle.Held t told n key definition :=
  ⟨t, Nat.le_refl t, holds, fun _ before _ => Nat.lt_of_lt_of_le before bound⟩

/-- A command that a node did not acknowledge, or that was not about the id, changes nothing. -/
theorem Held.of_not_acknowledged (held : chronicle.Held (t + 1) t n key definition)
    (silent : ¬ chronicle.Acknowledged n key t) :
    chronicle.Held (t + 1) (t + 1) n key definition := by
  obtain ⟨m, before, holds, after⟩ := held
  refine ⟨m, before, holds, fun j earlier acknowledged => ?_⟩
  rcases Nat.lt_succ_iff_lt_or_eq.mp earlier with past | rfl
  · exact after j past acknowledged
  · exact absurd acknowledged silent

/-- At first every cache is quiet, for none holds anything. -/
theorem quiet_start (P : String → String → Definition → Prop) : chronicle.start.Quiet P := by
  intro n node found place inside
  have opened := chronicle.fresh node (List.mem_of_find?_eq_some found)
  rw [Registry.handles, opened] at inside
  cases inside

/-- What an operation comes to in the course of a chronicle. -/
theorem settles_of_quiet (quiet : (chronicle.state t).Quiet (chronicle.Held t t)) :
    Cluster.Settles (chronicle.Held (t + 1) t) (chronicle.operations t) (chronicle.state t)
      (chronicle.report t) (chronicle.state (t + 1)) := by
  refine Cluster.perform_settles (quiet.mono ?_) (chronicle.operations t) ?_
  · rintro n key d ⟨m, before, held⟩
    exact ⟨m, Nat.le_succ_of_le before, held⟩
  · intro n key d holds
    exact held_of_holds (Nat.le_succ t) holds

/-- What is known of a node's instances from before is joined by what it has just acknowledged. -/
theorem quiet_succ
    (settles : Cluster.Settles (chronicle.Held (t + 1) t) (chronicle.operations t)
      (chronicle.state t) (chronicle.report t) (chronicle.state (t + 1))) :
    (chronicle.state (t + 1)).Quiet (chronicle.Held (t + 1) (t + 1)) := by
  intro n node found place inside
  by_cases told : ∃ report, chronicle.report t = some report ∧
      ∃ reply ∈ report.succeeded, reply.nodeId = n
  · obtain ⟨report, sent, reply, listed, rfl⟩ := told
    have obeyed := settles.obeyed report sent reply listed node found place inside
    refine obeyed.mono fun key d obeyed => ?_
    by_cases covered : report.command.Covers key
    · exact held_of_holds (Nat.le_refl _) (obeyed.1 covered)
    · refine obeyed.2.of_not_acknowledged ?_
      rintro ⟨other, same, covers, _⟩
      cases sent.symm.trans same
      exact covered covers
  · refine (settles.quiet n node found place inside).mono fun key d held => ?_
    refine held.of_not_acknowledged ?_
    rintro ⟨report, sent, _, answered⟩
    exact told ⟨report, sent, answered⟩

/-- **Between operations all caches are quiet**, and hold nothing older than what their node has
acknowledged. -/
theorem quiet_state (chronicle : Chronicle) (t : Nat) :
    (chronicle.state t).Quiet (chronicle.Held t t) := by
  induction t with
  | zero => exact quiet_start _
  | succ t ih => exact quiet_succ (settles_of_quiet ih)

/-- What every operation of a chronicle settles. -/
theorem settles_state (chronicle : Chronicle) (t : Nat) :
    Cluster.Settles (chronicle.Held (t + 1) t) (chronicle.operations t) (chronicle.state t)
      (chronicle.report t) (chronicle.state (t + 1)) :=
  settles_of_quiet (chronicle.quiet_state t)

/-! ## What the store holds -/

/-- While an id is not written, the store finds for it what it found. -/
theorem find?_of_unwritten (unwritten : chronicle.Unwritten id since t) {m : Nat} (late : since ≤ m)
    (early : m ≤ t) :
    (chronicle.state m).store.find? id = (chronicle.state since).store.find? id := by
  induction m, late using Nat.le_induction with
  | base => rfl
  | succ m late ih =>
      have kept := (chronicle.settles_state m).frame id (unwritten m late early)
      exact kept.trans (ih (Nat.le_of_succ_le early))

/-- Of an id that was not written since a command about it was acknowledged, nothing counts but what
the store held then. -/
theorem Held.holds_since (acknowledged : chronicle.Acknowledged n id since)
    (unwritten : chronicle.Unwritten id (since + 1) t) (later : since < t)
    (held : chronicle.Held t t n id definition) :
    (chronicle.state (since + 1)).store.Holds id definition := by
  obtain ⟨m, before, holds, after⟩ := held
  have late := after since later acknowledged
  exact (find?_of_unwritten unwritten late before).symm.trans holds

/-- A node knows the same kinds for ever. -/
theorem kinds_state (found : (chronicle.state t).find? n = some node) :
    ∃ old, chronicle.start.find? n = some old ∧ node.registry.kinds = old.registry.kinds := by
  induction t generalizing node with
  | zero => exact ⟨node, found, rfl⟩
  | succ t ih =>
      obtain ⟨old, before, same⟩ := (chronicle.settles_state t).kinds n node found
      obtain ⟨first, begun, kept⟩ := ih before
      exact ⟨first, begun, same.trans kept⟩

/-! ## What a node runs -/

/-- What runs was built of a definition that the store has held. -/
theorem held_of_runs {application : Application} (runs : chronicle.Runs n t node application) :
    node.registry.kinds.load application.applied.id application.applied.definition =
        .ok application.applied.rewriter ∧
      chronicle.Held t t n application.applied.id application.applied.definition := by
  obtain ⟨request, serves, member⟩ := runs
  have quiet := chronicle.quiet_state t n node serves.there
  obtain ⟨_, _, _, _, applied⟩ := Node.rewriteQuery_sound quiet
    (fun key d holds => held_of_holds (Nat.le_refl t) holds) request
  exact applied application member

/-- A put that sends its command has stored the document of its definition. -/
theorem holds_of_put {sender : String} {request : PutRequest} {told : Broadcast}
    (put : chronicle.operations t = .put sender id request)
    (sent : chronicle.report t = some told) :
    ∃ accepted, request.definition id = .ok accepted ∧
      ∀ d, (chronicle.state (t + 1)).store.Holds id d ↔
        Definition.ofDocument id accepted.toDocument = .ok d := by
  rw [report, put] at sent
  obtain ⟨accepted, named, documents⟩ := Cluster.documents_put (chronicle.quiet_state t) sent
  refine ⟨accepted, named, fun d => ?_⟩
  rw [state, put, Store.holds_congr documents]
  exact Store.holds_write_some

/-- A deletion that sends its command has left nothing under the id. -/
theorem find?_of_delete {sender : String} {told : Broadcast}
    (delete : chronicle.operations t = .delete sender id)
    (sent : chronicle.report t = some told) :
    (chronicle.state (t + 1)).store.find? id = .ok none := by
  rw [report, delete] at sent
  have documents := Cluster.documents_delete (chronicle.quiet_state t) sent
  rw [state, delete, Store.find?_congr documents]
  exact Store.find?_write_none _ id

/-- **A node runs what the store held after the last command about it that the node acknowledged.**
So once it has acknowledged a put, and as long as nothing else is written under the id, it runs the
definition that was put, on whatever partition; and once it has acknowledged a deletion it runs the
rewriter no more: a request that names it is not answered, and if the store works and the rewriters
named before it are found, it fails because the rewriter is not defined. -/
theorem runs_acknowledged (chronicle : Chronicle) (n id : String) :
    (∀ t node application, chronicle.Runs n t node application → application.applied.id = id →
      node.registry.kinds.load id application.applied.definition =
          .ok application.applied.rewriter ∧
        ∃ m ≤ t, (chronicle.state m).store.Holds id application.applied.definition ∧
          ∀ j < t, chronicle.Acknowledged n id j → j < m) ∧
    (∀ j sender request, chronicle.operations j = .put sender id request →
      chronicle.Acknowledged n id j →
      ∃ accepted, request.definition id = .ok accepted ∧
        ∀ t node application, j < t → chronicle.Unwritten id (j + 1) t →
          chronicle.Runs n t node application → application.applied.id = id →
          Definition.ofDocument id accepted.toDocument = .ok application.applied.definition ∧
            ((Json.object accepted.config).Ordered →
              (∀ x ∈ (Json.object accepted.config).numbers, x.Survives) →
              application.applied.definition = accepted)) ∧
    ∀ j sender, chronicle.operations j = .delete sender id → chronicle.Acknowledged n id j →
      ∀ t node, j < t → chronicle.Unwritten id (j + 1) t →
        (∀ application, chronicle.Runs n t node application → application.applied.id ≠ id) ∧
        ∀ request, chronicle.Serves n t node request → id ∈ request.rewriters.map (·.id) →
          (∀ response, (node.rewriteQuery request (chronicle.state t).store).1 ≠ .ok response) ∧
          ∀ threshold handle registry front rest chain, (chronicle.state t).store.available = true →
            node.prepare request = .ok (threshold, handle, registry) →
            request.rewriters.map (·.id) = front ++ id :: rest →
            (registry.lookupAll handle (chronicle.state t).store front).1 = .ok chain →
            (node.rewriteQuery request (chronicle.state t).store).1 =
              .error (.load (.notFound id)) := by
  refine ⟨?_, ?_, ?_⟩
  · rintro t node application runs rfl
    exact held_of_runs runs
  · intro j sender request put acknowledged
    have ⟨told, sent, _⟩ := acknowledged
    obtain ⟨accepted, named, stored⟩ := holds_of_put put sent
    refine ⟨accepted, named, ?_⟩
    rintro t node application later unwritten runs rfl
    have reads := (stored _).mp ((held_of_runs runs).2.holds_since acknowledged unwritten later)
    refine ⟨reads, fun ordered survive => ?_⟩
    obtain ⟨_, _, rfl⟩ := PutRequest.definition_eq_ok_iff.mp named
    exact Definition.eq_of_ofDocument_toDocument ordered survive reads
  · intro j sender delete acknowledged t node later unwritten
    have ⟨told, sent, _⟩ := acknowledged
    have gone := find?_of_delete delete sent
    -- What was held since would have been in the store after the deletion.
    have never (d : Definition) : ¬ chronicle.Held t t n id d := by
      intro held
      have holds := held.holds_since acknowledged unwritten later
      cases gone.symm.trans holds
    have fresh : ∀ key d, (chronicle.state t).store.Holds key d → chronicle.Held t t n key d :=
      fun _ _ holds => held_of_holds (Nat.le_refl t) holds
    constructor
    · rintro application runs rfl
      exact never _ (held_of_runs runs).2
    · intro request serves named
      have quiet := chronicle.quiet_state t n node serves.there
      refine ⟨fun response answers => ?_, ?_⟩
      · obtain ⟨d, held⟩ := Node.known_of_rewriteQuery quiet fresh answers named
        exact never d held
      · intro threshold handle registry front rest chain works prepared split found
        have still := (find?_of_unwritten unwritten later (Nat.le_refl t)).trans gone
        exact Node.rewriteQuery_not_found quiet fresh never works still prepared split found

/-! ## A rewriter that comes and goes -/

/-- A node that has just started and knows one other. -/
def startedNode (id peer : String) : Node where
  id := id
  peers := [⟨peer, ""⟩]
  requestTimeout := 1000
  paramNamespace := "qrw"
  threshold := none
  registry := .empty .builtin .unbounded

/-- The rule that spells a word right. -/
def labtopRules : Json.Fields := [("rules", .object [("labtop", .text "laptop")])]

/-- A search for the misspelled word. -/
def labtopSearch : RewriteRequest where
  partition := ⟨"products", 0⟩
  rewriters := [⟨"r", none⟩]
  query := .term "title" "labtop"
  threshold? := none

/-- A rewriter is put, run, deleted and asked for again, first of a working store. -/
def putAndDeleted : Chronicle where
  start := .ofNodes .none [startedNode "a" "b", startedNode "b" "a"]
  fresh := by simp [Cluster.ofNodes, startedNode, Registry.empty]
  operations
    | 0 => .put "a" "r" ⟨"replace", labtopRules, none⟩
    | 1 => .rewrite "b" labtopSearch
    | 2 => .delete "a" "r"
    | 3 => .rewrite "b" labtopSearch
    | 4 => .outage true
    | _ => .rewrite "b" labtopSearch

/-- After the put the new rule runs, and after the deletion it is not found. -/
theorem putAndDeleted_runs_acknowledged :
    (∃ node application, putAndDeleted.Runs "b" 1 node application ∧
      application.applied.definition = ⟨"r", "replace", labtopRules, none, 3⟩) ∧
    ∃ node, putAndDeleted.Serves "b" 3 node labtopSearch ∧
      (node.rewriteQuery labtopSearch (putAndDeleted.state 3).store).1 =
        .error (.load (.notFound "r")) := by
  obtain ⟨_, put, delete⟩ := runs_acknowledged putAndDeleted "b" "r"
  constructor
  · have applied : ((putAndDeleted.state 1).find? "b").any (fun node =>
        (node.applications labtopSearch (putAndDeleted.state 1).store).any
          (·.applied.id = "r")) = true := by decide +kernel
    obtain ⟨node, found, applied⟩ := (Option.any_eq_true _ _).mp applied
    obtain ⟨application, member, named⟩ := List.any_eq_true.mp applied
    have runs : putAndDeleted.Runs "b" 1 node application :=
      ⟨labtopSearch, ⟨rfl, found⟩, member⟩
    obtain ⟨accepted, stored, only⟩ := put 0 "a" _ rfl (by decide +kernel)
    obtain ⟨_, same⟩ := only 1 node application (by decide)
      (fun i late early => absurd early (Nat.not_lt.mpr late)) runs (of_decide_eq_true named)
    obtain ⟨_, _, rfl⟩ := PutRequest.definition_eq_ok_iff.mp stored
    exact ⟨node, application, runs, same rfl fun _ member => nomatch member⟩
  · have prepared : ((putAndDeleted.state 3).find? "b").any (fun node =>
        (node.prepare labtopSearch).toOption.isSome) = true := by decide +kernel
    obtain ⟨node, found, prepared⟩ := (Option.any_eq_true _ _).mp prepared
    have serves : putAndDeleted.Serves "b" 3 node labtopSearch := ⟨rfl, found⟩
    refine ⟨node, serves, ?_⟩
    cases accepted : node.prepare labtopSearch with
    | error e =>
        rw [accepted] at prepared
        cases prepared
    | ok result =>
        obtain ⟨threshold, handle, registry⟩ := result
        obtain ⟨_, fails⟩ := delete 2 "a" rfl (by decide +kernel) 3 node (by decide)
          fun i late early => absurd early (Nat.not_lt.mpr late)
        exact (fails labtopSearch serves List.mem_cons_self).2 threshold handle registry [] [] []
          (by decide +kernel) accepted rfl rfl

/-- What the answer to a request says went wrong. -/
def failure (outcome : Except ServiceError RewriteResponse) : Option String :=
  match outcome with
  | .ok _ => none
  | .error e => some e.message

/-- While the store is out of order, nobody can say of a rewriter that it is not defined. -/
theorem putAndDeleted_unavailable :
    putAndDeleted.operations 2 = .delete "a" "r" ∧ putAndDeleted.Acknowledged "b" "r" 2 ∧
      putAndDeleted.Unwritten "r" 3 5 ∧
      ∃ node, putAndDeleted.Serves "b" 5 node labtopSearch ∧
        failure (node.rewriteQuery labtopSearch (putAndDeleted.state 5).store).1 =
          some "Definition store is unavailable: Simulated outage." ∧
        (node.rewriteQuery labtopSearch (putAndDeleted.state 5).store).1 ≠
          .error (.load (.notFound "r")) := by
  refine ⟨rfl, by decide +kernel, ?_, ?_⟩
  · intro i late early
    have either : i = 3 ∨ i = 4 := by omega
    rcases either with rfl | rfl
    · exact id
    · exact id
  · have answer : ((putAndDeleted.state 5).find? "b").map (fun node =>
        failure (node.rewriteQuery labtopSearch (putAndDeleted.state 5).store).1) =
          some (some "Definition store is unavailable: Simulated outage.") := by decide +kernel
    obtain ⟨node, found, fails⟩ := Option.map_eq_some_iff.mp answer
    refine ⟨node, ⟨rfl, found⟩, fails, ?_⟩
    intro missing
    rw [missing] at fails
    revert fails
    decide +kernel

end Chronicle

end QueryRewriting
