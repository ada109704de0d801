import QueryRewriting.Proofs.Service.Admission
import QueryRewriting.Proofs.Service.AllOrNothing

/-! # The info log of a request

Whoever is run for a request is told of in the info log as its definition asks for: not at all, with
its id, or with its id and the notes that it took. A definition names the sinks to write to. There
is only one, but nothing keeps a definition from naming it twice, and then each of its applications
is told of twice.

The main statement, `Chronicle.told_once_iff`, is about definitions that were put through the
service: a request writes one line for each sink that an applied rewriter's definition lists, in the
order of the chain, and so tells of each application once exactly if those that it tells of list one
sink. -/

namespace QueryRewriting

/-- Logging options are accepted if they name the only sink there is, and name it if there is
something to write. -/
theorem Logging.problems_eq_nil_iff {logging : Logging} :
    logging.problems = [] ↔
      (∀ sink ∈ logging.sinks, sink = tracingSink) ∧
        (logging.payload ≠ .none → logging.sinks ≠ []) := by
  rw [problems, List.append_eq_nil_iff, List.map_eq_nil_iff, List.filter_eq_nil_iff]
  simp only [ne_eq, decide_not, Bool.not_eq_true', decide_eq_false_iff_not, Decidable.not_not,
    ite_eq_right_iff, List.cons_ne_nil, imp_false, not_and]

/-! ## Lines -/

namespace Application

variable {application : Application} {applications : List Application}

/-- The line that tells of an application. -/
def entry (application : Application) (partition : Partition) : LogEntry where
  rewriterId := application.applied.id
  partition := partition
  notes? := if application.applied.payload = .detail then some application.notes else none

/-- How many sinks the definition of the applied rewriter lists. -/
def sinkCount (application : Application) : Nat :=
  (application.applied.definition.logging.map (·.sinks.length)).getD 0

/-- The logging options of the applied rewriter's definition are accepted. -/
def Checked (application : Application) : Prop :=
  ∀ logging ∈ application.applied.definition.logging, logging.problems = []

/-- One line for each application that is to be told of. -/
def told (partition : Partition) (applications : List Application) : List LogEntry :=
  (applications.filter (·.applied.payload ≠ .none)).map (·.entry partition)

/-- An application writes one line, or none if its payload says so. -/
theorem line_eq (application : Application) (partition : Partition) :
    application.line partition =
      if application.applied.payload = .none then [] else [application.entry partition] := by
  rw [line, entry]
  cases application.applied.payload <;> rfl

/-- Who has something to write lists a sink. -/
theorem sinkCount_pos (writes : application.applied.payload ≠ .none) :
    0 < application.sinkCount := by
  rw [Instance.payload, Definition.payload] at writes
  rw [sinkCount]
  cases options : application.applied.definition.logging with
  | none =>
      rw [options] at writes
      exact absurd rfl writes
  | some logging =>
      rw [options, Option.map_some, Option.getD_some, Logging.effectivePayload] at writes
      rw [Option.map_some, Option.getD_some, List.length_pos_iff]
      intro empty
      exact writes (if_pos (by rw [empty]; rfl))

/-- **An application is told of once for each sink that is listed.** -/
theorem Checked.log_eq (checked : application.Checked) (partition : Partition) :
    application.log partition =
      if application.applied.payload = .none then []
      else List.replicate application.sinkCount (application.entry partition) := by
  have listed : ((application.applied.definition.logging.map (·.sinks)).getD []).filter
        (· = tracingSink) = (application.applied.definition.logging.map (·.sinks)).getD [] := by
    rw [List.filter_eq_self]
    cases options : application.applied.definition.logging with
    | none => exact fun _ member => (List.not_mem_nil member).elim
    | some logging =>
        intro sink member
        have sound := Logging.problems_eq_nil_iff.mp (checked logging options)
        exact decide_eq_true (sound.1 sink member)
  have count : ((application.applied.definition.logging.map (·.sinks)).getD []).length =
      application.sinkCount := by
    rw [sinkCount]
    cases application.applied.definition.logging <;> rfl
  rw [log, listed, line_eq]
  by_cases silent : application.applied.payload = .none
  · simp only [if_pos silent, List.flatMap_eq_nil_iff, implies_true]
  · simp only [if_neg silent]
    rw [← List.map_eq_flatMap, List.map_const', count]

/-- Nobody who is to be told of is left out, and nobody else is told of. -/
theorem told_sublist (checked : ∀ application ∈ applications, application.Checked)
    (partition : Partition) :
    (told partition applications).Sublist (applications.flatMap (·.log partition)) := by
  induction applications with
  | nil => exact .slnil
  | cons application rest ih =>
      obtain ⟨first, later⟩ := List.forall_mem_cons.mp checked
      rw [List.flatMap_cons, first.log_eq]
      by_cases silent : application.applied.payload = .none
      · simpa [told, silent] using ih later
      · have once : [application.entry partition].Sublist
            (List.replicate application.sinkCount (application.entry partition)) :=
          List.singleton_sublist.mpr (List.mem_replicate.mpr ⟨(sinkCount_pos silent).ne', rfl⟩)
        simpa [told, silent] using once.append (ih later)

/-- Each application is told of once exactly if each that is told of lists one sink. -/
theorem log_eq_told_iff (checked : ∀ application ∈ applications, application.Checked)
    (partition : Partition) :
    applications.flatMap (·.log partition) = told partition applications ↔
      ∀ application ∈ applications, application.applied.payload ≠ .none →
        application.sinkCount = 1 := by
  induction applications with
  | nil => exact iff_of_true rfl fun _ member => (List.not_mem_nil member).elim
  | cons application rest ih =>
      obtain ⟨first, later⟩ := List.forall_mem_cons.mp checked
      rw [List.flatMap_cons, first.log_eq, List.forall_mem_cons, ← ih later]
      by_cases silent : application.applied.payload = .none
      · simp [told, silent]
      · have split : told partition (application :: rest) =
            [application.entry partition] ++ told partition rest := by
          simp [told, silent]
        rw [if_neg silent, split]
        constructor
        · -- the others have no fewer lines than they ought to, so only one is left for the first
          intro same
          have enough := (told_sublist later partition).length_le
          have total := congrArg List.length same
          simp only [List.length_append, List.length_replicate, List.length_singleton] at total
          have positive := sinkCount_pos silent
          have once : application.sinkCount = 1 := by omega
          rw [once] at same
          exact ⟨fun _ => once, List.append_cancel_left same⟩
        · rintro ⟨once, same⟩
          rw [once silent, same]
          rfl

/-- The notes of some applications, each under the id of its rewriter. -/
def actions (applications : List Application) : List (String × String) :=
  applications.flatMap fun application =>
    application.notes.map fun note => (application.applied.id, note)

/-- Under an id that nobody has nothing is noted. -/
theorem actions_of_not_mem {id : String} (absent : id ∉ applications.map (·.applied.id)) :
    (actions applications).filter (·.1 = id) = [] := by
  rw [List.filter_eq_nil_iff]
  rintro ⟨own, note⟩ member same
  obtain ⟨application, inside, listed⟩ := List.mem_flatMap.mp member
  obtain ⟨_, _, written⟩ := List.mem_map.mp listed
  have named : application.applied.id = id :=
    (congrArg Prod.fst written).trans (of_decide_eq_true same)
  exact absent (named ▸ List.mem_map_of_mem inside)

/-- What is noted under an id is what its only holder noted. -/
theorem notes_of_actions (distinct : (applications.map (·.applied.id)).Nodup)
    (member : application ∈ applications) :
    ((actions applications).filter (·.1 = application.applied.id)).map (·.2) =
      application.notes := by
  induction applications with
  | nil => cases member
  | cons first rest ih =>
      rw [List.map_cons, List.nodup_cons] at distinct
      obtain ⟨absent, distinct⟩ := distinct
      have split : actions (first :: rest) =
          first.notes.map (fun note => (first.applied.id, note)) ++ actions rest := rfl
      rw [split, List.filter_append, List.map_append, List.filter_map, List.map_map]
      rcases List.mem_cons.mp member with rfl | later
      · rw [actions_of_not_mem absent, List.map_nil, List.append_nil]
        simp [Function.comp_def]
      · have other : first.applied.id ≠ application.applied.id := fun same =>
          absent (same ▸ List.mem_map_of_mem later)
        rw [ih distinct later]
        simp [Function.comp_def, other]

end Application

/-! ## Requests -/

/-- Members of a chain are run from the front, all of them if none fails. -/
theorem applied_of_applyAll (partition : Partition) (paramNamespace : String) (params : Params)
    (expansion : Expansion) (chain : List Instance) :
    (applyAll partition paramNamespace params expansion chain).1.map (·.applied) <+: chain ∧
      ∀ after, (applyAll partition paramNamespace params expansion chain).2 = .ok after →
        (applyAll partition paramNamespace params expansion chain).1.map (·.applied) = chain := by
  induction chain generalizing expansion with
  | nil => exact ⟨List.nil_prefix, fun _ _ => rfl⟩
  | cons found rest ih =>
      rw [applyAll]
      split
      · refine ⟨List.nil_prefix, fun after outcome => ?_⟩
        cases outcome
      · rename_i next notes _
        obtain ⟨front, whole⟩ := ih next
        refine ⟨(List.prefix_cons_inj found).mpr front, fun after outcome => ?_⟩
        exact congrArg (found :: ·) (whole after outcome)

/-- **A request runs its rewriters in order**, and an answer lists all of them and what they noted.
-/
theorem Node.applications_in_order {node : Node} {store : Store}
    {P : String → Definition → Prop} (quiet : node.registry.Quiet P)
    (fresh : ∀ key d, store.Holds key d → P key d) (request : RewriteRequest) :
    (node.applications request store).map (·.applied.id) <+: request.rewriters.map (·.id) ∧
      ∀ response, (node.rewriteQuery request store).1 = .ok response →
        (node.applications request store).map (·.applied.id) = request.rewriters.map (·.id) ∧
          (request.rewriters.map (·.id)).Nodup ∧
          response.actions = Application.actions (node.applications request store) := by
  unfold rewriteQuery applications
  cases prepared : node.prepare request with
  | error e =>
      refine ⟨List.nil_prefix, fun response answers => ?_⟩
      cases answers
  | ok accepted =>
      obtain ⟨threshold, handle, registry⟩ := accepted
      obtain ⟨_, _, inside⟩ := quiet_of_prepare quiet prepared
      obtain ⟨_, _, found⟩ := Registry.lookupAll_sound (request.rewriters.map (·.id)) inside fresh
      have distinct : (request.rewriters.map (·.id)).Nodup := by
        by_contra repeated
        obtain ⟨e, refused⟩ := prepare_error_iff.mpr (.inr (.inl repeated))
        cases prepared.symm.trans refused
      simp only
      generalize registry.lookupAll handle store (request.rewriters.map (·.id)) = result at found ⊢
      obtain ⟨outcome, left, after⟩ := result
      cases outcome with
      | error e =>
          refine ⟨List.nil_prefix, fun response answers => ?_⟩
          cases answers
      | ok chain =>
          obtain ⟨ids, -⟩ := found chain rfl
          obtain ⟨front, whole⟩ := applied_of_applyAll request.partition node.paramNamespace
            (mountAll node.paramNamespace request.rewriters) (.ofQuery request.query) chain
          have named (applications : List Application) : applications.map (·.applied.id) =
              (applications.map (·.applied)).map (·.id) := List.map_map.symm
          simp only [named]
          refine ⟨ids ▸ front.map _, fun response answers => ?_⟩
          simp only [RewriteRequest.apply] at answers
          split at answers
          · cases answers
          rename_i expansion ran
          split at answers
          · cases answers
            exact ⟨by rw [whole expansion ran, ids], distinct, rfl⟩
          · cases answers

/-! ## Definitions that were put -/

/-- Reading a definition back changes nothing about its logging options. -/
theorem Definition.logging_of_reread {d read : Definition}
    (reads : ofDocument d.id d.toDocument = .ok read) : read.logging = d.logging := by
  rw [ofDocument_toDocument_eq] at reads
  simp only [bind, Except.bind] at reads
  split at reads
  · cases reads
  split at reads
  · cases reads
  cases reads
  rfl

/-- In a definition against which there is nothing to say, the info log is in order. -/
theorem Kinds.logging_of_problems {kinds : Kinds} {definition : Definition}
    (sound : kinds.problems definition = .ok []) :
    ∀ logging ∈ definition.logging, logging.problems = [] := by
  intro logging options
  unfold problems at sound
  cases resolved : kinds.resolve definition.kind with
  | error e =>
      rw [resolved] at sound
      cases sound
  | ok kind =>
      rw [resolved, Option.mem_def.mp options] at sound
      exact (List.append_eq_nil_iff.mp (Except.ok.inj sound)).2

namespace Cluster

variable {cluster : Cluster} {sender id : String} {request : PutRequest}

/-- A put that sends no command was refused, or came to no node; nothing has happened. -/
theorem perform_put_of_silent (silent : (cluster.perform (.put sender id request)).1 = none) :
    (cluster.perform (.put sender id request)).2 = cluster := by
  rw [perform, onNode] at silent ⊢
  cases found : cluster.find? sender with
  | none => rfl
  | some node =>
      simp only [found] at silent ⊢
      cases accepted : cluster.accept node id request with
      | error e => rw [put, accepted]
      | ok stored =>
          rw [(put_eq_of_accept accepted).2] at silent
          cases silent

/-- A put that sends its command was accepted by a node. -/
theorem accept_of_perform_put {report : Broadcast}
    (sent : (cluster.perform (.put sender id request)).1 = some report) :
    ∃ node definition store, cluster.find? sender = some node ∧
      cluster.accept node id request = .ok (definition, store) := by
  rw [perform, onNode] at sent
  cases found : cluster.find? sender with
  | none =>
      rw [found] at sent
      cases sent
  | some node =>
      simp only [found] at sent
      cases accepted : cluster.accept node id request with
      | error e =>
          rw [put, accepted] at sent
          cases sent
      | ok stored => exact ⟨node, stored.1, stored.2, rfl, accepted⟩

/-- A deletion that was not done changes nothing. -/
theorem perform_delete_of_silent (silent : (cluster.perform (.delete sender id)).1 = none) :
    (cluster.perform (.delete sender id)).2 = cluster := by
  rw [perform, onNode] at silent ⊢
  cases found : cluster.find? sender with
  | none => rfl
  | some node =>
      simp only [found] at silent ⊢
      rcases delete_cases cluster node id with ⟨e, refused⟩ | ⟨deleted, store, -, deletes⟩
      · rw [refused]
      · rw [deletes] at silent
        cases silent

end Cluster

namespace Chronicle

variable {chronicle : Chronicle} {n id : String} {t m : Nat} {node : Node} {definition : Definition}

/-- Up to a time, definitions come under an id through the service only. -/
structure Administered (chronicle : Chronicle) (id : String) (t : Nat) : Prop where
  nothing : ∀ definition, ¬ chronicle.start.store.Holds id definition
  indirect : ∀ i < t, ∀ document?, chronicle.operations i ≠ .write id document?

/-- A definition was put: a node accepted a request for it, and it reads back as this one. -/
def Put (chronicle : Chronicle) (id : String) (definition : Definition) (j : Nat) : Prop :=
  ∃ sender request node accepted store, chronicle.operations j = .put sender id request ∧
    (chronicle.state j).find? sender = some node ∧
    (chronicle.state j).accept node id request = .ok (accepted, store) ∧
    Definition.ofDocument id accepted.toDocument = .ok definition

/-- One more operation leaves a definition under an id that was there before, or was just put. -/
theorem holds_succ_cases (indirect : ∀ document?, chronicle.operations t ≠ .write id document?)
    (holds : (chronicle.state (t + 1)).store.Holds id definition) :
    (chronicle.state t).store.Holds id definition ∨ chronicle.Put id definition t := by
  by_cases writes : (chronicle.operations t).Writes id
  · cases operation : chronicle.operations t with
    | put sender key request =>
        rw [operation] at writes
        cases writes
        cases sent : chronicle.report t with
        | none =>
            have silent := sent
            rw [report, operation] at silent
            rw [state, operation, Cluster.perform_put_of_silent silent] at holds
            exact .inl holds
        | some told =>
            obtain ⟨accepted, named, stored⟩ := holds_of_put operation sent
            rw [report, operation] at sent
            obtain ⟨node, definition', store, found, accepts⟩ := Cluster.accept_of_perform_put sent
            cases named.symm.trans (Cluster.of_accept accepts).1
            exact .inr ⟨sender, request, node, accepted, store, operation, found, accepts,
              (stored _).mp holds⟩
    | delete sender key =>
        rw [operation] at writes
        cases writes
        cases sent : chronicle.report t with
        | none =>
            have silent := sent
            rw [report, operation] at silent
            rw [state, operation, Cluster.perform_delete_of_silent silent] at holds
            exact .inl holds
        | some told => cases (find?_of_delete operation sent).symm.trans holds
    | write key document? =>
        rw [operation] at writes
        cases writes
        exact absurd operation (indirect document?)
    | _ =>
        rw [operation] at writes
        cases writes
  · exact .inl (((chronicle.settles_state t).frame id writes).symm.trans holds)

/-- **Whatever stands under an administered id was put.** -/
theorem Administered.put (administered : chronicle.Administered id t) (bound : m ≤ t)
    (holds : (chronicle.state m).store.Holds id definition) :
    ∃ j < m, chronicle.Put id definition j := by
  induction m with
  | zero => exact absurd holds (administered.nothing definition)
  | succ m ih =>
      rcases holds_succ_cases (administered.indirect m bound) holds with before | now
      · obtain ⟨j, earlier, put⟩ := ih (Nat.le_of_succ_le bound) before
        exact ⟨j, Nat.lt_succ_of_lt earlier, put⟩
      · exact ⟨m, Nat.lt_succ_self m, now⟩

/-- The logging options of a definition that was put have no problems. -/
theorem Put.problems (put : chronicle.Put id definition m) :
    ∀ logging ∈ definition.logging, logging.problems = [] := by
  obtain ⟨sender, request, node, accepted, store, -, -, accepts, reads⟩ := put
  obtain ⟨named, checked, -⟩ := Cluster.of_accept accepts
  obtain ⟨-, -, rfl⟩ := PutRequest.definition_eq_ok_iff.mp named
  rw [Definition.logging_of_reread reads]
  exact Kinds.logging_of_problems (Kinds.problems_of_check checked)

/-- **An application is told of once for each sink that its definition lists.** Say that a node
serves a request, and all that ever stood under the ids that it names was put through the service.
Then the node runs the rewriters from the front, in the order of the request, and the log has, in
this order, nothing for an application whose definition logs nothing, and else as many lines as its
definition lists sinks, which is at least one; each names the rewriter and the partition of the
request, and has the notes of the application if details are asked for. So each application is told
of once exactly if the definitions of those that are told of list one sink. If the request is
answered, all of its rewriters were run, and the notes of each are what the answer lists under its
id. -/
theorem told_once_iff (chronicle : Chronicle) (n : String) (t : Nat) (node : Node)
    (request : RewriteRequest) (serves : chronicle.Serves n t node request)
    (administered : ∀ ref ∈ request.rewriters, chronicle.Administered ref.id t) :
    let store := (chronicle.state t).store
    let applications := node.applications request store
    let log := (node.rewriteQuery request store).2.1
    applications.map (·.applied.id) <+: request.rewriters.map (·.id) ∧
      (log = applications.flatMap fun application =>
        if application.applied.payload = .none then []
        else List.replicate application.sinkCount (application.entry request.partition)) ∧
      (Application.told request.partition applications).Sublist log ∧
      (log = Application.told request.partition applications ↔
        ∀ application ∈ applications, application.applied.payload ≠ .none →
          application.sinkCount = 1) ∧
      ∀ response, (node.rewriteQuery request store).1 = .ok response →
        applications.map (·.applied.id) = request.rewriters.map (·.id) ∧
          ∀ application ∈ applications, application.notes =
            (response.actions.filter (·.1 = application.applied.id)).map (·.2) := by
  intro store applications log
  have quiet := chronicle.quiet_state t n node serves.there
  have fresh : ∀ key d, store.Holds key d → chronicle.Held t t n key d := fun _ _ holds =>
    held_of_holds (Nat.le_refl t) holds
  obtain ⟨front, answered⟩ := Node.applications_in_order quiet fresh request
  -- Whatever ran was in the store at some time, and only a checked put brings it there.
  have checked : ∀ application ∈ applications, application.Checked := by
    intro application member
    obtain ⟨-, m, before, holds, -⟩ := held_of_runs ⟨request, serves, member⟩
    obtain ⟨ref, listed, same⟩ := List.mem_map.mp (front.subset (List.mem_map_of_mem member))
    rw [← same] at holds
    obtain ⟨j, -, put⟩ := (administered ref listed).put before holds
    exact put.problems
  have lines : log = applications.flatMap (·.log request.partition) :=
    (node.applications_rewriteQuery request store).1
  refine ⟨front, ?_, ?_, ?_, ?_⟩
  · rw [lines]
    exact List.flatMap_congr fun application member => (checked application member).log_eq _
  · rw [lines]
    exact Application.told_sublist checked request.partition
  · rw [lines]
    exact Application.log_eq_told_iff checked request.partition
  · intro response answers
    obtain ⟨all, distinct, actions⟩ := answered response answers
    refine ⟨all, fun application member => ?_⟩
    rw [actions]
    exact (Application.notes_of_actions (all ▸ distinct) member).symm

/-! ### A table that is put with its sinks -/

/-- A table is put at one node, to be logged in detail, and run at another. -/
def loggedPut (sinks : List String) : Chronicle where
  start := putAndDeleted.start
  fresh := putAndDeleted.fresh
  operations i :=
    if i = 0 then .put "a" "r" ⟨"replace", labtopRules, some ⟨sinks, .detail⟩⟩
    else .rewrite "b" labtopSearch

/-- The rewriter was put through the service. -/
theorem loggedPut_administered (sinks : List String) :
    ∀ ref ∈ labtopSearch.rewriters, (loggedPut sinks).Administered ref.id 1 := by
  intro ref member
  rw [List.mem_singleton.mp member]
  constructor
  · intro definition holds
    cases holds
  · intro i early document?
    rw [Nat.lt_one_iff.mp early]
    nofun

/-- The line for the table's application. -/
def labtopLine : LogEntry := ⟨"r", ⟨"products", 0⟩, some ["title:labtop => laptop"]⟩

/-- With one sink its one application is told once. -/
theorem loggedPut_told_once :
    ∃ node, (loggedPut ["tracing"]).Serves "b" 1 node labtopSearch ∧
      (node.rewriteQuery labtopSearch ((loggedPut ["tracing"]).state 1).store).2.1 = [labtopLine] ∧
      Application.told ⟨"products", 0⟩
        (node.applications labtopSearch ((loggedPut ["tracing"]).state 1).store) =
          [labtopLine] := by
  have ran : (((loggedPut ["tracing"]).state 1).find? "b").any (fun node =>
      (node.applications labtopSearch ((loggedPut ["tracing"]).state 1).store).all
          (·.sinkCount = 1) ∧
        (node.rewriteQuery labtopSearch ((loggedPut ["tracing"]).state 1).store).2.1 =
          [labtopLine]) = true := by decide +kernel
  obtain ⟨node, found, ran⟩ := (Option.any_eq_true _ _).mp ran
  obtain ⟨single, line⟩ := of_decide_eq_true ran
  have serves : (loggedPut ["tracing"]).Serves "b" 1 node labtopSearch := ⟨rfl, found⟩
  obtain ⟨-, -, -, once, -⟩ := told_once_iff (loggedPut ["tracing"]) "b" 1 node labtopSearch serves
    (loggedPut_administered ["tracing"])
  refine ⟨node, serves, line, ?_⟩
  rw [← line, once.mpr fun application member _ =>
    of_decide_eq_true (List.all_eq_true.mp single application member)]
  rfl

/-- A sink that is listed twice is written to twice. -/
theorem doubledSink_told_twice :
    ∃ node, (loggedPut ["tracing", "tracing"]).Serves "b" 1 node labtopSearch ∧
      (∀ ref ∈ labtopSearch.rewriters, (loggedPut ["tracing", "tracing"]).Administered ref.id 1) ∧
      (node.rewriteQuery labtopSearch ((loggedPut ["tracing", "tracing"]).state 1).store).2.1 =
        [labtopLine, labtopLine] ∧
      Application.told ⟨"products", 0⟩
        (node.applications labtopSearch ((loggedPut ["tracing", "tracing"]).state 1).store) =
          [labtopLine] := by
  have ran : (((loggedPut ["tracing", "tracing"]).state 1).find? "b").any (fun node =>
      (node.rewriteQuery labtopSearch ((loggedPut ["tracing", "tracing"]).state 1).store).2.1 =
          [labtopLine, labtopLine] ∧
        Application.told ⟨"products", 0⟩
          (node.applications labtopSearch ((loggedPut ["tracing", "tracing"]).state 1).store) =
            [labtopLine]) = true := by decide +kernel
  obtain ⟨node, found, ran⟩ := (Option.any_eq_true _ _).mp ran
  exact ⟨node, ⟨rfl, found⟩, loggedPut_administered _, of_decide_eq_true ran⟩

end Chronicle

end QueryRewriting
