import Mathlib.Logic.Function.Basic
import QueryRewriting.Kind.Builtin
import QueryRewriting.Proofs.Cluster.Accounts
import QueryRewriting.Proofs.Cluster.Operations

/-! # Calls of a broadcast

A broadcast sends its command to all members and waits for none of them before it sends the next;
their calls end in any order, and when all have ended it answers. However the calls come to their
ends, each member is sent the command once and is accounted for once, in the order of the members.
Sending to one member after the other is one of the ways to go about it. -/

namespace QueryRewriting

/-! ## Flights -/

/-- How far the call of a member has come. -/
inductive Flight where
  | grounded
  | flying (outcome : Except ClusterError Reply)
  | landed (outcome : Except ClusterError Reply)

/-- What a call has come to, when it has ended. -/
def Flight.outcome? : Flight → Option (Except ClusterError Reply)
  | .landed outcome => some outcome
  | _ => none

/-- What may happen next: the call of a member is sent, or it ends. -/
inductive Signal where
  | send (n : String)
  | land (n : String)
  deriving DecidableEq, Repr

/-- A broadcast under way: the world in which its calls take effect, how far each of them has come,
and the members that were sent the command so far. -/
structure Scatter (World : Type) where
  world : World
  flights : String → Flight
  sent : List String

namespace Scatter

variable {World : Type}

/-- A broadcast of which no call has begun. -/
def start (world : World) : Scatter World :=
  { world, flights := fun _ => .grounded, sent := [] }

variable (members : List String) (call : String → World → Except ClusterError Reply × World)

/-- Lets something happen; what cannot happen changes nothing. -/
def step (scatter : Scatter World) : Signal → Scatter World
  | .send n =>
    match scatter.flights n with
    | .grounded =>
      if n ∈ members then
        let (outcome, world) := call n scatter.world
        { world
          flights := Function.update scatter.flights n (.flying outcome)
          sent := scatter.sent ++ [n] }
      else scatter
    | _ => scatter
  | .land n =>
    match scatter.flights n with
    | .flying outcome =>
      { scatter with flights := Function.update scatter.flights n (.landed outcome) }
    | _ => scatter

/-- What signals make of a broadcast, one after the other. -/
def run (signals : List Signal) (scatter : Scatter World) : Scatter World :=
  signals.foldl (step members call) scatter

/-- The outcomes in the order of some members, if the calls of all of them have ended. -/
def outcomes? (scatter : Scatter World) : Option Broadcast.Outcomes :=
  members.mapM fun n => (scatter.flights n).outcome?.map (n, ·)

/-- The answer of a broadcast, once all of its calls have ended. -/
def answer? (message : Command) (scatter : Scatter World) :
    Option (Except ClusterError Broadcast) :=
  (scatter.outcomes? members).map (Broadcast.collect message)

variable {members call} {scatter : Scatter World} {n m : String}

/-! ## Steps -/

/-- A member to which nothing was sent is sent the command. -/
theorem step_send (grounded : scatter.flights n = .grounded) (member : n ∈ members) :
    step members call scatter (.send n) =
      { world := (call n scatter.world).2
        flights := Function.update scatter.flights n (.flying (call n scatter.world).1)
        sent := scatter.sent ++ [n] } := by
  simp only [step, grounded, if_pos member]

/-- A call that is under way ends with what it has come to. -/
theorem step_land {outcome : Except ClusterError Reply}
    (flying : scatter.flights n = .flying outcome) :
    step members call scatter (.land n) =
      { scatter with flights := Function.update scatter.flights n (.landed outcome) } := by
  simp only [step, flying]

/-- A step changes nothing, or sends the command to a member that was not sent it yet, or ends a
call that was under way. -/
theorem step_cases (members : List String)
    (call : String → World → Except ClusterError Reply × World) (scatter : Scatter World)
    (signal : Signal) :
    step members call scatter signal = scatter ∨
      (∃ n ∈ members, scatter.flights n = .grounded ∧
        step members call scatter signal =
          { world := (call n scatter.world).2
            flights := Function.update scatter.flights n (.flying (call n scatter.world).1)
            sent := scatter.sent ++ [n] }) ∨
      ∃ n outcome, scatter.flights n = .flying outcome ∧
        step members call scatter signal =
          { scatter with flights := Function.update scatter.flights n (.landed outcome) } := by
  cases signal with
  | send n =>
      cases grounded : scatter.flights n with
      | grounded =>
          by_cases member : n ∈ members
          · exact .inr (.inl ⟨n, member, grounded, step_send grounded member⟩)
          · exact .inl (by simp only [step, grounded, if_neg member])
      | _ => exact .inl (by simp only [step, grounded])
  | land n =>
      cases flying : scatter.flights n with
      | flying outcome => exact .inr (.inr ⟨n, outcome, flying, step_land flying⟩)
      | _ => exact .inl (by simp only [step, flying])

/-- What holds of a broadcast at any time: it has sent the command to members only, to none of them
twice, and to just those whose calls have begun; and whoever has replied is named in the reply. -/
structure Coherent (members : List String) (scatter : Scatter World) : Prop where
  listed : ∀ n ∈ scatter.sent, n ∈ members
  once : scatter.sent.Nodup
  begun : ∀ n, n ∈ scatter.sent ↔ scatter.flights n ≠ .grounded
  named : ∀ n reply,
    scatter.flights n = .flying (.ok reply) ∨ scatter.flights n = .landed (.ok reply) →
      reply.nodeId = n

/-- A broadcast of which no call has begun is coherent. -/
theorem coherent_start (members : List String) (world : World) :
    (start world).Coherent members where
  listed _ member := (List.not_mem_nil member).elim
  once := List.nodup_nil
  begun n := by simp [start]
  named n reply flies := by
    rcases flies with flies | lands
    · cases flies
    · cases lands

/-- A broadcast stays coherent with every signal. -/
theorem Coherent.step
    (named : ∀ n world reply, (call n world).1 = .ok reply → reply.nodeId = n)
    (coherent : scatter.Coherent members) (signal : Signal) :
    (scatter.step members call signal).Coherent members := by
  rcases step_cases members call scatter signal with
    rests | ⟨n, member, grounded, sends⟩ | ⟨n, outcome, flying, lands⟩
  · rwa [rests]
  · rw [sends]
    -- Whatever is on the ground has not been sent, so that no member is sent to twice.
    have unsent : n ∉ scatter.sent := fun sent => (coherent.begun n).mp sent grounded
    refine ⟨?_, ?_, fun m => ?_, fun m reply => ?_⟩
    · intro m sent
      rcases List.mem_append.mp sent with before | now
      · exact coherent.listed m before
      · exact List.mem_singleton.mp now ▸ member
    · exact List.nodup_append.mpr ⟨coherent.once, List.pairwise_singleton _ _, by
        rintro m before _ now rfl
        exact unsent (List.mem_singleton.mp now ▸ before)⟩
    · by_cases same : m = n
      · subst same
        simp
      · simp [same, coherent.begun m]
    · by_cases same : m = n
      · subst same
        simp only [Function.update_self, Flight.flying.injEq, reduceCtorEq, or_false]
        exact named m scatter.world reply
      · simp only [Function.update_of_ne same]
        exact coherent.named m reply
  · rw [lands]
    refine ⟨coherent.listed, coherent.once, fun m => ?_, fun m reply => ?_⟩
    · by_cases same : m = n
      · subst same
        simp [coherent.begun m, flying]
      · simp [same, coherent.begun m]
    · by_cases same : m = n
      · subst same
        simp only [Function.update_self, Flight.landed.injEq, reduceCtorEq, false_or]
        rintro rfl
        exact coherent.named m reply (.inl flying)
      · simp only [Function.update_of_ne same]
        exact coherent.named m reply

theorem run_append (first later : List Signal) (scatter : Scatter World) :
    run members call (first ++ later) scatter =
      run members call later (run members call first scatter) :=
  List.foldl_append

/-- Whatever happens in whatever order, a broadcast stays coherent. -/
theorem Coherent.run
    (named : ∀ n world reply, (call n world).1 = .ok reply → reply.nodeId = n)
    (coherent : scatter.Coherent members) (signals : List Signal) :
    (scatter.run members call signals).Coherent members := by
  induction signals generalizing scatter with
  | nil => exact coherent
  | cons signal rest ih => exact ih (coherent.step named signal)

/-! ## Answers -/

/-- There is an answer when all calls have ended, and it collects what they came to. -/
theorem outcomes?_eq_some {outcomes : Broadcast.Outcomes}
    (ended : scatter.outcomes? members = some outcomes) :
    ∃ outcome : String → Except ClusterError Reply,
      (∀ n ∈ members, scatter.flights n = .landed (outcome n)) ∧
        outcomes = members.map fun n => (n, outcome n) := by
  let outcome (n : String) := ((scatter.flights n).outcome?).getD (.error (.transport ""))
  refine ⟨outcome, ?_⟩
  unfold outcomes? at ended
  induction members generalizing outcomes with
  | nil =>
      cases ended
      exact ⟨fun _ member => (List.not_mem_nil member).elim, rfl⟩
  | cons n rest ih =>
      simp only [List.mapM_cons, bind, Option.bind_eq_some_iff, Option.map_eq_some_iff] at ended
      obtain ⟨_, ⟨own, lands, rfl⟩, others, later, same⟩ := ended
      cases same
      obtain ⟨landed, rfl⟩ := ih later
      have first : scatter.flights n = .landed own := by
        cases flight : scatter.flights n with
        | landed outcome =>
            rw [flight] at lands
            cases lands
            rfl
        | _ =>
            rw [flight] at lands
            cases lands
      have same : outcome n = own := by simp only [outcome, lands, Option.getD_some]
      refine ⟨List.forall_mem_cons.mpr ⟨same ▸ first, landed⟩, ?_⟩
      rw [List.map_cons, same]

/-- When all calls have ended, the command was sent once to each member. -/
theorem Coherent.sent_perm (coherent : scatter.Coherent members) (distinct : members.Nodup)
    {outcome : String → Except ClusterError Reply}
    (ended : ∀ n ∈ members, scatter.flights n = .landed (outcome n)) :
    scatter.sent.Perm members := by
  refine (List.perm_ext_iff_of_nodup coherent.once distinct).mpr fun n => ?_
  refine ⟨coherent.listed n, fun member => (coherent.begun n).mpr ?_⟩
  rw [ended n member]
  exact nofun

/-- **A broadcast accounts for every member**, whatever its calls come to and in whatever order they
are sent and end. -/
theorem accounts_run {world : World}
    (named : ∀ n world reply, (call n world).1 = .ok reply → reply.nodeId = n)
    (distinct : members.Nodup) (message : Command) (signals : List Signal)
    {answer : Except ClusterError Broadcast}
    (answered : ((start world).run members call signals).answer? members message = some answer) :
    ((start world).run members call signals).sent.Perm members ∧
      ∃ outcome : String → Except ClusterError Reply, (∀ n ∈ members,
          ((start world).run members call signals).flights n = .landed (outcome n)) ∧
        Broadcast.Accounts message members outcome answer := by
  have coherent := (coherent_start members world).run named signals
  obtain ⟨outcomes, ended, rfl⟩ := Option.map_eq_some_iff.mp answered
  obtain ⟨outcome, landed, rfl⟩ := outcomes?_eq_some ended
  refine ⟨coherent.sent_perm distinct landed, outcome, landed, ?_⟩
  refine Broadcast.accounts_collect message fun n member reply replied => ?_
  exact coherent.named n reply (.inr (replied ▸ landed n member))

/-- No member waits for another: whoever was not sent the command can be sent it at any time. -/
theorem Coherent.sends (coherent : scatter.Coherent members) (member : n ∈ members)
    (unsent : n ∉ scatter.sent) :
    (scatter.step members call (.send n)).sent = scatter.sent ++ [n] := by
  have grounded := Classical.not_not.mp ((coherent.begun n).not.mp unsent)
  rw [step_send grounded member]

/-! ## One after the other -/

/-- The calls of some members, one after the other. -/
def callAll (call : String → World → Except ClusterError Reply × World) :
    List String → World → Broadcast.Outcomes × World
  | [], world => ([], world)
  | n :: rest, world =>
    let (outcome, world) := call n world
    let (outcomes, world) := callAll call rest world
    ((n, outcome) :: outcomes, world)

/-- Each member is sent the command when the call of the one before has ended. -/
def inOrder (members : List String) : List Signal :=
  members.flatMap fun n => [.send n, .land n]

/-- A call that is sent and ends at once has its effect and its outcome. -/
theorem run_send_land (grounded : scatter.flights n = .grounded) (member : n ∈ members) :
    scatter.run members call [.send n, .land n] =
      { world := (call n scatter.world).2
        flights := Function.update scatter.flights n (.landed (call n scatter.world).1)
        sent := scatter.sent ++ [n] } := by
  change step members call (step members call scatter (.send n)) (.land n) = _
  rw [step_send grounded member, step_land (Function.update_self ..)]
  simp only [Function.update_idem]

/-- Sent one after the other, calls take effect and come out as they do without a broadcast. -/
theorem run_inOrder {ids : List String} (among : ∀ n ∈ ids, n ∈ members) (distinct : ids.Nodup)
    (grounded : ∀ n ∈ ids, scatter.flights n = .grounded) :
    (scatter.run members call (inOrder ids)).world = (callAll call ids scatter.world).2 ∧
      (scatter.run members call (inOrder ids)).outcomes? ids =
        some (callAll call ids scatter.world).1 ∧
      ∀ m, m ∉ ids → (scatter.run members call (inOrder ids)).flights m = scatter.flights m := by
  induction ids generalizing scatter with
  | nil => exact ⟨rfl, rfl, fun _ _ => rfl⟩
  | cons n rest ih =>
      obtain ⟨apart, distinct⟩ := List.nodup_cons.mp distinct
      rw [List.forall_mem_cons] at among grounded
      have first := @run_send_land _ _ call _ _ grounded.1 among.1
      have still : ∀ m ∈ rest,
          (scatter.run members call [.send n, .land n]).flights m = .grounded := by
        intro m member
        have other : m ≠ n := fun same => apart (same ▸ member)
        rw [first]
        exact (Function.update_of_ne other _ _).trans (grounded.2 m member)
      obtain ⟨world, outcomes, others⟩ := ih among.2 distinct still
      have splits : scatter.run members call (inOrder (n :: rest)) =
          (scatter.run members call [.send n, .land n]).run members call (inOrder rest) :=
        run_append [.send n, .land n] (inOrder rest) scatter
      rw [splits]
      rw [first] at world outcomes others ⊢
      refine ⟨world, ?_, fun m absent => ?_⟩
      · unfold outcomes? at outcomes ⊢
        rw [List.mapM_cons, others n apart, outcomes]
        simp only [Function.update_self, Flight.outcome?]
        rfl
      · obtain ⟨other, later⟩ := not_or.mp (List.mem_cons.not.mp absent)
        exact (others m later).trans (Function.update_of_ne other _ _)

end Scatter

/-! ## The members of a cluster -/

/-- A node puts its id on its replies. -/
theorem Node.executeWithin_named {node : Node} {delays : Delays} {time : Nat} {command : Command}
    {store : Store} {reply : Reply}
    (replies : (node.executeWithin delays time command store).1 = some (.ok reply)) :
    reply.nodeId = node.id := by
  cases command with
  | clear id? =>
      cases replies
      rfl
  | reload id =>
      obtain ⟨outcome, _, replied⟩ := Option.map_eq_some_iff.mp replies
      cases outcome with
      | error e => cases replied
      | ok count =>
          cases replied
          rfl

namespace Cluster

variable {cluster : Cluster} {sender : Node} {message : Command} {n : String}

/-- The call of a member: the sender carries out the command itself, its peers are sent it. -/
def call (sender : Node) (message : Command) (n : String) (cluster : Cluster) :
    Except ClusterError Reply × Cluster :=
  if n = sender.id then cluster.command sender.requestTimeout n message
  else cluster.send sender.requestTimeout n message

/-- Whoever replies to a command is the one that it was for. -/
theorem command_named {timeout : Nat} {reply : Reply}
    (replies : (cluster.command timeout n message).1 = .ok reply) : reply.nodeId = n := by
  unfold command at replies
  cases found : cluster.find? n with
  | none =>
      rw [found] at replies
      cases replies
  | some node =>
      have own := id_of_find? found
      rw [found] at replies
      simp only at replies
      split at replies
      · cases replies
      · cases replies
      · rename_i told replied
        cases replies
        exact (Node.executeWithin_named replied).trans own

/-- A reply carries the id of the member that it comes from. -/
theorem call_named (sender : Node) (message : Command) (n : String) (cluster : Cluster)
    (reply : Reply) (replies : (call sender message n cluster).1 = .ok reply) :
    reply.nodeId = n := by
  unfold call at replies
  split at replies
  · exact command_named replies
  · unfold send at replies
    split at replies
    · exact command_named replies
    all_goals cases replies

/-- Sending a command to the peers is calling them one after the other. -/
theorem sendAll_eq_callAll {peers : List Peer}
    (others : ∀ peer ∈ peers, peer.nodeId ≠ sender.id) :
    sendAll sender.requestTimeout message cluster peers =
      Scatter.callAll (call sender message) (peers.map (·.nodeId)) cluster := by
  induction peers generalizing cluster with
  | nil => rfl
  | cons peer rest ih =>
      rw [List.forall_mem_cons] at others
      have sends : call sender message peer.nodeId cluster =
          cluster.send sender.requestTimeout peer.nodeId message := if_neg others.1
      simp only [sendAll, List.map_cons, Scatter.callAll, sends, ih others.2]

/-- A broadcast calls the members one after the other. -/
theorem broadcast_eq_callAll (distinct : sender.memberIds.Nodup) (cluster : Cluster)
    (message : Command) :
    cluster.broadcast sender message =
      (Broadcast.collect message
          (Scatter.callAll (call sender message) sender.memberIds cluster).1,
        (Scatter.callAll (call sender message) sender.memberIds cluster).2) := by
  have others : ∀ peer ∈ sender.peers, peer.nodeId ≠ sender.id := fun peer member same =>
    (List.nodup_cons.mp distinct).1 (same ▸ List.mem_map_of_mem member)
  have own : call sender message sender.id cluster =
      cluster.command sender.requestTimeout sender.id message := if_pos rfl
  simp only [broadcast, Node.memberIds, Scatter.callAll, own, sendAll_eq_callAll others]

/-- What the calls of a broadcast through a cluster come to, in one of the ways to make them. -/
structure Ends (cluster : Cluster) (sender : Node) (message : Command)
    (outcome : String → Except ClusterError Reply) (scatter : Scatter Cluster) : Prop where
  run : ∃ signals,
    scatter = (Scatter.start cluster).run sender.memberIds (call sender message) signals
  landed : ∀ n ∈ sender.memberIds, scatter.flights n = .landed (outcome n)
  answer : scatter.answer? sender.memberIds message = some (cluster.broadcast sender message).1
  world : scatter.world = (cluster.broadcast sender message).2

/-- A broadcast through a cluster is one whose calls end, and accounts for them. -/
theorem exists_ends (distinct : sender.memberIds.Nodup) (cluster : Cluster) (message : Command) :
    ∃ outcome scatter, cluster.Ends sender message outcome scatter ∧
      Broadcast.Accounts message sender.memberIds outcome (cluster.broadcast sender message).1 := by
  have whole := broadcast_eq_callAll distinct cluster message
  obtain ⟨world, outcomes, _⟩ := @Scatter.run_inOrder _ _ (call sender message) (.start cluster)
    sender.memberIds (fun _ member => member) distinct fun _ _ => rfl
  have answered : ((Scatter.start cluster).run sender.memberIds (call sender message)
      (Scatter.inOrder sender.memberIds)).answer? sender.memberIds message =
      some (cluster.broadcast sender message).1 := by
    rw [Scatter.answer?, outcomes, whole]
    rfl
  obtain ⟨_, outcome, landed, accounts⟩ :=
    Scatter.accounts_run (call_named sender message) distinct message _ answered
  refine ⟨outcome, _, ⟨⟨_, rfl⟩, landed, answered, ?_⟩, accounts⟩
  rw [world, whole]
  rfl

/-- What is told of a write is what became of the broadcast. -/
theorem notify_eq (cluster : Cluster) (sender : Node) (message : Command) :
    (cluster.notify sender message).1 =
      .bestEffort message (cluster.broadcast sender message).1 := by
  unfold notify
  generalize cluster.broadcast sender message = result
  obtain ⟨outcome, after⟩ := result
  cases outcome with
  | ok report => rfl
  | error e => cases e <;> rfl

/-- What is told of a command lists every member, whether any was reached or not. -/
theorem notify_lists (distinct : sender.memberIds.Nodup) (cluster : Cluster) (message : Command) :
    ∃ outcome scatter, cluster.Ends sender message outcome scatter ∧
      (cluster.notify sender message).1.Lists message sender.memberIds outcome := by
  obtain ⟨outcome, scatter, ends, accounts⟩ := exists_ends distinct cluster message
  refine ⟨outcome, scatter, ends, ?_⟩
  rw [notify_eq]
  exact accounts.bestEffort

/-- A put that was stored told every member to reload the id. -/
theorem put_lists (distinct : sender.memberIds.Nodup) {id : String} {request : PutRequest}
    {response : PutResponse} (stored : (cluster.put sender id request).1 = .ok response) :
    ∃ store outcome scatter,
      ({ cluster with store } : Cluster).Ends sender (.reload id) outcome scatter ∧
      response.invalidation.Lists (.reload id) sender.memberIds outcome ∧
      (response.invalidation.failed = [] →
        response.invalidation.succeeded.map (·.nodeId) = sender.memberIds) := by
  cases taken : cluster.accept sender id request with
  | error e =>
      rw [put, taken] at stored
      cases stored
  | ok result =>
      obtain ⟨definition, store⟩ := result
      obtain ⟨outcome, scatter, ends, lists⟩ :=
        notify_lists distinct { cluster with store } (.reload id)
      rw [put, taken] at stored
      cases stored
      exact ⟨store, outcome, scatter, ends, lists, lists.complete⟩

/-- A deletion that was done told every member to clear the id. -/
theorem delete_lists (distinct : sender.memberIds.Nodup) {id : String} {response : DeleteResponse}
    (deleted : (cluster.delete sender id).1 = .ok response) :
    ∃ store outcome scatter,
      ({ cluster with store } : Cluster).Ends sender (.clear (some id)) outcome scatter ∧
      response.invalidation.Lists (.clear (some id)) sender.memberIds outcome ∧
      (response.invalidation.failed = [] →
        response.invalidation.succeeded.map (·.nodeId) = sender.memberIds) := by
  rcases delete_cases cluster sender id with ⟨e, refused⟩ | ⟨held, store, _, deletes⟩
  · rw [refused] at deleted
    cases deleted
  · obtain ⟨outcome, scatter, ends, lists⟩ :=
      notify_lists distinct { cluster with store } (.clear (some id))
    rw [deletes] at deleted
    cases deleted
    exact ⟨store, outcome, scatter, ends, lists, lists.complete⟩

end Cluster

/-- **A broadcast accounts for every member once.** The members of accepted settings are distinct.
However their calls come to their ends, none of them waits for another to be sent the command; when
all have ended, each was sent the command once, and the answer accounts for each of them. A
broadcast through a cluster is such a broadcast, and what is told of the command of a put or of a
deletion lists every member, whether any was reached or not. -/
theorem broadcasts_account_for_members {kinds : Kinds} {settings : Settings} {node : Node}
    (accepted : settings.check = .ok ()) (made : Node.ofSettings kinds settings = .ok node) :
    let members := node.memberIds
    members.Nodup ∧
    (∀ (World : Type) (call : String → World → Except ClusterError Reply × World),
      (∀ n world reply, (call n world).1 = .ok reply → reply.nodeId = n) →
      ∀ (message : Command) (world : World) (signals : List Signal),
        let scatter := (Scatter.start world).run members call signals
        (∀ n ∈ members, n ∉ scatter.sent →
          (scatter.step members call (.send n)).sent = scatter.sent ++ [n]) ∧
        ∀ answer, scatter.answer? members message = some answer →
          scatter.sent.Perm members ∧
          ∃ outcome : String → Except ClusterError Reply,
            (∀ n ∈ members, scatter.flights n = .landed (outcome n)) ∧
            Broadcast.Accounts message members outcome answer ∧
            ∀ report, answer = .ok report →
              (report.succeeded.map (·.nodeId) ++ report.failed.map (·.nodeId)).Perm members) ∧
    ∀ (registry : Registry) (cluster : Cluster),
      let sender := { node with registry }
      (∀ message, ∃ outcome scatter, cluster.Ends sender message outcome scatter) ∧
      (∀ id request response, (cluster.put sender id request).1 = .ok response →
        ∃ store outcome scatter,
          ({ cluster with store } : Cluster).Ends sender (.reload id) outcome scatter ∧
          response.invalidation.Lists (.reload id) members outcome ∧
          (response.invalidation.failed = [] →
            response.invalidation.succeeded.map (·.nodeId) = members)) ∧
      ∀ id response, (cluster.delete sender id).1 = .ok response →
        ∃ store outcome scatter,
          ({ cluster with store } : Cluster).Ends sender (.clear (some id)) outcome scatter ∧
          response.invalidation.Lists (.clear (some id)) members outcome ∧
          (response.invalidation.failed = [] →
            response.invalidation.succeeded.map (·.nodeId) = members) := by
  have distinct : node.memberIds.Nodup :=
    Node.memberIds_of_ofSettings made ▸ Settings.nodup_of_check accepted
  refine ⟨distinct, ?_, ?_⟩
  · intro World call named message world signals scatter
    have coherent := (Scatter.coherent_start node.memberIds world).run named signals
    refine ⟨fun n member unsent => coherent.sends member unsent, fun answer answered => ?_⟩
    obtain ⟨sent, outcome, landed, accounts⟩ :=
      Scatter.accounts_run named distinct message signals answered
    exact ⟨sent, outcome, landed, accounts, fun report same =>
      (accounts.reported report same).perm⟩
  · intro registry cluster sender
    have distinct : sender.memberIds.Nodup := distinct
    refine ⟨fun message => ?_, fun _ _ _ stored => Cluster.put_lists distinct stored,
      fun _ _ deleted => Cluster.delete_lists distinct deleted⟩
    obtain ⟨outcome, scatter, ends, _⟩ := Cluster.exists_ends distinct cluster message
    exact ⟨outcome, scatter, ends⟩

/-! ### A broadcast whose calls overtake each other -/

/-- The settings of a node with two peers. -/
def threeMembers : Settings where
  httpBind := "127.0.0.1:8080"
  adminBind := "127.0.0.1:8081"
  logLevel := "info"
  nodeId := "a"
  backend := "memory"
  storageTimeout := 1000
  database := none
  cache := .unbounded
  requestTimeout := 1000
  peers := [⟨"b", "http://b"⟩, ⟨"c", "http://c"⟩]
  paramNamespace := "qrw"
  threshold := none

/-- The node, whose first peer is down and whose second one reports an error to whatever it is sent.
-/
def outage (node : Node) : Cluster :=
  { Cluster.ofNodes .none [node] with
    down := ["b"], faults := [("c", .failing "Simulated outage.")] }

/-- The last member is sent the command first, and twice if that were possible. -/
def overtaking : List Signal :=
  [.send "c", .send "b", .land "c", .send "c", .send "a", .land "a", .land "b"]

/-- The node alone succeeds; one peer is not reached, the other reports an error, and each of the
three is told of once. -/
theorem threeMembers_accounted :
    threeMembers.check = .ok () ∧
    ∃ node, Node.ofSettings .builtin threeMembers = .ok node ∧
      let scatter := (Scatter.start (outage node)).run node.memberIds
        (Cluster.call node (.clear none)) overtaking
      scatter.sent.Perm ["a", "b", "c"] ∧
      ∃ report, scatter.answer? node.memberIds (.clear none) = some (.ok report) ∧
        report.succeeded = [⟨"a", 0⟩] ∧
        report.failed = [⟨"b", .unreachable, "Connection refused."⟩,
          ⟨"c", .nodeError, "Simulated outage."⟩] ∧
        (report.succeeded.map (·.nodeId) ++ report.failed.map (·.nodeId)).Perm ["a", "b", "c"] := by
  have accepted : threeMembers.check = .ok () := by rfl
  obtain ⟨node, made, named, answered⟩ : ∃ node, Node.ofSettings .builtin threeMembers = .ok node ∧
      node.memberIds = ["a", "b", "c"] ∧
      ((Scatter.start (outage node)).run node.memberIds (Cluster.call node (.clear none))
        overtaking).answer? node.memberIds (.clear none) = some (.ok ⟨.clear none, [⟨"a", 0⟩],
          [⟨"b", .unreachable, "Connection refused."⟩,
            ⟨"c", .nodeError, "Simulated outage."⟩]⟩) := ⟨_, rfl, rfl, rfl⟩
  refine ⟨accepted, node, made, ?_⟩
  obtain ⟨_, accounts, _⟩ := broadcasts_account_for_members accepted made
  obtain ⟨sent, _, _, _, once⟩ := (accounts Cluster (Cluster.call node (.clear none))
    (Cluster.call_named node (.clear none)) (.clear none) (outage node) overtaking).2 _ answered
  exact ⟨named ▸ sent, _, answered, rfl, rfl, named ▸ once _ rfl⟩

end QueryRewriting
