import QueryRewriting.Proofs.Cluster.Renewals

/-! # Reloads that are cut off

A node drops the reload of its own partitions when the time for a broadcast is over, at whatever
step it is then. The partitions before it are as a complete reload leaves them, those after it are
untouched, and the one where it stands is not half changed: at every step there is one instance
under the id, old or new, or none, because the definition is gone. -/

namespace QueryRewriting

/-- A reply that a store may give is what some store answers to a read. -/
theorem Store.Gives.exists_get {store : Store} {id : String} {reply : StoreReply}
    (gives : store.Gives id reply) : ∃ other : Store, (other.get id).1 = reply := by
  rcases gives with rfl | rfl
  · refine ⟨{ store with available := true }, ?_⟩
    rw [get_eq]
    exact find?_congr rfl id
  · refine ⟨{ store with available := false }, ?_⟩
    rw [get_eq]
    rfl

/-- A store that replies that there is no definition holds no document. -/
theorem Store.Gives.get?_eq_none {store : Store} {id : String}
    (gives : store.Gives id (.ok none)) : store.documents.get? id = none := by
  rcases gives with found | refused
  · unfold find? at found
    split at found
    · assumption
    · split at found <;> cases found
  · cases refused

namespace PartitionCache

/-- A partition that is whole stays so if more replies are allowed. -/
theorem Whole.mono {kinds : Kinds} {id : String} {told heard : StoreReply → Prop}
    {old now : PartitionCache} (whole : Whole kinds id told old now)
    (more : ∀ reply, told reply → heard reply) : Whole kinds id heard old now where
  own := by
    rcases whole.own with kept | ⟨reply, made, given, compiles, held⟩ | ⟨gone, given⟩
    · exact .inl kept
    · exact .inr (.inl ⟨reply, made, more reply given, compiles, held⟩)
    · exact .inr (.inr ⟨gone, more _ given⟩)
  others := whole.others

/-- What is lost amid a visit is the id that it reloads, of which it was told that it is gone. -/
theorem Whole.of_lost {kinds : Kinds} {id key : String} {told : StoreReply → Prop}
    {old now : PartitionCache} (whole : Whole kinds id told old now)
    (held : old.contains key = true) (lost : now.contains key = false) :
    key = id ∧ told (.ok none) := by
  unfold contains at held lost
  by_cases same : key = id
  · subst same
    rcases whole.own with kept | ⟨_, made, _, _, installed⟩ | ⟨_, told⟩
    · rw [kept, held] at lost
      cases lost
    · rw [installed] at lost
      cases lost
    · exact ⟨rfl, told⟩
  · rw [whole.others key same, held] at lost
    cases lost

end PartitionCache

namespace Course

variable {before : Registry} {id : String} {places : List Nat} {visits : List Visit}
  {course : Course}

/-- The replies of the visits so far are among those of the course. -/
theorem Stands.mem_replies (stands : Stands before id places visits course)
    {entry : Nat × StoreReply} (member : entry ∈ repliesOf visits) : entry ∈ course.replies := by
  have head := stands.head
  unfold Heads at head
  split at head
  · rw [head.2]
    exact member
  · obtain ⟨_, _, _, _, _, _, _, _, replies⟩ := head
    rw [replies]
    exact List.mem_append_left _ member

/-- The reply to a visit that is complete. -/
theorem Stands.received {visit : Visit} (stands : Stands before id places visits course)
    (member : visit ∈ visits) {reply : StoreReply} (replied : visit.reply? = some reply) :
    (visit.place, reply) ∈ course.replies := by
  refine stands.mem_replies (List.mem_filterMap.mpr ⟨visit, member, ?_⟩)
  rw [replied]
  rfl

/-- The places that were visited are among those of the course. -/
theorem Stands.mem_places {visit : Visit} (stands : Stands before id places visits course)
    (member : visit ∈ visits) : visit.place ∈ places := by
  rw [← stands.order]
  exact List.mem_append_left _ (List.mem_map_of_mem member)

/-- What a course has done at the place where it is. -/
theorem Stands.whole_head {place : Nat} {rest : List Nat}
    (stands : Stands before id places visits course) (visitable : Visitable before places)
    (pending : course.sweep.pending = place :: rest) :
    ∃ old now, before.cache? place = some old ∧ course.registry.cache? place = some now ∧
      PartitionCache.Whole before.kinds id (fun reply => (place, reply) ∈ course.replies) old
        now := by
  have order := stands.order
  have head := stands.head
  unfold Heads at head
  rw [pending] at order head
  obtain ⟨old, now, asked, reply?, there, here, amid, _, replies⟩ := head
  obtain ⟨cache, same, regular⟩ := visitable.caches place (order ▸ by simp)
  cases there.symm.trans same
  refine ⟨old, now, there, here, (amid.whole regular).mono ?_⟩
  rintro reply rfl
  rw [replies]
  exact List.mem_append_right _ (by simp)

/-- What a course has done at a place that it has left. -/
theorem Stands.whole_visited {visit : Visit} (stands : Stands before id places visits course)
    (visitable : Visitable before places) (member : visit ∈ visits) :
    ∃ old now, before.cache? visit.place = some old ∧
      course.registry.cache? visit.place = some now ∧
      PartitionCache.Whole before.kinds id (fun reply => (visit.place, reply) ∈ course.replies)
        old now := by
  obtain ⟨old, there, asked, left⟩ := stands.visited visit member
  obtain ⟨cache, same, regular⟩ := visitable.caches visit.place (stands.mem_places member)
  cases there.symm.trans same
  have complete : PartitionCache.Amid before.kinds id old _ _ _ visit.reply? := .answered _ asked
  have told := fun reply (given : visit.reply? = some reply) => stands.received member given
  exact ⟨old, _, there, left, (complete.whole regular).mono told⟩

/-- A partition that a course has left is as a complete reload leaves it, with a store that gives
the reply which the course received for it. -/
theorem Stands.visited_reload {visit : Visit} (stands : Stands before id places visits course)
    (quiet : ∀ place ∈ places, ∃ cache, before.cache? place = some cache ∧
      cache.Quiet before.kinds fun _ _ => True)
    (given : ∀ entry ∈ course.replies, ∃ store : Store, store.Gives id entry.2)
    (member : visit ∈ visits) :
    ∃ (old : PartitionCache) (store : Store), before.cache? visit.place = some old ∧
      course.registry.cache? visit.place = some (old.reload before.kinds id store).2.2 ∧
      (old.contains id = true → (visit.place, (store.get id).1) ∈ course.replies) := by
  obtain ⟨old, there, asked, left⟩ := stands.visited visit member
  obtain ⟨cache, same, quiet⟩ := quiet visit.place (stands.mem_places member)
  cases there.symm.trans same
  obtain ⟨store, replies⟩ : ∃ store : Store, ∀ reply ∈ visit.reply?, (store.get id).1 = reply := by
    cases replied : visit.reply? with
    | none => exact ⟨.empty, nofun⟩
    | some reply =>
        obtain ⟨met, gives⟩ := given _ (stands.received member replied)
        obtain ⟨store, answers⟩ := gives.exists_get
        exact ⟨store, fun other same => answers.trans (Option.some.inj same)⟩
  have reloads := quiet.reload_eq_visit asked replies
  refine ⟨old, store, there, ?_, fun held => ?_⟩
  · rw [left, ← reloads]
  · rw [← asked] at held
    obtain ⟨reply, replied⟩ := Option.isSome_iff_exists.mp held
    rw [replies reply replied]
    exact stands.received member replied

/-- What a course has taken away is the id that it reloads, from a partition for which it was told
that the definition is gone. -/
theorem Stands.of_lost {place : Nat} {old now : PartitionCache} {key : String}
    (stands : Stands before id places visits course) (visitable : Visitable before places)
    (there : before.cache? place = some old) (here : course.registry.cache? place = some now)
    (held : old.contains key = true) (lost : now.contains key = false) :
    key = id ∧ (place, .ok none) ∈ course.replies := by
  by_cases left : place ∈ visits.map (·.place)
  · obtain ⟨visit, member, rfl⟩ := List.mem_map.mp left
    obtain ⟨_, _, before, after, whole⟩ := stands.whole_visited visitable member
    cases there.symm.trans before
    cases here.symm.trans after
    exact whole.of_lost held lost
  by_cases first : course.sweep.pending.head? = some place
  · obtain ⟨rest, pending⟩ := List.head?_eq_some_iff.mp first
    obtain ⟨_, _, before, after, whole⟩ := stands.whole_head visitable pending
    cases there.symm.trans before
    cases here.symm.trans after
    exact whole.of_lost held lost
  · have untouched := stands.others place left first
    rw [there, here] at untouched
    cases untouched
    cases held.symm.trans lost

end Course

/-! ## Reports -/

/-- The failures that the answer to a broadcast lists. -/
def Broadcast.listed : Except ClusterError Broadcast → List Failure
  | .ok report => report.failed
  | .error (.noNodesReachable failed) => failed
  | .error _ => []

/-- Every failure among the outcomes is listed, whether anybody was reached or not. -/
theorem Broadcast.listed_collect (message : Command) (outcomes : Outcomes) :
    listed (collect message outcomes) = failures outcomes := by
  simp only [collect]
  split <;> rfl

/-- A reload that has run out of time stands amid a course. -/
theorem Node.executeWithin_none {node : Node} {delays : Delays} {time : Nat} {id : String}
    {store : Store} (regular : node.registry.Regular)
    (cut : (node.executeWithin delays time (.reload id) store).1 = none) :
    ∃ stores : List Store,
      (∀ met ∈ stores, met.documents = store.documents ∧ met.available = store.available) ∧
      ((Course.start node.registry id node.registry.handles).run stores).sweep.pending ≠ [] ∧
      (node.executeWithin delays time (.reload id) store).2.2 = { node with
        registry :=
          ((Course.start node.registry id node.registry.handles).run stores).registry } := by
  obtain ⟨stores, _, met, runs, _⟩ := regular.run_eq id store
    (Sweep.stepsWithin delays (Sweep.maxSteps node.registry.handles.length) time
      (.start id node.registry.handles) store node.registry)
  simp only [executeWithin, Registry.reloadWithin, runs] at cut ⊢
  refine ⟨stores, met, fun ended => ?_, rfl⟩
  simp [ended] at cut

/-- A node whose own reload was cut off is listed as not reached. -/
theorem Cluster.listed_of_cut {cluster : Cluster} {sender node : Node} {message : Command}
    (found : cluster.find? sender.id = some node)
    (cut :
      (node.executeWithin cluster.delays sender.requestTimeout message cluster.store).1 = none) :
    ⟨sender.id, .unreachable, s!"No reply within {sender.requestTimeout} ms."⟩ ∈
      Broadcast.listed (cluster.broadcast sender message).1 := by
  have own : (cluster.command sender.requestTimeout sender.id message).1 =
      .error (noReply sender.id sender.requestTimeout) := by
    simp only [command, found, cut]
  simp only [broadcast, Broadcast.listed_collect, own]
  exact List.mem_cons_self

/-- **A reload that is cut off leaves no partition half changed.** Every node is orderly between
operations. Whatever the store is like at each step of a reload, and after however many steps it is
dropped, the places that it has left are as a complete reload leaves them, those that it has not
come to are untouched, and what is at the place where it stands is whole; an id is lost only where
the store, when it was read, had no definition of it. When the time for a broadcast is over amid the
reload of the sender's own partitions, that is how they are left, and the sender is listed as not
reached. -/
theorem cut_off_reloads_leave_partitions_whole :
    (∀ (chronicle : Chronicle) t n node, (chronicle.state t).find? n = some node →
      node.registry.Orderly) ∧
    (∀ (registry : Registry) (id : String) (places : List Nat) (stores : List Store),
      registry.Orderly → places.Perm registry.handles →
      let course := (Course.start registry id places).run stores
      ∃ visited, places = visited ++ course.sweep.pending ∧
        (∀ place ∈ visited, ∃ (old : PartitionCache) (store : Store),
          registry.cache? place = some old ∧
          course.registry.cache? place = some (old.reload registry.kinds id store).2.2 ∧
          (old.contains id = true → (place, (store.get id).1) ∈ course.replies)) ∧
        (∀ place, course.sweep.pending.head? = some place → ∃ old now,
          registry.cache? place = some old ∧ course.registry.cache? place = some now ∧
          PartitionCache.Whole registry.kinds id (fun reply => (place, reply) ∈ course.replies)
            old now) ∧
        (∀ place, place ∉ visited → course.sweep.pending.head? ≠ some place →
          course.registry.cache? place = registry.cache? place) ∧
        course.registry.opened = registry.opened ∧
        ∀ place old now key, registry.cache? place = some old →
          course.registry.cache? place = some now → old.contains key = true →
          now.contains key = false →
          key = id ∧ (place, .ok none) ∈ course.replies ∧
            ∃ met ∈ stores, met.documents.get? id = none) ∧
    ∀ (cluster : Cluster) (sender node : Node) (id : String),
      cluster.find? sender.id = some node → node.registry.Orderly →
      (node.executeWithin cluster.delays sender.requestTimeout (.reload id) cluster.store).1 =
        none →
      (∃ stores : List Store,
        (∀ met ∈ stores, met.documents = cluster.store.documents ∧
          met.available = cluster.store.available) ∧
        let course := (Course.start node.registry id node.registry.handles).run stores
        course.sweep.pending ≠ [] ∧
        (node.executeWithin cluster.delays sender.requestTimeout (.reload id) cluster.store).2.2 =
          { node with registry := course.registry }) ∧
      ⟨sender.id, .unreachable, s!"No reply within {sender.requestTimeout} ms."⟩ ∈
        Broadcast.listed (cluster.broadcast sender (.reload id)).1 := by
  refine ⟨fun chronicle t n node found => chronicle.orderly_state t found, ?_, ?_⟩
  · intro registry id places stores orderly order course
    have visitable := orderly.regular.visitable order
    have quiet := fun place member => orderly.quiet place (order.mem_iff.mp member)
    obtain ⟨visits, stands⟩ := Course.exists_stands visitable id stores
    have given (entry : Nat × StoreReply) (member : entry ∈ course.replies) :
        ∃ met ∈ stores, met.Gives id entry.2 := by
      rcases Course.gives_of_mem_run member with none | met
      · cases none
      · exact met
    -- The visits that are accounted for; the next place is the one that was cut off.
    refine ⟨visits.map (·.place), stands.order.symm, ?_, ?_, ?_, ?_, ?_⟩
    · intro place left
      obtain ⟨visit, member, rfl⟩ := List.mem_map.mp left
      refine stands.visited_reload quiet (fun entry listed => ?_) member
      obtain ⟨met, _, gives⟩ := given entry listed
      exact ⟨met, gives⟩
    · intro place first
      obtain ⟨rest, pending⟩ := List.head?_eq_some_iff.mp first
      exact stands.whole_head visitable pending
    · exact stands.others
    · exact (congrArg Registry.opened stands.frame :)
    · intro place old now key there here held lost
      obtain ⟨own, told⟩ := stands.of_lost visitable there here held lost
      obtain ⟨met, member, gives⟩ := given _ told
      exact ⟨own, told, met, member, gives.get?_eq_none⟩
  · intro cluster sender node id found orderly cut
    exact ⟨Node.executeWithin_none orderly.regular cut, Cluster.listed_of_cut found cut⟩

/-! ### A slow store -/

/-- A cluster whose store has lost everything, and takes longer than half of the time that a node
has for a broadcast. -/
def Cluster.slowed (cluster : Cluster) : Cluster :=
  { cluster with store := .empty, delays := { toRead := 0, toReply := 600 } }

/-- The time is over amid the second visit: the first partition has dropped its instance, the second
one still holds its own, and the node is listed as not reached. -/
theorem slowed_threeShards_cut_off :
    ∃ node, (threeShards.state 4).find? "a" = some node ∧
      (∃ stores : List Store, (∀ met ∈ stores, met.documents = [] ∧ met.available = true) ∧
        let course := (Course.start node.registry "r" node.registry.handles).run stores
        (∃ visited, node.registry.handles = visited ++ course.sweep.pending) ∧
        course.sweep.pending ≠ [] ∧
        [0, 1].map (fun place => (course.registry.cache? place).map (·.contains "r")) =
          [some false, some true]) ∧
      ⟨"a", .unreachable, "No reply within 1000 ms."⟩ ∈
        Broadcast.listed ((threeShards.state 4).slowed.broadcast node (.reload "r")).1 := by
  obtain ⟨orderly, wholes, cuts⟩ := cut_off_reloads_leave_partitions_whole
  have facts : ((threeShards.state 4).find? "a").any (fun node =>
      let executed := node.executeWithin { toRead := 0, toReply := 600 } node.requestTimeout
        (.reload "r") .empty
      node.id = "a" ∧ node.requestTimeout = 1000 ∧ executed.1.isNone ∧
      [0, 1].map (fun place => (executed.2.2.registry.cache? place).map (·.contains "r")) =
        [some false, some true]) = true := by decide +kernel
  obtain ⟨node, found, facts⟩ := (Option.any_eq_true _ _).mp facts
  obtain ⟨named, time, cut, left⟩ := of_decide_eq_true facts
  have orderly := orderly threeShards 4 "a" node found
  generalize threeShards.state 4 = cluster at found ⊢
  obtain ⟨⟨stores, met, unended, executed⟩, listed⟩ := cuts cluster.slowed node node "r"
    (named.symm ▸ found) orderly (Option.isNone_iff_eq_none.mp cut)
  obtain ⟨visited, order, _⟩ :=
    wholes node.registry "r" node.registry.handles stores orderly (.refl _)
  have after : (node.executeWithin { toRead := 0, toReply := 600 } node.requestTimeout (.reload "r")
    .empty).2.2 = _ := executed
  rw [after] at left
  rw [named, time] at listed
  exact ⟨node, found, ⟨stores, met, ⟨visited, order⟩, unended, left⟩, listed⟩

end QueryRewriting
