import QueryRewriting.Proofs.Cache.Courses
import QueryRewriting.Proofs.Cache.Successive
import QueryRewriting.Proofs.Cluster.Partitions

/-! # Reloads of all partitions

A reload of an id reads the store once for each open partition that holds the id, renews what it
holds by the reply to its own read, and goes on whatever comes of it. It ends with the first error
that it has met, or with the number of the partitions that held the id. Only the error depends on
the order in which it visits the partitions, and only if the replies are not all the same. -/

namespace QueryRewriting

namespace Registry

/-- What is true of every registry, also while calls are under way on its partitions. -/
structure Regular (registry : Registry) : Prop where
  apart : registry.handles.Nodup
  caches : ∀ place ∈ registry.handles,
    ∃ cache, registry.cache? place = some cache ∧ cache.Regular

/-- An orderly registry is regular. -/
theorem Orderly.regular {registry : Registry} (orderly : registry.Orderly) : registry.Regular where
  apart := orderly.apart
  caches place inside := by
    obtain ⟨cache, present, quiet⟩ := orderly.quiet place inside
    exact ⟨cache, present, quiet.regular⟩

/-- The places of a regular registry can be visited in any order. -/
theorem Regular.visitable {registry : Registry} {places : List Nat} (regular : registry.Regular)
    (order : places.Perm registry.handles) : Course.Visitable registry places where
  apart := order.nodup_iff.mpr regular.apart
  caches place member := regular.caches place (order.mem_iff.mp member)

/-- Whether an id is held at a place. -/
def holdsAt (registry : Registry) (id : String) (place : Nat) : Bool :=
  (registry.cache? place).any (·.contains id)

/-- How a reload ends, and what it leaves, if one and the same reply is given to all of its reads.
-/
def renewed (registry : Registry) (id : String) (reply : StoreReply) :
    Except LoadError Nat × Registry :=
  let holding := (registry.handles.filter (registry.holdsAt id)).length
  (match if holding = 0 then none else registry.kinds.refusal? id reply with
    | some e => .error e
    | none => .ok holding,
  { registry with
    caches := registry.caches.mapIdx fun place cache =>
      if place ∈ registry.handles then
        (cache.visit registry.kinds id (if cache.contains id then some reply else none)).2
      else cache })

end Registry

namespace Course

variable {before : Registry} {id : String} {places : List Nat} {visits : List Visit}
  {course : Course}

/-! ## What a course tells -/

/-- Who has received a reply is who has asked. -/
theorem map_fst_repliesOf (visits : List Visit) : (repliesOf visits).map (·.1) = asksOf visits := by
  induction visits with
  | nil => rfl
  | cons visit rest ih =>
      obtain ⟨place, _ | reply⟩ := visit
      · simpa [repliesOf, asksOf] using ih
      · simpa [repliesOf, asksOf] using ih

/-- The first reply of a sort is that of the first visit with one. -/
theorem findSome?_repliesOf {α : Type} (f : StoreReply → Option α) (visits : List Visit) :
    (repliesOf visits).findSome? (fun entry => f entry.2) =
      visits.findSome? fun visit => visit.reply?.bind f := by
  induction visits with
  | nil => rfl
  | cons visit rest ih =>
      obtain ⟨place, _ | reply⟩ := visit
      · simpa [repliesOf] using ih
      · unfold repliesOf at ih
        simp [repliesOf, List.findSome?_cons, ih]

/-- A place that was not visited has no reply. -/
theorem lookup_repliesOf_of_not_mem {place : Nat} (absent : place ∉ visits.map (·.place)) :
    (repliesOf visits).lookup place = none := by
  rw [List.lookup_eq_none_iff]
  intro entry member
  have listed : entry.1 ∈ (repliesOf visits).map (·.1) := List.mem_map_of_mem member
  rw [map_fst_repliesOf, asksOf] at listed
  obtain ⟨visit, asked, same⟩ := List.mem_map.mp listed
  rw [bne_iff_ne]
  rintro rfl
  exact absent (same ▸ List.mem_map_of_mem (List.mem_filter.mp asked).1)

/-- The reply that was received for a place is that of its visit. -/
theorem lookup_repliesOf {visit : Visit} (different : (visits.map (·.place)).Nodup)
    (member : visit ∈ visits) : (repliesOf visits).lookup visit.place = visit.reply? := by
  induction visits with
  | nil => cases member
  | cons first rest ih =>
      obtain ⟨apart, different⟩ := List.nodup_cons.mp different
      rcases List.mem_cons.mp member with rfl | later
      · cases replied : visit.reply? with
        | none => simpa [repliesOf, replied] using lookup_repliesOf_of_not_mem apart
        | some reply => simp [repliesOf, replied]
      · have other : (visit.place == first.place) = false := by
          rw [beq_eq_false_iff_ne]
          exact fun same => apart (List.mem_map.mpr ⟨visit, later, same⟩)
        have rest := ih different later
        cases replied : first.reply? with
        | none => simpa [repliesOf, replied] using rest
        | some reply => simpa [repliesOf, replied, List.lookup_cons, other] using rest

/-- The store was asked for the places where the id is held, and for no other. -/
theorem Stands.asksOf_eq (stands : Stands before id places visits course) :
    asksOf visits = (visits.map (·.place)).filter (before.holdsAt id) := by
  rw [asksOf, List.filter_map]
  congr 1
  refine List.filter_congr fun visit member => ?_
  obtain ⟨cache, present, asked, _⟩ := stands.visited visit member
  rw [asked, Function.comp_apply, Registry.holdsAt, present]
  rfl

/-- A sweep fails with the first reply that refuses it, and counts the partitions that hold the id.
-/
theorem Stands.outcome_eq (stands : Stands before id places visits course) :
    course.sweep.outcome =
      match (repliesOf visits).findSome? fun entry => before.kinds.refusal? id entry.2 with
      | some e => .error e
      | none => .ok (asksOf visits).length := by
  rw [findSome?_repliesOf, Sweep.outcome, stands.failure]
  cases refused : visits.findSome? fun visit => visit.reply?.bind (before.kinds.refusal? id) with
  | some e => rfl
  | none =>
      rw [stands.renewed, asksOf, List.length_map, ← List.countP_eq_length_filter]
      refine congrArg Except.ok (List.countP_congr fun visit member => ?_)
      have unrefused := List.findSome?_eq_none_iff.mp refused visit member
      cases replied : visit.reply? with
      | none => rfl
      | some reply =>
          rw [replied] at unrefused
          simp [show before.kinds.refusal? id reply = none from unrefused]

/-! ## Sweeps over a store that nobody writes -/

/-- What the steps of a sweep leave of the store. -/
theorem Stands.store_step (stands : Stands before id places visits course) (store : Store) :
    (course.sweep.step store course.registry).2.1 =
      { store with
        reads := store.reads + if store.available then course.sweep.asks.length else 0 } := by
  cases pending : course.sweep.pending with
  | nil => simp [Sweep.step, Sweep.asks, pending]
  | cons place rest =>
      have head := stands.head
      unfold Heads at head
      rw [pending] at head
      obtain ⟨_, now, _, _, _, here, _⟩ := head
      rcases course.sweep.phase.answered_or with ⟨outcome, answered⟩ | unanswered
      · simp [Sweep.step, Sweep.asks, Reload.asks, pending, answered]
      · rw [Sweep.step_of_unanswered pending here unanswered, Reload.store_step, Sweep.asks,
          pending]
        cases course.sweep.phase.asks <;> cases store.available <;> rfl

/-- A sweep over a store that nobody writes is a course, and the store counts its reads. -/
theorem Stands.run_eq (stands : Stands before id places visits course)
    (visitable : Visitable before places) (fuel : Nat) (store : Store) :
    ∃ stores reads, stores.length = fuel ∧
      (∀ met ∈ stores, met.documents = store.documents ∧ met.available = store.available) ∧
      Sweep.run fuel course.sweep store course.registry =
        ((course.run stores).sweep, { store with reads }, (course.run stores).registry) ∧
      reads + (if store.available then course.asked.length else 0) =
        store.reads + if store.available then (course.run stores).asked.length else 0 := by
  induction fuel generalizing course visits store with
  | zero => exact ⟨[], store.reads, rfl, nofun, rfl, rfl⟩
  | succ fuel ih =>
      obtain ⟨later, next⟩ := stands.step visitable store
      obtain ⟨stores, reads, length, met, runs, counts⟩ := ih next
        (course.sweep.step store course.registry).2.1
      have left := stands.store_step store
      rw [left] at met counts
      refine ⟨store :: stores, reads, congrArg Nat.succ length, ?_, ?_, ?_⟩
      · exact List.forall_mem_cons.mpr ⟨⟨rfl, rfl⟩, met⟩
      · refine Eq.trans runs ?_
        rw [left]
        rfl
      · have asked : (course.step store).asked.length =
            course.asked.length + course.sweep.asks.length := List.length_append
        rw [asked] at counts
        have same : (course.step store).run stores = course.run (store :: stores) := rfl
        rw [← same]
        cases works : store.available <;> simp [works] at counts ⊢ <;> omega

/-- A course over a store that nobody writes: every reply that it has received is that of the store,
and it reads only if the store works. -/
structure Steady (store : Store) (course : Course) : Prop where
  replies : ∀ entry ∈ course.replies, entry.2 = (store.get course.sweep.id).1
  reading : ∀ serial stamp, course.sweep.phase = .loading serial (.reading stamp) →
    store.available = true

/-- A course is steady as long as the store stays as it is. -/
theorem Steady.step {store met : Store} (steady : course.Steady store)
    (documents : met.documents = store.documents) (available : met.available = store.available) :
    (course.step met).Steady store := by
  have named : (course.step met).sweep.id = course.sweep.id := Sweep.id_step ..
  constructor
  · intro entry member
    rw [replies_step] at member
    rw [named]
    rcases List.mem_append.mp member with past | now
    · exact steady.replies entry past
    · have works : ∀ serial stamp, course.sweep.phase = .loading serial (.reading stamp) →
          met.available = true := fun serial stamp reads =>
        available.trans (steady.reading serial stamp reads)
      rw [Reload.eq_get_of_told? works (Sweep.told_of_received now)]
      exact Store.get_congr documents available _
  · intro serial stamp reads
    by_cases ended : course.sweep.pending = []
    · rw [step_ended ended] at reads
      exact steady.reading serial stamp reads
    · exact available.symm.trans (Sweep.available_of_reading ended reads)

/-- A course is steady over any number of such steps. -/
theorem Steady.run {store : Store} (steady : course.Steady store) {stores : List Store}
    (met : ∀ met ∈ stores, met.documents = store.documents ∧ met.available = store.available) :
    (course.run stores).Steady store := by
  induction stores generalizing course with
  | nil => exact steady
  | cons first rest ih =>
      obtain ⟨⟨documents, available⟩, later⟩ := List.forall_mem_cons.mp met
      exact ih (steady.step documents available) later

/-! ## Complete courses -/

/-- Wherever a course stands, it has made some visits. -/
theorem exists_stands (visitable : Visitable before places) (id : String) (stores : List Store) :
    ∃ visits, Stands before id places visits ((start before id places).run stores) :=
  (stands_start visitable id).run visitable stores

/-- A course that may take enough steps makes all of its visits. -/
theorem pending_run_start (registry : Registry) (id : String) {stores : List Store}
    (enough : Sweep.maxSteps places.length ≤ stores.length) :
    ((start registry id places).run stores).sweep.pending = [] := by
  refine pending_run (Nat.le_trans ?_ enough)
  cases places with
  | nil => exact Nat.le_refl _
  | cons place rest =>
      simp only [start, Sweep.start, Sweep.left, Reload.left, Sweep.maxSteps, Reload.maxSteps,
        List.length_cons]
      omega

/-- Once its visits are made, a course has asked and was told what they were. -/
theorem Stands.of_ended (stands : Stands before id places visits course)
    (ended : course.sweep.pending = []) :
    visits.map (·.place) = places ∧ course.asked = places.filter (before.holdsAt id) ∧
      course.replies = repliesOf visits := by
  have order := stands.order
  have head := stands.head
  unfold Heads at head
  rw [ended] at order head
  rw [List.append_nil] at order
  exact ⟨order, head.1.trans (order ▸ stands.asksOf_eq), head.2⟩

/-- What a complete course leaves at a place, by the reply to its own read. -/
theorem Stands.leaves {place : Nat} (stands : Stands before id places visits course)
    (ended : course.sweep.pending = []) (visitable : Visitable before places)
    (member : place ∈ places) :
    ∃ old new, before.cache? place = some old ∧ course.registry.cache? place = some new ∧
      (course.replies.lookup place).isSome = old.contains id ∧
      new = (old.visit before.kinds id (course.replies.lookup place)).2 ∧
      PartitionCache.Leaves before.kinds id (course.replies.lookup place) old new := by
  obtain ⟨order, _, replies⟩ := stands.of_ended ended
  obtain ⟨old, there, regular⟩ := visitable.caches place member
  have different := visitable.apart
  rw [← order] at member different
  obtain ⟨visit, made, rfl⟩ := List.mem_map.mp member
  obtain ⟨cache, present, asked, left⟩ := stands.visited visit made
  cases there.symm.trans present
  rw [replies, lookup_repliesOf different made]
  exact ⟨old, _, there, left, asked, rfl, regular.leaves fun held => asked ▸ held⟩

/-- What is at a place after a complete course that received one and the same reply. -/
theorem Stands.cache?_of_uniform {reply : StoreReply}
    (stands : Stands before id places visits course) (ended : course.sweep.pending = [])
    (visitable : Visitable before places) (uniform : ∀ entry ∈ course.replies, entry.2 = reply)
    (place : Nat) :
    course.registry.cache? place = (before.cache? place).map fun cache =>
      if place ∈ places then
        (cache.visit before.kinds id (if cache.contains id then some reply else none)).2
      else cache := by
  by_cases member : place ∈ places
  · obtain ⟨old, new, there, left, asked, rfl, _⟩ := stands.leaves ended visitable member
    rw [there, left, Option.map_some, if_pos member, ← asked]
    cases own : course.replies.lookup place with
    | none => rfl
    | some given =>
        obtain ⟨front, rest, split, _⟩ := List.lookup_eq_some_iff.mp own
        have same := uniform (place, given) (split ▸ List.mem_append_right _ List.mem_cons_self)
        rw [← same]
        rfl
  · have untouched := stands.others place
      ((stands.of_ended ended).1 ▸ member) (by rw [ended]; nofun)
    rw [untouched]
    cases before.cache? place <;> simp [member]

/-- Of replies that are all the same, the first is as good as any. -/
theorem findSome?_of_uniform {replies : List (Nat × StoreReply)} {reply : StoreReply}
    (uniform : ∀ entry ∈ replies, entry.2 = reply) {α : Type} (f : StoreReply → Option α) :
    (replies.findSome? fun entry => f entry.2) = if replies.length = 0 then none else f reply := by
  cases replies with
  | nil => rfl
  | cons first rest =>
      have every : ∀ entry ∈ first :: rest, f entry.2 = f reply := fun entry member =>
        congrArg f (uniform entry member)
      rw [List.findSome?_cons, every first List.mem_cons_self]
      cases told : f reply with
      | some value => rfl
      | none =>
          refine List.findSome?_eq_none_iff.mpr fun entry member => ?_
          exact (every entry (List.mem_cons_of_mem first member)).trans told

/-- How a complete course ends that received one and the same reply. -/
theorem Stands.outcome_of_uniform {reply : StoreReply}
    (stands : Stands before id places visits course) (ended : course.sweep.pending = [])
    (uniform : ∀ entry ∈ course.replies, entry.2 = reply) :
    course.sweep.outcome =
      match if (places.filter (before.holdsAt id)).length = 0 then none
        else before.kinds.refusal? id reply with
      | some e => .error e
      | none => .ok (places.filter (before.holdsAt id)).length := by
  obtain ⟨order, _, replies⟩ := stands.of_ended ended
  have asks := stands.asksOf_eq
  rw [order] at asks
  rw [replies] at uniform
  have length : (repliesOf visits).length = (places.filter (before.holdsAt id)).length := by
    rw [← asks, ← map_fst_repliesOf, List.length_map]
  rw [stands.outcome_eq, findSome?_of_uniform uniform, length, asks]

end Course

/-- In whatever order it visits the open partitions, a reload whose reads are all given one reply
comes to the same. -/
theorem Registry.Regular.run_uniform {registry : Registry} {id : String} {places : List Nat}
    {stores : List Store} {reply : StoreReply} (regular : registry.Regular)
    (order : places.Perm registry.handles) (enough : Sweep.maxSteps places.length ≤ stores.length)
    (uniform : ∀ entry ∈ ((Course.start registry id places).run stores).replies, entry.2 = reply) :
    (((Course.start registry id places).run stores).sweep.outcome,
      ((Course.start registry id places).run stores).registry) = registry.renewed id reply := by
  have visitable := regular.visitable order
  have ended := Course.pending_run_start registry id enough
  obtain ⟨visits, stands⟩ := Course.exists_stands visitable id stores
  refine Prod.ext ?_ ?_
  · have alike := (order.filter (registry.holdsAt id)).length_eq
    simp only [stands.outcome_of_uniform ended uniform, alike, renewed]
  · refine stands.frame.trans (congrArg (fun caches => { registry with caches }) ?_)
    refine List.ext_getElem? fun place => ?_
    have left := stands.cache?_of_uniform ended visitable uniform place
    simp only [order.mem_iff] at left
    rw [List.getElem?_mapIdx]
    exact left

/-- A sweep of the open partitions over a store that nobody writes is a course whose replies are all
those of the store, which counts its reads. -/
theorem Registry.Regular.run_eq {registry : Registry} (regular : registry.Regular) (id : String)
    (store : Store) (fuel : Nat) :
    ∃ stores, stores.length = fuel ∧
      (∀ met ∈ stores, met.documents = store.documents ∧ met.available = store.available) ∧
      let course := (Course.start registry id registry.handles).run stores
      Sweep.run fuel (.start id registry.handles) store registry =
        (course.sweep,
          { store with
            reads := store.reads + if store.available then course.asked.length else 0 },
          course.registry) ∧
      ∀ entry ∈ course.replies, entry.2 = (store.get id).1 := by
  obtain ⟨stores, reads, length, met, runs, counts⟩ := Course.Stands.run_eq
    (Course.stands_start (regular.visitable (.refl _)) id) (regular.visitable (.refl _)) fuel store
  have counted : reads = store.reads + if store.available then
      ((Course.start registry id registry.handles).run stores).asked.length else 0 := by
    rw [← counts]
    cases store.available <;> rfl
  have steady : (Course.start registry id registry.handles).Steady store := ⟨nofun, nofun⟩
  obtain ⟨visits, stands⟩ := Course.exists_stands (regular.visitable (.refl _)) id stores
  have told := (steady.run met).replies
  rw [stands.named] at told
  exact ⟨stores, length, met, counted ▸ runs, told⟩

/-- **A reload sweeps every partition.** Every node is regular between operations. Whatever the
store is like at each of its steps, and in whatever order it visits the open partitions, a reload
asks the store once for each partition that holds the id, and for no other; each is left as its own
reply makes it; what is under other ids, or closed, stays as it was; and the reload ends with the
first reply that refuses it, or with the number of partitions that held the id. If all replies are
the same, then the order does not matter. The reload of a node is such a course, in the order in
which the partitions were opened; as nobody writes the store meanwhile, all replies are those of the
store, which counts them. -/
theorem reload_sweeps_partitions :
    (∀ (chronicle : Chronicle) t n node, (chronicle.state t).find? n = some node →
      node.registry.Regular) ∧
    (∀ (registry : Registry) (id : String) (places : List Nat) (stores : List Store),
      registry.Regular → places.Perm registry.handles →
      Sweep.maxSteps places.length ≤ stores.length →
      let course := (Course.start registry id places).run stores
      let holding := places.filter (registry.holdsAt id)
      course.sweep.pending = [] ∧ course.asked = holding ∧ course.replies.map (·.1) = holding ∧
      (∀ place ∈ places, ∃ old new, registry.cache? place = some old ∧
        course.registry.cache? place = some new ∧
        PartitionCache.Leaves registry.kinds id (course.replies.lookup place) old new) ∧
      (∀ place, place ∉ places → course.registry.cache? place = registry.cache? place) ∧
      course.registry.opened = registry.opened ∧
      course.sweep.outcome =
        match course.replies.findSome? fun entry => registry.kinds.refusal? id entry.2 with
        | some e => .error e
        | none => .ok holding.length) ∧
    (∀ (registry : Registry) (id : String) (places others : List Nat) (stores rest : List Store)
        (reply : StoreReply),
      registry.Regular → places.Perm registry.handles → others.Perm registry.handles →
      Sweep.maxSteps places.length ≤ stores.length → Sweep.maxSteps others.length ≤ rest.length →
      let course := (Course.start registry id places).run stores
      let other := (Course.start registry id others).run rest
      (∀ entry ∈ course.replies, entry.2 = reply) → (∀ entry ∈ other.replies, entry.2 = reply) →
      other.sweep.outcome = course.sweep.outcome ∧ other.registry = course.registry) ∧
    ∀ (registry : Registry) (id : String) (store : Store), registry.Regular →
      ∃ stores, stores.length = Sweep.maxSteps registry.handles.length ∧
        let course := (Course.start registry id registry.handles).run stores
        registry.reload id store =
          (course.sweep.outcome,
            { store with
              reads := store.reads + if store.available then course.asked.length else 0 },
            course.registry) ∧
        ∀ entry ∈ course.replies, entry.2 = (store.get id).1 := by
  refine ⟨fun chronicle t n node found => (chronicle.orderly_state t found).regular, ?_, ?_, ?_⟩
  · intro registry id places stores regular order enough course holding
    have visitable := regular.visitable order
    have ended : course.sweep.pending = [] := Course.pending_run_start registry id enough
    obtain ⟨visits, stands⟩ := Course.exists_stands visitable id stores
    obtain ⟨listed, asked, replies⟩ := stands.of_ended ended
    have asks : Course.asksOf visits = holding := by rw [stands.asksOf_eq, listed]
    refine ⟨ended, asked, ?_, fun place member => ?_, fun place absent => ?_, ?_, ?_⟩
    · rw [replies, Course.map_fst_repliesOf, asks]
    · obtain ⟨old, new, there, left, _, _, leaves⟩ := stands.leaves ended visitable member
      exact ⟨old, new, there, left, leaves⟩
    · exact stands.others place (listed ▸ absent) (by rw [ended]; nofun)
    · exact (congrArg Registry.opened stands.frame :)
    · rw [stands.outcome_eq, replies, asks]
  -- Both come to what one reply, given everywhere, makes of the registry.
  · intro registry id places others stores rest reply regular order another enough sufficient course
      other uniform alike
    have first := regular.run_uniform order enough uniform
    have second := regular.run_uniform another sufficient alike
    exact Prod.mk.inj (second.trans first.symm)
  · intro registry id store regular
    obtain ⟨stores, length, _, runs, told⟩ := regular.run_eq id store
      (Sweep.maxSteps registry.handles.length)
    refine ⟨stores, length, ?_, told⟩
    simp only [Registry.reload, runs]

/-! ### A reload that meets an outage and a new definition -/

open Chronicle in
/-- A rewriter is put and run on two of three partitions that are opened. -/
def threeShards : Chronicle where
  start := .ofNodes .none [startedNode "a" "b"]
  fresh := by simp [Cluster.ofNodes, startedNode, Registry.empty]
  operations
    | 0 => .put "a" "r" ⟨"replace", labtopRules, none⟩
    | 1 => .rewrite "a" labtopSearch
    | 2 => .rewrite "a" { labtopSearch with partition := ⟨"products", 1⟩ }
    | _ => .rewrite "a" { labtopSearch with partition := ⟨"products", 2⟩, rewriters := [] }

/-- A store that is out of order, and works again with another definition before the last visit. -/
def recovering : List Store :=
  let renewed := Store.empty.write "r" (some (Definition.toDocument ⟨"r", "noop", [], none, 3⟩))
  List.replicate 8 { renewed with available := false } ++ List.replicate 22 renewed

/-- The last partition is passed over, the second one keeps its instance, and the first one, which
is visited last, holds a new one; the answer is the outage. -/
theorem recovering_sweeps_threeShards :
    ∃ node, (threeShards.state 4).find? "a" = some node ∧
      let course := (Course.start node.registry "r" [2, 1, 0]).run recovering
      course.asked = [1, 0] ∧
      (∃ e, course.sweep.outcome = .error e ∧
        e.message = "Definition store is unavailable: Simulated outage.") ∧
      course.registry.opened = node.registry.opened ∧
      [0, 1, 2].map (fun place =>
          ((course.registry.cache? place).bind (·.get? "r")).map (·.serial)) =
        [some 1, some 0, none] := by
  obtain ⟨regular, sweeps, _⟩ := reload_sweeps_partitions
  have facts : ((threeShards.state 4).find? "a").any (fun node =>
      let course := (Course.start node.registry "r" [2, 1, 0]).run recovering
      node.registry.handles = [0, 1, 2] ∧
      [2, 1, 0].filter (node.registry.holdsAt "r") = [1, 0] ∧
      (course.replies.findSome? fun entry => node.registry.kinds.refusal? "r" entry.2).map
          (·.message) =
        some "Definition store is unavailable: Simulated outage." ∧
      [0, 1, 2].map (fun place =>
          ((course.registry.cache? place).bind (·.get? "r")).map (·.serial)) =
        [some 1, some 0, none]) = true := by decide +kernel
  obtain ⟨node, found, facts⟩ := (Option.any_eq_true _ _).mp facts
  obtain ⟨handles, holding, refused, left⟩ := of_decide_eq_true facts
  obtain ⟨_, asked, _, _, _, opened, outcome⟩ :=
    sweeps node.registry "r" [2, 1, 0] recovering (regular threeShards 4 "a" node found)
      (handles ▸ by decide) (by decide)
  obtain ⟨e, first, message⟩ := Option.map_eq_some_iff.mp refused
  rw [first] at outcome
  exact ⟨node, found, asked.trans holding, ⟨e, outcome, message⟩, opened, left⟩

end QueryRewriting
