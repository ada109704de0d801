import Mathlib.Data.List.Lattice
import QueryRewriting.Proofs.Cache.Forecasts
import QueryRewriting.Proofs.Service.AllOrNothing

/-! # Requests do not interfere

The answer to a request follows from what lookups of its ids would answer on its partition. No
request changes what they would answer, on whatever partition: where it loads, it holds from now on
what any other would have loaded. So two requests may be served in either order. -/

namespace QueryRewriting

open Text

/-! ## The order of partitions -/

namespace Partition

variable {p q r : Partition}

/-- Partitions are in the order of their indexes, and then of their shards. -/
theorem le_iff :
    p.le q = true ↔ p.index < q.index ∨ p.index = q.index ∧ p.shard.toNat ≤ q.shard.toNat := by
  simp [le, UInt32.le_iff_toNat_le]

/-- The order of partitions is transitive. -/
theorem le_trans (first : p.le q = true) (second : q.le r = true) : p.le r = true := by
  rw [le_iff] at first second ⊢
  grind

/-- Any two partitions are in order one way or the other. -/
theorem le_total (p q : Partition) : (p.le q || q.le p) = true := by
  rw [Bool.or_eq_true, le_iff, le_iff]
  by_cases before : p.index < q.index
  · exact .inl (.inl before)
  by_cases behind : q.index < p.index
  · exact .inr (.inl behind)
  have same := String.le_antisymm (String.not_lt.mp behind) (String.not_lt.mp before)
  rcases Nat.le_total p.shard.toNat q.shard.toNat with before | behind
  · exact .inl (.inr ⟨same, before⟩)
  · exact .inr (.inr ⟨same.symm, behind⟩)

/-- Two partitions in order both ways are the same. -/
theorem le_antisymm (first : p.le q = true) (second : q.le p = true) : p = q := by
  rw [le_iff] at first second
  rcases first with before | ⟨same, before⟩
  · rcases second with behind | ⟨same, _⟩
    · exact absurd behind (String.lt_asymm before)
    · exact absurd before (same ▸ String.lt_irrefl _)
  · rcases second with behind | ⟨_, behind⟩
    · exact absurd behind (same ▸ String.lt_irrefl _)
    · cases p
      cases q
      cases same
      cases UInt32.toNat_inj.mp (Nat.le_antisymm before behind)
      rfl

/-- Partitions are listed in the same way in whatever order they were opened. -/
theorem mergeSort_congr {listed others : List Partition} (perm : listed.Perm others) :
    listed.mergeSort le = others.mergeSort le := by
  have sorted (l : List Partition) : (l.mergeSort le).Pairwise fun p q => p.le q = true :=
    @List.pairwise_mergeSort Partition le (fun _ _ _ => le_trans) le_total l
  have same : (listed.mergeSort le).Perm (others.mergeSort le) :=
    (List.mergeSort_perm ..).trans (perm.trans (List.mergeSort_perm ..).symm)
  exact same.eq_of_pairwise (fun _ _ _ _ => le_antisymm) (sorted listed) (sorted others)

end Partition

namespace Registry

variable {registry before after : Registry} {partition other : Partition} {handle : Nat}
  {store left : Store} {cache : PartitionCache} {partitions : List Partition}

/-! ## Room for partitions -/

/-- The partitions that are open, in the order in which they were opened. -/
def names (registry : Registry) : List Partition := registry.opened.map (·.1)

/-- There is room for some partitions besides those that are open. -/
def HasRoom (registry : Registry) (partitions : List Partition) : Prop :=
  ∀ limit, registry.settings.maxPartitions = some limit →
    (partitions ∪ registry.names).length ≤ limit

/-- A partition is not found if its name is not listed. -/
theorem find?_eq_none_iff : registry.find? partition = none ↔ partition ∉ registry.names := by
  unfold find? names
  simp only [List.lookup_eq_none_iff, bne_iff_ne, List.mem_map, not_exists, not_and]
  exact ⟨fun absent entry member same => absent entry member same.symm,
    fun absent entry member same => absent entry member same.symm⟩

/-- A partition that is to be opened anyway takes no room of the others. -/
theorem union_insert_perm (member : partition ∈ partitions) (names : List Partition) :
    (partitions ∪ names.insert partition).Perm (partitions ∪ names) := by
  have early (others : List Partition) :
      (others ∪ names.insert partition).Perm ((others ∪ names).insert partition) := by
    induction others with
    | nil => exact .refl _
    | cons other rest ih =>
        rw [List.cons_union, List.cons_union]
        exact (ih.insert other).trans (List.perm_insert_swap other partition _)
  refine (early partitions).trans ?_
  rw [List.insert_of_mem (List.mem_union_iff.mpr (.inl member))]

/-- A registry with room for a partition is not full. -/
theorem HasRoom.not_full (room : registry.HasRoom partitions) (member : partition ∈ partitions)
    (absent : registry.find? partition = none) : registry.full? = none := by
  have one_more : registry.opened.length + 1 ≤ (partitions ∪ registry.names).length := by
    rw [← (union_insert_perm member registry.names).length_eq]
    have inside := (List.suffix_union_right partitions (registry.names.insert partition)).length_le
    rwa [List.length_insert_of_not_mem (find?_eq_none_iff.mp absent), names,
      List.length_map] at inside
  unfold full?
  cases limited : registry.settings.maxPartitions with
  | none => rfl
  | some limit =>
      have enough := room limit limited
      exact if_neg (by omega)

/-- A partition for which there is room is served, and there is still room for the others. -/
theorem HasRoom.serve (room : before.HasRoom partitions) (member : partition ∈ partitions) :
    ∃ handle after, before.serve partition = .ok (handle, after) ∧ after.HasRoom partitions ∧
      after.settings = before.settings ∧ after.names.Perm (before.names.insert partition) := by
  unfold Registry.serve
  cases found : before.find? partition with
  | some handle =>
      have inside : partition ∈ before.names := by
        by_contra absent
        cases found.symm.trans (find?_eq_none_iff.mpr absent)
      refine ⟨handle, before, rfl, room, rfl, ?_⟩
      rw [List.insert_of_mem inside]
  | none =>
      simp only [room.not_full member found]
      have opens : (before.create partition).2.names.Perm (before.names.insert partition) := by
        rw [List.insert_of_not_mem (find?_eq_none_iff.mp found)]
        simp [names, Registry.create]
      refine ⟨_, _, rfl, fun limit limited => ?_, rfl, opens⟩
      have still := (opens.union_left partitions).trans (union_insert_perm member before.names)
      exact still.length_eq.trans_le (room limit limited)

/-! ## Forecasts on a node -/

/-- What a lookup on a partition would answer. -/
def forecast (registry : Registry) (store : Store) (partition : Partition) (id : String) :
    Except LoadError Loaded :=
  (registry.cacheFor partition).forecast registry.kinds store id

/-- The cache of any partition of an orderly registry is quiet. -/
theorem Orderly.quiet_cacheFor (orderly : registry.Orderly) (partition : Partition) :
    (registry.cacheFor partition).Quiet registry.kinds fun _ _ => True := by
  unfold cacheFor cacheOf?
  cases found : registry.find? partition with
  | none => exact PartitionCache.quiet_empty partition _
  | some handle =>
      obtain ⟨cache, present, quiet⟩ := orderly.quiet handle (mem_handles_of_find? found)
      rw [Option.bind_some, present]
      exact quiet

/-- The cache that is found for a partition from now on. -/
theorem Serves.cacheFor_setCache (serves : before.Serves partition handle after)
    (settings : after.settings = before.settings) (put : PartitionCache) (other : Partition) :
    (after.setCache handle put).cacheFor other =
      if other = partition then put else before.cacheFor other := by
  unfold cacheFor
  by_cases same : other = partition
  · have place : (after.setCache handle put).find? other = some handle := same ▸ serves.found
    rw [if_pos same, cacheOf?, place, Option.bind_some, cache?_setCache_self serves.present]
    rfl
  · rw [if_neg same, serves.orderly.cacheOf?_setCache serves.found same,
      serves.others other same]
    have limits : (after.setCache handle put).settings = before.settings := settings
    rw [limits]

/-- A registry stays orderly when a quiet cache is put in its place. -/
theorem Orderly.setCache {put : PartitionCache} (orderly : registry.Orderly)
    (present : registry.cache? handle = some cache)
    (quiet : put.Quiet registry.kinds fun _ _ => True) :
    (registry.setCache handle put).Orderly where
  quiet place inside := by
    by_cases same : place = handle
    · exact ⟨put, same ▸ cache?_setCache_self present put, quiet⟩
    · obtain ⟨other, there, quiet⟩ := orderly.quiet place inside
      exact ⟨other, (cache?_setCache_of_ne same put).trans there, quiet⟩
  apart := orderly.apart

end Registry

/-! ## Runs of rewriters -/

/-- An application of which nothing counts but what is seen of its instance. -/
def Application.plain (application : Application) : Application :=
  { application with applied := application.applied.plain }

/-- Instances of the same definitions are run in the same way, whenever they were made. -/
theorem applyAll_plain (partition : Partition) (paramNamespace : String) (params : Params)
    (expansion : Expansion) (chain : List Instance) :
    applyAll partition paramNamespace params expansion (chain.map Instance.plain) =
      ((applyAll partition paramNamespace params expansion chain).1.map Application.plain,
        (applyAll partition paramNamespace params expansion chain).2) := by
  induction chain generalizing expansion with
  | nil => rfl
  | cons found rest ih =>
      rw [List.map_cons, applyAll, applyAll]
      have own : found.plain.rewriter = found.rewriter := rfl
      have named : found.plain.id = found.id := rfl
      rw [own, named]
      cases found.rewriter.apply ⟨partition, found.id, paramNamespace, params⟩ expansion with
      | error e => rfl
      | ok result =>
          simp only [ih]
          rfl

namespace RewriteRequest

/-- The ids of the rewriters that a request names. -/
def ids (request : RewriteRequest) : List String := request.rewriters.map (·.id)

/-- The serial numbers and stamps of instances do not matter when they are applied. -/
theorem apply_plain (request : RewriteRequest) (paramNamespace : String)
    (threshold : Option Threshold) (chain : List Instance) :
    request.apply paramNamespace threshold (chain.map Instance.plain) =
      request.apply paramNamespace threshold chain := by
  unfold RewriteRequest.apply
  simp only [applyAll_plain]
  generalize applyAll _ _ _ _ chain = result
  obtain ⟨applications, outcome⟩ := result
  have logs : (applications.map Application.plain).flatMap (·.log request.partition) =
      applications.flatMap (·.log request.partition) := by
    rw [List.flatMap_map]
    rfl
  have answers (query : Query) :
      RewriteResponse.ofApplications (applications.map Application.plain) query =
        .ofApplications applications query := by
    unfold RewriteResponse.ofApplications
    rw [List.map_map, List.flatMap_map]
    rfl
  simp only [logs, answers]

/-- What a request comes to, once it is known with which threshold it is composed, or why it is
refused, and what lookups of its ids would answer. -/
def verdict (request : RewriteRequest) (paramNamespace : String)
    (forecast : String → Except LoadError Loaded) :
    Except ServiceError (Option Threshold) → Except ServiceError RewriteResponse × List LogEntry
  | .error e => (.error e, [])
  | .ok threshold =>
    match PartitionCache.forecastAll forecast request.ids with
    | .error e => (.error (.load e), [])
    | .ok chain => request.apply paramNamespace threshold chain

end RewriteRequest

namespace Node

variable {node before after : Node} {request : RewriteRequest} {store left : Store}
  {partitions : List Partition}

/-! ## One request -/

/-- What is checked of a request before its partition is opened. -/
def screen (node : Node) (request : RewriteRequest) : Except ServiceError (Option Threshold) := do
  checkRefs [] request.rewriters
  chooseThreshold node.threshold request.threshold?

/-- A request is screened before its partition is served. -/
theorem prepare_eq (node : Node) (request : RewriteRequest) :
    node.prepare request =
      match node.screen request with
      | .error e => .error e
      | .ok threshold =>
        ((node.registry.serve request.partition).mapError .ofLimit).map (threshold, ·) := by
  unfold prepare screen
  cases checkRefs [] request.rewriters with
  | error e => rfl
  | ok _ =>
      cases chooseThreshold node.threshold request.threshold? with
      | error e => rfl
      | ok threshold =>
          simp only [bind, Except.bind]
          cases node.registry.serve request.partition <;> rfl

/-- The ids that a request looks up. -/
def visits (node : Node) (store : Store) (request : RewriteRequest) : List String :=
  match node.screen request with
  | .error _ => []
  | .ok _ =>
    PartitionCache.reached (node.registry.forecast store request.partition) request.ids

/-- What a request leaves: everything by which another one could tell that it was served is as it
was before. One partition more may be open, and for the ids that were looked up there is held what
every lookup would have answered. -/
structure Passes (store : Store) (request : RewriteRequest) (partitions : List Partition)
    (before : Node) (left : Store) (after : Node) : Prop where
  paramNamespace : after.paramNamespace = before.paramNamespace
  threshold : after.threshold = before.threshold
  orderly : after.registry.Orderly
  room : after.registry.HasRoom partitions
  maxBytes : ∀ partition,
    (after.registry.cacheFor partition).maxBytes = (before.registry.cacheFor partition).maxBytes
  forecasts : ∀ partition, after.registry.forecast left partition =
    before.registry.forecast store partition
  opened : after.registry.names.Perm
    (match before.screen request with
      | .error _ => before.registry.names
      | .ok _ => before.registry.names.insert request.partition)
  held : ∀ partition id, (after.registry.held? partition id).map Instance.loaded =
    if partition = request.partition ∧ id ∈ before.visits store request then
      (before.registry.forecast store partition id).toOption
    else (before.registry.held? partition id).map Instance.loaded

/-- A request that is refused has passed without a trace. -/
theorem Passes.refused {e : ServiceError} (orderly : node.registry.Orderly)
    (room : node.registry.HasRoom partitions) (refused : node.screen request = .error e) :
    Passes store request partitions node store node where
  paramNamespace := rfl
  threshold := rfl
  orderly := orderly
  room := room
  maxBytes _ := rfl
  forecasts _ := rfl
  opened := by rw [refused]
  held partition id := by simp [visits, refused]

/-- A request whose ids were looked up has passed. -/
theorem Passes.served {handle : Nat} {registry : Registry} {threshold : Option Threshold}
    {outcome : Except LoadError (List Instance)} {last : PartitionCache}
    (orderly : node.registry.Orderly)
    (serves : node.registry.Serves request.partition handle registry)
    (settings : registry.settings = node.registry.settings)
    (opened : registry.names.Perm (node.registry.names.insert request.partition))
    (room : registry.HasRoom partitions) (screened : node.screen request = .ok threshold)
    (fulfils : (node.registry.cacheFor request.partition).Fulfils node.registry.kinds store
      request.ids outcome left last) :
    Passes store request partitions node left
      { node with registry := registry.setCache handle last } := by
  have kinds := serves.kinds
  have quiet : last.Quiet registry.kinds fun _ _ => True := kinds ▸ fulfils.onward.quiet
  have caches := serves.cacheFor_setCache settings last
  have own : (registry.setCache handle last).cacheFor request.partition = last := by
    rw [caches, if_pos rfl]
  constructor
  · rfl
  · rfl
  · exact serves.orderly.setCache serves.present quiet
  · exact room
  · intro partition
    rw [caches]
    split
    · rename_i same
      rw [same]
      exact fulfils.onward.maxBytes
    · rfl
  · intro partition
    funext id
    unfold Registry.forecast
    rw [caches]
    have known : (registry.setCache handle last).kinds = node.registry.kinds := kinds
    rw [known]
    -- The own partition forecasts as before because of what was looked up, others untouched.
    by_cases same : partition = request.partition
    · rw [if_pos same, same]
      exact fulfils.forecasts id
    · rw [if_neg same]
      have quiet := orderly.quiet_cacheFor partition
      have onward : PartitionCache.Onward node.registry.kinds store
          (node.registry.cacheFor partition) left (node.registry.cacheFor partition) :=
        ⟨fulfils.onward.documents, fulfils.onward.available, quiet, rfl, rfl⟩
      exact onward.forecast_eq quiet rfl
  · rw [screened]
    exact opened
  · intro partition id
    rw [Registry.held?_eq_get?, Registry.held?_eq_get?, caches, visits, screened]
    by_cases same : partition = request.partition
    · rw [if_pos same, fulfils.held id, same]
      simp only [true_and]
      rfl
    · rw [if_neg same, if_neg fun both => same both.1]

/-- **A request is answered as forecast and changes no forecast.** -/
theorem rewriteQuery_forecast (orderly : node.registry.Orderly)
    (bytes : (node.registry.cacheFor request.partition).maxBytes ≠ some 0)
    (room : node.registry.HasRoom partitions) (member : request.partition ∈ partitions)
    (store : Store) :
    ((node.rewriteQuery request store).1, (node.rewriteQuery request store).2.1) =
        request.verdict node.paramNamespace (node.registry.forecast store request.partition)
          (node.screen request) ∧
      Passes store request partitions node (node.rewriteQuery request store).2.2.1
        (node.rewriteQuery request store).2.2.2 := by
  have prepared := prepare_eq node request
  cases screened : node.screen request with
  | error e =>
      simp only [screened] at prepared
      have refused : node.rewriteQuery request store = (.error e, [], store, node) := by
        rw [rewriteQuery, prepared]
      rw [refused]
      exact ⟨rfl, .refused orderly room screened⟩
  | ok threshold =>
      obtain ⟨handle, registry, served, room, settings, opened⟩ := room.serve member
      simp only [screened, served, Except.mapError, Except.map] at prepared
      have serves := orderly.serves served
      have fulfils :=
        (orderly.quiet_cacheFor request.partition).lookupAll_fulfils bytes store request.ids
      have looked : registry.lookupAll handle store request.ids = _ :=
        Registry.lookupAll_eq serves.present request.ids
      rw [serves.kinds] at looked
      generalize (node.registry.cacheFor request.partition).lookupAll node.registry.kinds store
        request.ids = result at fulfils looked
      obtain ⟨outcome, left, last⟩ := result
      have passes := Passes.served orderly serves settings opened room screened fulfils
      have foreseen : outcome.map (List.map Instance.plain) = PartitionCache.forecastAll
        (node.registry.forecast store request.partition) request.ids := fulfils.outcome
      unfold rewriteQuery
      unfold RewriteRequest.ids at looked
      simp only [prepared, looked]
      cases outcome with
      | error e =>
          refine ⟨?_, passes⟩
          rw [RewriteRequest.verdict, ← foreseen]
          rfl
      | ok chain =>
          refine ⟨?_, passes⟩
          rw [RewriteRequest.verdict, ← foreseen]
          exact (request.apply_plain node.paramNamespace threshold chain).symm

/-! ## Two requests -/

variable {a b : RewriteRequest} {first second last : Node} {rest : Store}

/-- What another request has left is seen in the same way. -/
theorem Passes.screen_eq (passes : Passes store a partitions node left after)
    (request : RewriteRequest) : after.screen request = node.screen request := by
  unfold screen
  rw [passes.threshold]

/-- What a request visits does not change while others pass. -/
theorem Passes.visits_eq (passes : Passes store a partitions node left after)
    (request : RewriteRequest) : after.visits left request = node.visits store request := by
  unfold visits
  rw [passes.screen_eq, passes.forecasts]

/-- After another request, a request is answered as it would have been before. -/
theorem Passes.rewriteQuery_forecast (passes : Passes store a partitions node left after)
    (bytes : (node.registry.cacheFor b.partition).maxBytes ≠ some 0)
    (member : b.partition ∈ partitions) :
    ((after.rewriteQuery b left).1, (after.rewriteQuery b left).2.1) =
        b.verdict node.paramNamespace (node.registry.forecast store b.partition)
          (node.screen b) ∧
      Passes left b partitions after (after.rewriteQuery b left).2.2.1
        (after.rewriteQuery b left).2.2.2 := by
  have still : (after.registry.cacheFor b.partition).maxBytes ≠ some 0 := by
    rwa [passes.maxBytes]
  have served := Node.rewriteQuery_forecast passes.orderly still passes.room member left
  rwa [passes.paramNamespace, passes.forecasts, passes.screen_eq] at served

/-- What two requests have opened. -/
theorem Passes.names_perm (passes : Passes store a partitions node left first)
    (next : Passes left b partitions first rest last) :
    last.registry.names.Perm
      (match node.screen b with
        | .error _ => first.registry.names
        | .ok _ => first.registry.names.insert b.partition) := by
  rw [← passes.screen_eq b]
  exact next.opened

/-- What is held after two requests. -/
theorem Passes.held_trans (passes : Passes store a partitions node left first)
    (next : Passes left b partitions first rest last) (partition : Partition) (id : String) :
    (last.registry.held? partition id).map Instance.loaded =
      if partition = a.partition ∧ id ∈ node.visits store a ∨
          partition = b.partition ∧ id ∈ node.visits store b then
        (node.registry.forecast store partition id).toOption
      else (node.registry.held? partition id).map Instance.loaded := by
  rw [next.held, passes.held, passes.visits_eq, passes.forecasts]
  split_ifs <;> tauto

end Node

/-- **Requests do not interfere.** Every node is orderly between operations. An orderly node with
room for the partitions of two requests gives each of them the same answer and writes the same lines
to its log, whichever is served first. Afterwards the same partitions are open, and on each of them
the same ids are held with the same definitions. -/
theorem requests_commute :
    (∀ (chronicle : Chronicle) t n node, (chronicle.state t).find? n = some node →
      node.registry.Orderly) ∧
    ∀ (node : Node) (store : Store) (a b : RewriteRequest), node.registry.Orderly →
      (node.registry.cacheFor a.partition).maxBytes ≠ some 0 →
      (node.registry.cacheFor b.partition).maxBytes ≠ some 0 →
      node.registry.HasRoom [a.partition, b.partition] →
      ∀ answerA logA storeA nodeA answerB logB storeAB nodeAB,
        node.rewriteQuery a store = (answerA, logA, storeA, nodeA) →
        nodeA.rewriteQuery b storeA = (answerB, logB, storeAB, nodeAB) →
        ∃ storeB nodeB storeBA nodeBA,
          node.rewriteQuery b store = (answerB, logB, storeB, nodeB) ∧
          nodeB.rewriteQuery a storeB = (answerA, logA, storeBA, nodeBA) ∧
          nodeBA.registry.partitions = nodeAB.registry.partitions ∧
          ∀ partition id, (nodeBA.registry.held? partition id).map Instance.loaded =
            (nodeAB.registry.held? partition id).map Instance.loaded := by
  refine ⟨fun chronicle t n node found => chronicle.orderly_state t found, ?_⟩
  intro node store a b orderly bytesA bytesB room answerA logA storeA nodeA answerB logB storeAB
    nodeAB firstA thenB
  have memberA : a.partition ∈ [a.partition, b.partition] := List.mem_cons_self
  have memberB : b.partition ∈ [a.partition, b.partition] :=
    List.mem_cons_of_mem _ List.mem_cons_self
  obtain ⟨givenA, passesA⟩ := Node.rewriteQuery_forecast orderly bytesA room memberA store
  obtain ⟨givenB, passesB⟩ := Node.rewriteQuery_forecast orderly bytesB room memberB store
  rw [firstA] at givenA passesA
  generalize firstB : node.rewriteQuery b store = served at givenB passesB
  obtain ⟨_, _, storeB, nodeB⟩ := served
  obtain ⟨afterA, passesAB⟩ := passesA.rewriteQuery_forecast bytesB memberB
  obtain ⟨afterB, passesBA⟩ := passesB.rewriteQuery_forecast bytesA memberA
  rw [thenB] at afterA passesAB
  generalize thenA : nodeB.rewriteQuery a storeB = served at afterB passesBA
  obtain ⟨_, _, storeBA, nodeBA⟩ := served
  -- Each request is given by its forecast, which the other one passes by.
  cases givenB.trans afterA.symm
  cases afterB.trans givenA.symm
  refine ⟨storeB, nodeB, storeBA, nodeBA, rfl, thenA, ?_, fun partition id => ?_⟩
  · refine Partition.mergeSort_congr ?_
    refine (passesB.names_perm passesBA).trans ((?_ : List.Perm _ _).trans
      (passesA.names_perm passesAB).symm)
    have openedA := passesA.opened
    have openedB := passesB.opened
    cases screenedA : node.screen a <;> cases screenedB : node.screen b <;>
      simp only [screenedA, screenedB] at openedA openedB ⊢
    · exact openedB.trans openedA.symm
    · exact openedB.trans (openedA.symm.insert _)
    · exact (openedB.insert _).trans openedA.symm
    · exact (openedB.insert _).trans ((List.perm_insert_swap ..).trans (openedA.symm.insert _))
  · rw [passesB.held_trans passesBA, passesA.held_trans passesAB]
    exact if_congr or_comm rfl rfl

/-! ### Two searches on a node with room for two partitions -/

open Chronicle in
/-- A node that has just started and may serve two partitions. -/
def narrowNode : Node :=
  { startedNode "a" "b" with
    registry := .empty .builtin { CacheSettings.unbounded with maxPartitions := some 2 } }

open Chronicle in
/-- A search on another partition than that of the overlong one. -/
def nextSearch : RewriteRequest := { labtopSearch with partition := ⟨"products", 1⟩ }

open Chronicle in
/-- The overlong search fails half way and the other one is answered, also in the other order. -/
theorem overlongSearch_commutes_with_nextSearch :
    ∃ response log storeB nodeB e storeBA nodeBA,
      narrowNode.rewriteQuery nextSearch labtopStore = (.ok response, log, storeB, nodeB) ∧
      nodeB.rewriteQuery overlongSearch storeB = (.error e, [], storeBA, nodeBA) ∧
      e.message = "Rewriter \"s\" is not defined." ∧
      nodeBA.registry.partitions = [⟨"products", 0⟩, ⟨"products", 1⟩] := by
  have orderly : narrowNode.registry.Orderly :=
    ⟨fun _ inside => (List.not_mem_nil inside).elim, List.nodup_nil⟩
  have room : narrowNode.registry.HasRoom [⟨"products", 0⟩, ⟨"products", 1⟩] := by
    intro limit limited
    cases limited
    decide
  have runs :
      let first := narrowNode.rewriteQuery overlongSearch labtopStore
      let second := first.2.2.2.rewriteQuery nextSearch first.2.2.1
      failure first.1 = some "Rewriter \"s\" is not defined." ∧ first.2.1 = [] ∧
        second.1.toOption.isSome = true ∧
        second.2.2.2.registry.names = [⟨"products", 0⟩, ⟨"products", 1⟩] := by
    decide +kernel
  generalize firstA : narrowNode.rewriteQuery overlongSearch labtopStore = served at runs
  obtain ⟨answerA, logA, storeA, nodeA⟩ := served
  simp only at runs
  generalize thenB : nodeA.rewriteQuery nextSearch storeA = served at runs
  obtain ⟨answerB, logB, storeAB, nodeAB⟩ := served
  obtain ⟨fails, rfl, found, names⟩ := runs
  have opened : nodeAB.registry.partitions = [⟨"products", 0⟩, ⟨"products", 1⟩] := by
    unfold Registry.partitions
    unfold Registry.names at names
    rw [names]
    exact List.mergeSort_of_pairwise (by decide)
  obtain ⟨storeB, nodeB, storeBA, nodeBA, firstB, thenA, same, _⟩ :=
    requests_commute.2 narrowNode labtopStore overlongSearch nextSearch orderly nofun nofun room
      _ _ _ _ _ _ _ _ firstA thenB
  cases answerB with
  | error e => cases found
  | ok response =>
      cases answerA with
      | ok other => cases fails
      | error e =>
          exact ⟨response, logB, storeB, nodeB, e, storeBA, nodeBA, firstB, thenA,
            Option.some.inj fails, same.trans opened⟩

end QueryRewriting
