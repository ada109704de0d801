import QueryRewriting.Proofs.Cache.Successive
import QueryRewriting.Proofs.Cluster.Partitions
import QueryRewriting.Proofs.Service.ChainOrder

/-! # Requests are all or nothing

A request is refused before anything is touched, or it finds all of its rewriters and runs each of
them once, or it runs none. In the last case it has loaded what comes before the first rewriter that
is not found, and that is all that it leaves behind. -/

namespace QueryRewriting

open Text

namespace Registry

variable {registry before after : Registry} {partition other : Partition} {handle : Nat}
  {store : Store} {cache : PartitionCache}

/-! ## Caches by their partitions -/

/-- The cache of a partition that is open. -/
def cacheOf? (registry : Registry) (partition : Partition) : Option PartitionCache :=
  (registry.find? partition).bind registry.cache?

/-- The cache that a request on a partition finds: a new one, if the partition is not open. -/
def cacheFor (registry : Registry) (partition : Partition) : PartitionCache :=
  (registry.cacheOf? partition).getD (.empty partition registry.settings.maxBytes)

/-- The instance that is held for an id on a partition. -/
def held? (registry : Registry) (partition : Partition) (id : String) : Option Instance :=
  (registry.cacheOf? partition).bind (·.get? id)

/-- What a partition holds is what its cache does, or nothing if it is not open. -/
theorem held?_eq_get? (registry : Registry) (partition : Partition) (id : String) :
    registry.held? partition id = (registry.cacheFor partition).get? id := by
  unfold held? cacheFor
  cases registry.cacheOf? partition <;> rfl

/-- A partition that is found is among the open ones. -/
theorem mem_opened_of_find? (found : registry.find? partition = some handle) :
    (partition, handle) ∈ registry.opened := by
  obtain ⟨front, rest, split, _⟩ := List.lookup_eq_some_iff.mp found
  rw [split]
  exact List.mem_append_right _ List.mem_cons_self

/-- No other partition is held at the place of a partition. -/
theorem Orderly.ne_of_find? {place : Nat} (orderly : registry.Orderly)
    (found : registry.find? partition = some handle) (distinct : other ≠ partition)
    (elsewhere : registry.find? other = some place) : place ≠ handle := by
  rintro rfl
  have same := List.inj_on_of_nodup_map orderly.apart (mem_opened_of_find? elsewhere)
    (mem_opened_of_find? found) rfl
  exact distinct (Prod.mk.inj same).1

/-- What is done in the cache of one partition reaches no other. -/
theorem Orderly.cacheOf?_setCache (orderly : registry.Orderly)
    (found : registry.find? partition = some handle) (distinct : other ≠ partition)
    (put : PartitionCache) :
    (registry.setCache handle put).cacheOf? other = registry.cacheOf? other := by
  have same : (registry.setCache handle put).find? other = registry.find? other := rfl
  unfold cacheOf?
  rw [same]
  cases elsewhere : registry.find? other with
  | none => rfl
  | some place => exact cache?_setCache_of_ne (orderly.ne_of_find? found distinct elsewhere) put

/-! ## Opening -/

/-- A registry serves a partition: the cache that it finds for it is held at a place of its own, and
the other partitions are as they were. -/
structure Serves (before : Registry) (partition : Partition) (handle : Nat) (after : Registry) :
    Prop where
  kinds : after.kinds = before.kinds
  orderly : after.Orderly
  found : after.find? partition = some handle
  present : after.cache? handle = some (before.cacheFor partition)
  others : ∀ other, other ≠ partition → after.cacheOf? other = before.cacheOf? other

/-- A partition that is opened in an orderly registry is served with an empty cache. -/
theorem Orderly.create_serves (orderly : before.Orderly) (absent : before.find? partition = none) :
    before.Serves partition before.caches.length (before.create partition).2 where
  kinds := rfl
  orderly :=
    have opens : before.Shifts (before.create partition).2 := .inr (.inl ⟨partition, rfl⟩)
    ⟨orderly.quiet.create partition, opens.apart orderly.quiet orderly.apart⟩
  found := find?_create absent
  present := by
    rw [cache?_create, cacheFor, cacheOf?, absent]
    rfl
  others other distinct := by
    unfold cacheOf?
    rw [find?_create_of_ne distinct]
    cases elsewhere : before.find? other with
    | none => rfl
    | some place =>
        obtain ⟨cache, present, _⟩ := orderly.quiet place (mem_handles_of_find? elsewhere)
        obtain ⟨inside, _⟩ := List.getElem?_eq_some_iff.mp present
        exact List.getElem?_append_left inside

/-- A partition that is served has its own cache, and the others are left. -/
theorem Orderly.serves (orderly : before.Orderly)
    (served : before.serve partition = .ok (handle, after)) :
    before.Serves partition handle after := by
  have same := serve_eq_getOrCreate served
  unfold getOrCreate at same
  cases found : before.find? partition with
  | none =>
      rw [found] at same
      cases same
      exact orderly.create_serves found
  | some place =>
      rw [found] at same
      cases same
      obtain ⟨cache, present, _⟩ := orderly.quiet handle (mem_handles_of_find? found)
      refine ⟨rfl, orderly, found, ?_, fun _ _ => rfl⟩
      rw [present, cacheFor, cacheOf?, found]
      exact (congrArg some (congrArg (Option.getD · _) present)).symm

/-! ## Lookups -/

/-- Putting a cache where it is changes nothing. -/
theorem setCache_self (present : registry.cache? handle = some cache) :
    registry.setCache handle cache = registry := by
  obtain ⟨inside, same⟩ := List.getElem?_eq_some_iff.mp present
  unfold setCache
  rw [← same, List.set_getElem_self]

/-- Ids are looked up in the cache held at a place. -/
theorem lookupAll_eq (present : registry.cache? handle = some cache) (ids : List String) :
    registry.lookupAll handle store ids =
      ((cache.lookupAll registry.kinds store ids).1, (cache.lookupAll registry.kinds store ids).2.1,
        registry.setCache handle (cache.lookupAll registry.kinds store ids).2.2) := by
  induction ids generalizing registry cache store with
  | nil => exact congrArg (fun last => (_, _, last)) (setCache_self present).symm
  | cons id rest ih =>
      rw [lookupAll_cons, PartitionCache.lookupAll_cons, lookup, present]
      simp only
      generalize cache.lookup registry.kinds id store = result
      obtain ⟨outcome, left, after⟩ := result
      cases outcome with
      | error e => rfl
      | ok found =>
          simp only
          rw [ih (cache?_setCache_self present after)]
          simp only [setCache, List.set_set]

end Registry

/-! ## Refusals -/

/-- An id is accepted if there is no fault in it. -/
theorem checkId_eq_ok_iff {id : String} : checkId id = .ok () ↔ idFault? id = none := by
  unfold checkId
  cases idFault? id <;> simp

/-- Rewriters are accepted if each has a proper id that does not come twice. -/
theorem checkRefs_cons_eq_ok_iff {seen : List String} {ref : RewriterRef}
    {rest : List RewriterRef} :
    checkRefs seen (ref :: rest) = .ok () ↔
      idFault? ref.id = none ∧ ref.id ∉ seen ∧ checkRefs (ref.id :: seen) rest = .ok () := by
  rw [← checkId_eq_ok_iff, checkRefs]
  cases checkId ref.id with
  | error e => simp [bind, Except.bind]
  | ok _ => by_cases known : ref.id ∈ seen <;> simp [bind, Except.bind, known]

/-- References are accepted if they are ids, differ from each other, and were not seen before. -/
theorem checkRefs_eq_ok_iff {seen : List String} {refs : List RewriterRef} :
    checkRefs seen refs = .ok () ↔
      (∀ ref ∈ refs, idFault? ref.id = none) ∧ (∀ ref ∈ refs, ref.id ∉ seen) ∧
        (refs.map (·.id)).Nodup := by
  induction refs generalizing seen with
  | nil => simp [checkRefs]
  | cons ref rest ih =>
      rw [checkRefs_cons_eq_ok_iff, ih, List.forall_mem_cons, List.forall_mem_cons, List.map_cons,
        List.nodup_cons]
      have once : (∀ other ∈ rest, other.id ∉ ref.id :: seen) ↔
          ref.id ∉ rest.map (·.id) ∧ ∀ other ∈ rest, other.id ∉ seen := by
        grind
      rw [once]
      tauto

/-- A threshold is refused if it is a text that cannot be read. -/
theorem chooseThreshold_error_iff {default : Option Threshold} {text? : Option String} :
    (∃ e, chooseThreshold default text? = .error e) ↔
      ∃ text, text? = some text ∧ isBlank text = false ∧ ∃ e, Threshold.read text = .error e := by
  unfold chooseThreshold
  cases text? with
  | none => simp
  | some text =>
      cases blank : isBlank text with
      | true => simp [blank]
      | false =>
          cases read : Threshold.read text <;> simp [blank, read, Except.map, Except.mapError]

namespace Node

variable {node : Node} {request : RewriteRequest} {store : Store}

/-- What a node refuses before it touches anything: an id that is none, an id that is listed twice,
a threshold that cannot be read, a partition that cannot be opened. A blank threshold stands for
none. -/
def Refuses (node : Node) (request : RewriteRequest) : Prop :=
  (∃ ref ∈ request.rewriters, idFault? ref.id ≠ none) ∨
    ¬ (request.rewriters.map (·.id)).Nodup ∨
    (∃ text, request.threshold? = some text ∧ isBlank text = false ∧
      ∃ e, Threshold.read text = .error e) ∨
    ∃ limit, node.registry.serve request.partition = .error limit

/-- Rewriters are refused if an id has a fault, or two are the same. -/
theorem checkRefs_error_iff {refs : List RewriterRef} :
    (∃ e, checkRefs [] refs = .error e) ↔
      (∃ ref ∈ refs, idFault? ref.id ≠ none) ∨ ¬ (refs.map (·.id)).Nodup := by
  have refused : (∃ e, checkRefs [] refs = .error e) ↔ checkRefs [] refs ≠ .ok () := by
    cases checkRefs [] refs <;> simp
  rw [refused, Ne, checkRefs_eq_ok_iff]
  simp only [List.not_mem_nil, not_false_eq_true, implies_true, true_and, not_and_or, not_forall,
    exists_prop, ne_eq]

/-- A request is refused for one of these reasons, or it is prepared. -/
theorem prepare_error_iff : (∃ e, node.prepare request = .error e) ↔ node.Refuses request := by
  unfold Refuses
  rw [← or_assoc, ← checkRefs_error_iff, ← @chooseThreshold_error_iff node.threshold]
  unfold prepare
  cases checkRefs [] request.rewriters with
  | error e => simp [bind, Except.bind]
  | ok _ =>
      cases chooseThreshold node.threshold request.threshold? with
      | error e => simp [bind, Except.bind]
      | ok threshold =>
          cases node.registry.serve request.partition with
          | error limit => simp [bind, Except.bind, Except.mapError]
          | ok served => simp [bind, Except.bind, Except.mapError, pure, Except.pure]

/-- The threshold of a request that was prepared. -/
theorem chooseThreshold_of_prepare {threshold : Option Threshold} {handle : Nat}
    {registry : Registry} (prepared : node.prepare request = .ok (threshold, handle, registry)) :
    chooseThreshold node.threshold request.threshold? = .ok threshold := by
  unfold prepare at prepared
  simp only [bind, Except.bind] at prepared
  split at prepared
  · cases prepared
  split at prepared
  · cases prepared
  · split at prepared <;> cases prepared
    assumption

/-- A request that is not refused is prepared. -/
theorem prepare_of_not_refuses (accepts : ¬ node.Refuses request) :
    (request.rewriters.map (·.id)).Nodup ∧
      ∃ threshold handle registry, node.prepare request = .ok (threshold, handle, registry) := by
  refine ⟨Decidable.not_not.mp fun repeated => accepts (.inr (.inl repeated)), ?_⟩
  cases prepared : node.prepare request with
  | error e => exact absurd (prepare_error_iff.mp ⟨e, prepared⟩) accepts
  | ok result => exact ⟨result.1, result.2.1, result.2.2, rfl⟩

/-- A request that is prepared is not refused. -/
theorem not_refuses_of_prepare (prepared : (node.prepare request).toOption.isSome = true) :
    ¬ node.Refuses request := by
  intro refuses
  obtain ⟨e, refused⟩ := prepare_error_iff.mpr refuses
  rw [refused] at prepared
  cases prepared

/-- What a request that was refused leaves behind: nothing. -/
theorem rewriteQuery_of_refuses (refuses : node.Refuses request) (store : Store) :
    (∃ e, node.rewriteQuery request store = (.error e, [], store, node)) ∧
      node.applications request store = [] := by
  obtain ⟨e, refused⟩ := prepare_error_iff.mpr refuses
  unfold rewriteQuery applications
  rw [refused]
  exact ⟨⟨e, rfl⟩, rfl⟩

/-! ## Lookups of a request -/

/-- A request has touched nothing but some ids on its partition. -/
structure Touches (before : Node) (partition : Partition) (ids : List String) (after : Node) :
    Prop where
  entries : ∀ key, key ∉ ids →
    after.registry.held? partition key = before.registry.held? partition key
  partitions : ∀ other, other ≠ partition →
    after.registry.cacheOf? other = before.registry.cacheOf? other

/-- What is put in place of the cache that a request has found. -/
theorem held?_of_serves {handle : Nat} {registry : Registry} {partition : Partition}
    (serves : node.registry.Serves partition handle registry) (put : PartitionCache) (id : String) :
    (registry.setCache handle put).held? partition id = put.get? id := by
  have place : (registry.setCache handle put).find? partition = some handle := serves.found
  rw [Registry.held?, Registry.cacheOf?, place]
  exact congrArg (Option.bind · _) (Registry.cache?_setCache_self serves.present put)

/-- A request touches nothing but its partition, and there only its ids. -/
theorem touches_of_serves {handle : Nat} {registry : Registry} {partition : Partition}
    {ids : List String} (serves : node.registry.Serves partition handle registry)
    (put : PartitionCache)
    (others : ∀ key, key ∉ ids → put.get? key = (node.registry.cacheFor partition).get? key) :
    node.Touches partition ids { node with registry := registry.setCache handle put } where
  entries key absent := by
    rw [held?_of_serves serves, Registry.held?_eq_get?]
    exact others key absent
  partitions other distinct := by
    rw [serves.orderly.cacheOf?_setCache serves.found distinct]
    exact serves.others other distinct

/-- The cache of a partition that is served is quiet. -/
theorem quiet_of_serves {handle : Nat} {registry : Registry} {partition : Partition}
    (serves : node.registry.Serves partition handle registry) :
    (node.registry.cacheFor partition).Quiet registry.kinds fun _ _ => True := by
  obtain ⟨cache, present, quiet⟩ :=
    serves.orderly.quiet handle (Registry.mem_handles_of_find? serves.found)
  cases serves.present.symm.trans present
  exact quiet

/-- What keeps a node from finding an id for a request, if anything does. -/
def fault? (node : Node) (request : RewriteRequest) (store : Store) (id : String) :
    Option LoadError :=
  (node.registry.cacheFor request.partition).fault? node.registry.kinds store id

/-- A request of which a rewriter is not found ends with the fault of the first such rewriter. -/
theorem rewriteQuery_of_fault {front rest : List String} {id : String} {e : LoadError}
    (orderly : node.registry.Orderly)
    (room : (node.registry.cacheFor request.partition).maxBytes ≠ some 0)
    (accepts : ¬ node.Refuses request)
    (named : request.rewriters.map (·.id) = front ++ id :: rest)
    (found : ∀ key ∈ front, node.fault? request store key = none)
    (fails : node.fault? request store id = some e) :
    ∃ left after, node.rewriteQuery request store = (.error (.load e), [], left, after) ∧
      node.applications request store = [] ∧
      (∀ key ∈ front, (after.registry.held? request.partition key).isSome = true) ∧
      after.registry.held? request.partition id = none ∧
      node.Touches request.partition (front ++ [id]) after := by
  obtain ⟨different, threshold, handle, registry, prepared⟩ := prepare_of_not_refuses accepts
  have serves := orderly.serves (serve_of_prepare prepared)
  unfold fault? at found fails
  rw [← serves.kinds] at found fails
  obtain ⟨left, last, looked, held, missing, others⟩ :=
    (quiet_of_serves serves).lookupAll_error room (named ▸ different) found fails
  refine ⟨left, { node with registry := registry.setCache handle last }, ?_, ?_, ?_, ?_, ?_⟩
  · simp only [rewriteQuery, prepared, named, Registry.lookupAll_eq serves.present, looked]
  · simp only [applications, prepared, named, Registry.lookupAll_eq serves.present, looked]
  · intro key member
    rw [held?_of_serves serves]
    exact held key member
  · rw [held?_of_serves serves]
    exact missing
  · refine touches_of_serves serves last fun key absent => ?_
    rw [List.mem_append, List.mem_singleton, not_or] at absent
    exact others key absent.1 absent.2

/-- A request of which all rewriters are found runs each of them once, in the order given, and
answers with what has become of the query unless a boost cannot be composed. -/
theorem rewriteQuery_of_found (builtin : node.registry.kinds = .builtin)
    (orderly : node.registry.Orderly)
    (room : (node.registry.cacheFor request.partition).maxBytes ≠ some 0)
    (accepts : ¬ node.Refuses request)
    (found : ∀ id ∈ request.rewriters.map (·.id), node.fault? request store id = none) :
    ∃ threshold expansion left after response,
      node.rewriteQuery request store = (response,
        (node.applications request store).flatMap (·.log request.partition), left, after) ∧
      (node.applications request store).map (·.applied.id) = request.rewriters.map (·.id) ∧
      (request.rewriters.map (·.id)).map (after.registry.held? request.partition) =
        (node.applications request store).map (some ·.applied) ∧
      node.Touches request.partition (request.rewriters.map (·.id)) after ∧
      chooseThreshold node.threshold request.threshold? = .ok threshold ∧
      Runs request.partition node.paramNamespace (mountAll node.paramNamespace request.rewriters)
        (.ofQuery request.query) (node.applications request store) expansion ∧
      response = ((expansion.compose threshold).mapError .ofBoost).map
        (.ofApplications (node.applications request store)) := by
  obtain ⟨different, threshold, handle, registry, prepared⟩ := prepare_of_not_refuses accepts
  have serves := orderly.serves (serve_of_prepare prepared)
  have quiet := quiet_of_serves serves
  unfold fault? at found
  rw [← serves.kinds] at found
  obtain ⟨chain, left, last, looked, gathers⟩ := quiet.lookupAll_ok room different found
  have held := held?_of_serves serves last
  -- What is held was loaded by one of the kinds of the node, and those are the built-in ones.
  have made : ∀ made ∈ chain, made.IsBuiltin := by
    intro made member
    have listed : some made ∈ chain.map some := List.mem_map_of_mem member
    rw [← gathers.held] at listed
    obtain ⟨key, _, same⟩ := List.mem_map.mp listed
    obtain ⟨rfl, loads, _⟩ := gathers.onward.quiet.runs key made same
    rwa [serves.kinds, builtin] at loads
  obtain ⟨applications, members, run⟩ := applyAll_reading request.partition node.paramNamespace
    (mountAll node.paramNamespace request.rewriters) made (.ofQuery request.query)
  have ran : node.applications request store = applications := by
    simp only [Node.applications, prepared, Registry.lookupAll_eq serves.present, looked, run]
  rw [ran]
  refine ⟨threshold, _, left, { node with registry := registry.setCache handle last }, _, ?_, ?_,
    ?_, touches_of_serves serves last gathers.others, chooseThreshold_of_prepare prepared,
    runs_of_applyAll _ _ _ run, rfl⟩
  · simp only [rewriteQuery, prepared, Registry.lookupAll_eq serves.present, looked,
      RewriteRequest.apply, run]
    cases Expansion.compose _ threshold with
    | ok query => rfl
    | error e => rfl
  · rw [← gathers.named, ← members, List.map_map]
    rfl
  · have applied : applications.map (some ·.applied) = chain.map some := by
      rw [← members, List.map_map]
      rfl
    rw [applied, ← gathers.held]
    exact List.map_congr_left fun key _ => held key

end Node

/-- **A request is all or nothing.** Every node is orderly between operations. An orderly node
refuses a request and nothing changes; or it does not find all of its rewriters, fails with the
fault of the first that it does not find, runs none, and has touched nothing but the ids up to this
one; or it runs each of them once, in the order given, the first on the query of the request and
each other on what the one before it has left, and answers with their ids and with what each has
noted, unless a boost cannot be composed. -/
theorem requests_all_or_nothing :
    (∀ (chronicle : Chronicle) t n node, (chronicle.state t).find? n = some node →
      node.registry.Orderly) ∧
    ∀ (node : Node) (request : RewriteRequest) (store : Store),
      node.registry.kinds = .builtin → node.registry.Orderly →
      (node.registry.cacheFor request.partition).maxBytes ≠ some 0 →
      let ids := request.rewriters.map (·.id)
      let ran := node.applications request store
      (node.Refuses request →
        (∃ e, node.rewriteQuery request store = (.error e, [], store, node)) ∧ ran = []) ∧
      (¬ node.Refuses request → ∀ front id rest e, ids = front ++ id :: rest →
        (∀ key ∈ front, node.fault? request store key = none) →
        node.fault? request store id = some e →
        ∃ left after, node.rewriteQuery request store = (.error (.load e), [], left, after) ∧
          ran = [] ∧
          (∀ key ∈ front, (after.registry.held? request.partition key).isSome = true) ∧
          after.registry.held? request.partition id = none ∧
          node.Touches request.partition (front ++ [id]) after) ∧
      (¬ node.Refuses request → (∀ id ∈ ids, node.fault? request store id = none) →
        ∃ threshold expansion left after response,
          node.rewriteQuery request store =
            (response, ran.flatMap (·.log request.partition), left, after) ∧
          ran.map (·.applied.id) = ids ∧
          ids.map (after.registry.held? request.partition) = ran.map (some ·.applied) ∧
          node.Touches request.partition ids after ∧
          chooseThreshold node.threshold request.threshold? = .ok threshold ∧
          Runs request.partition node.paramNamespace
            (mountAll node.paramNamespace request.rewriters) (.ofQuery request.query) ran
            expansion ∧
          match expansion.compose threshold with
          | .error invalid => response = .error (.ofBoost invalid)
          | .ok query => response = .ok {
              query, applied := ids
              actions := ran.flatMap fun application =>
                application.notes.map fun note => (application.applied.id, note) }) := by
  refine ⟨fun chronicle t n node found => chronicle.orderly_state t found, ?_⟩
  intro node request store builtin orderly room ids ran
  refine ⟨fun refuses => node.rewriteQuery_of_refuses refuses store, ?_, ?_⟩
  · intro accepts front id rest e named found fails
    exact Node.rewriteQuery_of_fault orderly room accepts named found fails
  · intro accepts found
    obtain ⟨threshold, expansion, left, after, response, answers, listed, held, touches, chosen,
      run, composed⟩ := Node.rewriteQuery_of_found builtin orderly room accepts found
    refine ⟨threshold, expansion, left, after, response, answers, listed, held, touches, chosen,
      run, ?_⟩
    rw [composed]
    cases expansion.compose threshold with
    | error invalid => rfl
    | ok query => exact congrArg Except.ok (congrArg (RewriteResponse.mk query · _) listed)

/-! ### A search by two rewriters, and one that names a rewriter too many -/

open Chronicle in
/-- A store that holds one definition. -/
def labtopStore : Store :=
  Store.empty.write "r" (some (Definition.toDocument ⟨"r", "replace", labtopRules, none, 3⟩))

open Chronicle in
/-- A search by a rewriter that is there and by another one that is not. -/
def overlongSearch : RewriteRequest :=
  { labtopSearch with rewriters := [⟨"r", none⟩, ⟨"s", none⟩] }

/-- A store that holds a promotion as well. -/
def promotingStore : Store := labtopStore.write "promo" (some promo.toDocument)

open Chronicle in
/-- A search by both. -/
def promotedSearch : RewriteRequest :=
  { labtopSearch with rewriters := [⟨"r", none⟩, ⟨"promo", none⟩] }

open Chronicle in
/-- The search by both runs the table, and then the promotion, which waits for what the table has
put in place. The other search runs nothing, but the rewriter that is there is held from now on. -/
theorem labtopSearches_all_or_nothing :
    (∃ response left after, (startedNode "a" "b").rewriteQuery promotedSearch promotingStore =
        (.ok response, [], left, after) ∧
      response.applied = ["r", "promo"] ∧
      response.actions = [("r", "title:labtop => laptop"),
        ("promo", "Trigger \"laptop\" added 1 boost(s) and 1 filter(s).")] ∧
      ∀ id ∈ ["r", "promo"], (after.registry.held? ⟨"products", 0⟩ id).isSome = true) ∧
    ∃ left after, (startedNode "a" "b").rewriteQuery overlongSearch labtopStore =
        (.error (.load (.notFound "s")), [], left, after) ∧
      (startedNode "a" "b").applications overlongSearch labtopStore = [] ∧
      (after.registry.held? ⟨"products", 0⟩ "r").isSome = true ∧
      after.registry.held? ⟨"products", 0⟩ "s" = none := by
  have orderly : (startedNode "a" "b").registry.Orderly :=
    ⟨fun _ inside => (List.not_mem_nil inside).elim, List.nodup_nil⟩
  refine ⟨?_, ?_⟩
  · have accepts : ¬ (startedNode "a" "b").Refuses promotedSearch :=
      Node.not_refuses_of_prepare (by decide +kernel)
    have found : ∀ id ∈ ["r", "promo"],
        ((startedNode "a" "b").fault? promotedSearch promotingStore id).isNone = true := by
      decide +kernel
    have told : ((startedNode "a" "b").rewriteQuery promotedSearch promotingStore).1.toOption.map
          (·.actions) = some [("r", "title:labtop => laptop"),
            ("promo", "Trigger \"laptop\" added 1 boost(s) and 1 filter(s).")] ∧
        ((startedNode "a" "b").rewriteQuery promotedSearch promotingStore).2.1 = [] := by
      decide +kernel
    obtain ⟨threshold, expansion, left, after, response, answers, _, held, _, _, _, composed⟩ :=
      (requests_all_or_nothing.2 (startedNode "a" "b") promotedSearch promotingStore rfl orderly
        nofun).2.2 accepts fun id member => Option.isNone_iff_eq_none.mp (found id member)
    rw [answers] at told
    obtain ⟨told, silent⟩ := told
    simp only at told silent
    rw [answers, silent]
    cases joined : expansion.compose threshold with
    | error invalid =>
        rw [joined] at composed
        rw [composed] at told
        cases told
    | ok query =>
        rw [joined] at composed
        rw [composed] at told ⊢
        refine ⟨_, left, after, rfl, rfl, Option.some.inj told, fun id member => ?_⟩
        obtain ⟨_, _, same⟩ := List.mem_map.mp (held ▸ List.mem_map_of_mem member)
        exact Option.isSome_iff_exists.mpr ⟨_, same.symm⟩
  · have accepts : ¬ (startedNode "a" "b").Refuses overlongSearch :=
      Node.not_refuses_of_prepare (by decide +kernel)
    have found : ((startedNode "a" "b").fault? overlongSearch labtopStore "r").isNone = true := by
      decide +kernel
    have fails : (startedNode "a" "b").fault? overlongSearch labtopStore "s" =
        some (.notFound "s") := by rfl
    obtain ⟨left, after, answers, ran, held, missing, _⟩ :=
      (requests_all_or_nothing.2 (startedNode "a" "b") overlongSearch labtopStore rfl orderly
        nofun).2.1 accepts ["r"] "s" [] _ rfl
        (List.forall_mem_singleton.mpr (Option.isNone_iff_eq_none.mp found)) fails
    exact ⟨left, after, answers, ran, held "r" List.mem_cons_self, missing⟩

end QueryRewriting
