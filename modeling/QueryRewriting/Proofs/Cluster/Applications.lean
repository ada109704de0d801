import QueryRewriting.Proofs.Cache.Sweeps
import QueryRewriting.Service.Rewriting

/-! # What a node runs for a request

The rewriters of a request are looked up in the cache of its partition before any of them is run. So
each application runs an instance that was found there, and a request fails when one of its
rewriters is neither held nor defined. -/

namespace QueryRewriting

/-! ## Chains of lookups -/

namespace PartitionCache

variable {kinds : Kinds} {store : Store} {cache : PartitionCache} {id : String}
  {P : String → Definition → Prop}

/-- Fetching leaves a store working or not. -/
theorem available_fetch (kinds : Kinds) (id : String) (store : Store) (cache : PartitionCache) :
    (cache.fetch kinds id store).2.1.available = store.available := by
  have same := store.available_get id
  unfold fetch
  cases compiled : Instance.compile kinds cache.nextSerial id cache.marks.clock (store.get id).1
  · simp only [compiled]
    exact same
  · simp only [compiled]
    exact same

/-- A lookup leaves a store working or not. -/
theorem Quiet.available_lookup (quiet : cache.Quiet kinds P) :
    (cache.lookup kinds id store).2.1.available = store.available := by
  rcases quiet.lookup_cases id store with ⟨found, _, finds⟩ | ⟨rest, _, loads⟩
  · rw [finds]
  · rw [loads]
    exact available_fetch kinds id store rest

end PartitionCache

namespace Registry

variable {registry after : Registry} {store left : Store} {handle : Nat} {id : String}
  {P : String → Definition → Prop}

/-- Ids are looked up one after the other, up to the first that fails. -/
theorem lookupAll_cons (id : String) (rest : List String) :
    registry.lookupAll handle store (id :: rest) =
      match registry.lookup handle id store with
      | (.error e, store, registry) => (.error e, store, registry)
      | (.ok found, store, registry) =>
        ((registry.lookupAll handle store rest).1.map (found :: ·),
          (registry.lookupAll handle store rest).2) := by
  cases looked : registry.lookup handle id store with
  | mk outcome left => cases outcome <;> simp only [lookupAll, looked]

/-- **A chain of lookups finds instances of the ids it was asked for**, each made of its definition,
and lets in nothing that the store does not hold. -/
theorem lookupAll_sound (ids : List String) (quiet : registry.QuietAt P handle)
    (fresh : ∀ key d, store.Holds key d → P key d) :
    (registry.lookupAll handle store ids).2.1.documents = store.documents ∧
      Advances store.Holds registry (registry.lookupAll handle store ids).2.2 ∧
      ∀ chain, (registry.lookupAll handle store ids).1 = .ok chain →
        chain.map (·.id) = ids ∧ ∀ made ∈ chain,
          registry.kinds.load made.id made.definition = .ok made.rewriter ∧
            P made.id made.definition := by
  induction ids generalizing registry store with
  | nil =>
      refine ⟨rfl, .refl registry, ?_⟩
      intro chain answers
      cases answers
      exact ⟨rfl, fun _ member => nomatch member⟩
  | cons id rest ih =>
      have first := lookup_sound quiet fresh id
      rw [lookupAll_cons]
      generalize registry.lookup handle id store = result at first ⊢
      obtain ⟨outcome, left, after⟩ := result
      obtain ⟨documents, advances, answers⟩ := first
      cases outcome with
      | error e => exact ⟨documents, advances, fun _ same => nomatch same⟩
      | ok found =>
          obtain ⟨named, loads, known⟩ := answers found rfl
          -- A lookup leaves the documents, so what is fresh for the first is fresh for the rest.
          have onward : ∀ key d, left.Holds key d → store.Holds key d := fun _ _ =>
            (Store.holds_congr documents).mp
          obtain ⟨laterDocuments, laterAdvances, laterAnswers⟩ :=
            ih (advances.quiet P handle fresh quiet) fun key d holds =>
              fresh key d (onward key d holds)
          refine ⟨laterDocuments.trans documents, advances.trans (laterAdvances.mono onward), ?_⟩
          intro chain answers
          simp only at answers
          cases answered : (after.lookupAll handle left rest).1 with
          | error e =>
              rw [answered] at answers
              cases answers
          | ok others =>
              rw [answered] at answers
              cases answers
              obtain ⟨names, members⟩ := laterAnswers others answered
              refine ⟨by rw [List.map_cons, names, named], ?_⟩
              intro made member
              rcases List.mem_cons.mp member with rfl | later
              · exact ⟨named ▸ loads, named ▸ known⟩
              · rw [← advances.kinds]
                exact members made later

/-- A chain fails with the first lookup that fails. -/
theorem lookupAll_error (front rest : List String) {chain : List Instance} {e : LoadError}
    (found : (registry.lookupAll handle store front).1 = .ok chain)
    (fails : ((registry.lookupAll handle store front).2.2.lookup handle id
      (registry.lookupAll handle store front).2.1).1 = .error e) :
    (registry.lookupAll handle store (front ++ id :: rest)).1 = .error e := by
  induction front generalizing registry store chain with
  | nil =>
      rw [List.nil_append, lookupAll_cons]
      change (registry.lookup handle id store).1 = .error e at fails
      generalize registry.lookup handle id store = result at fails ⊢
      obtain ⟨outcome, left, after⟩ := result
      cases fails
      rfl
  | cons first front ih =>
      rw [List.cons_append, lookupAll_cons]
      rw [lookupAll_cons] at found fails
      generalize registry.lookup handle first store = result at found fails ⊢
      obtain ⟨outcome, left, after⟩ := result
      cases outcome with
      | error e => cases found
      | ok made =>
          simp only at found fails ⊢
          cases answered : (after.lookupAll handle left front).1 with
          | error e =>
              rw [answered] at found
              cases found
          | ok others =>
              rw [ih answered fails]
              rfl

/-- Looking up ids leaves a store working or not. -/
theorem available_lookupAll (ids : List String) (quiet : registry.QuietAt P handle)
    (fresh : ∀ key d, store.Holds key d → P key d) :
    (registry.lookupAll handle store ids).2.1.available = store.available := by
  induction ids generalizing registry store with
  | nil => rfl
  | cons id rest ih =>
      have first := lookup_sound quiet fresh id
      have kept : (registry.lookup handle id store).2.1.available = store.available := by
        obtain ⟨cache, present, quiet⟩ := quiet
        rw [lookup, present]
        exact quiet.available_lookup
      rw [lookupAll_cons]
      generalize registry.lookup handle id store = result at first kept ⊢
      obtain ⟨outcome, left, after⟩ := result
      obtain ⟨documents, advances, _⟩ := first
      cases outcome with
      | error e => exact kept
      | ok found =>
          refine (ih (advances.quiet P handle fresh quiet) ?_).trans kept
          intro key d holds
          exact fresh key d ((Store.holds_congr documents).mp holds)

end Registry

/-! ## Applications -/

/-- Only what is in the chain is applied. -/
theorem applied_mem_of_mem_applyAll {partition : Partition} {paramNamespace : String}
    {params : Params} {expansion : Expansion} {chain : List Instance} {application : Application}
    (member : application ∈ (applyAll partition paramNamespace params expansion chain).1) :
    application.applied ∈ chain := by
  induction chain generalizing expansion with
  | nil => cases member
  | cons found rest ih =>
      rw [applyAll] at member
      split at member
      · cases member
      · rcases List.mem_cons.mp member with rfl | later
        · exact List.mem_cons_self
        · exact List.mem_cons_of_mem _ (ih later)

namespace Node

variable {node : Node} {request : RewriteRequest} {store : Store} {P : String → Definition → Prop}

/-- What a node runs for a request: nothing, unless the request is accepted and each of its
rewriters is found. -/
def applications (node : Node) (request : RewriteRequest) (store : Store) : List Application :=
  match node.prepare request with
  | .error _ => []
  | .ok (_, handle, registry) =>
    match (registry.lookupAll handle store (request.rewriters.map (·.id))).1 with
    | .error _ => []
    | .ok chain =>
      (applyAll request.partition node.paramNamespace
        (mountAll node.paramNamespace request.rewriters) (.ofQuery request.query) chain).1

/-- What is logged, and what a response lists, are the applications. -/
theorem applications_rewriteQuery (node : Node) (request : RewriteRequest) (store : Store) :
    (node.rewriteQuery request store).2.1 =
        (node.applications request store).flatMap (·.log request.partition) ∧
      ∀ response, (node.rewriteQuery request store).1 = .ok response →
        response.applied = (node.applications request store).map (·.applied.id) := by
  unfold rewriteQuery applications
  cases node.prepare request with
  | error e =>
      refine ⟨rfl, fun _ answers => ?_⟩
      cases answers
  | ok prepared =>
      obtain ⟨threshold, handle, registry⟩ := prepared
      simp only
      generalize registry.lookupAll handle store (request.rewriters.map (·.id)) = found
      obtain ⟨outcome, left, after⟩ := found
      cases outcome with
      | error e =>
          refine ⟨rfl, fun _ answers => ?_⟩
          cases answers
      | ok chain =>
          refine ⟨rfl, ?_⟩
          intro response answers
          simp only [RewriteRequest.apply] at answers
          split at answers
          · cases answers
          · split at answers
            · cases answers
              rfl
            · cases answers

/-- A request that was prepared has a partition that is served. -/
theorem serve_of_prepare {threshold : Option Threshold} {handle : Nat} {registry : Registry}
    (prepared : node.prepare request = .ok (threshold, handle, registry)) :
    node.registry.serve request.partition = .ok (handle, registry) := by
  unfold prepare at prepared
  simp only [bind, Except.bind] at prepared
  split at prepared
  · cases prepared
  split at prepared
  · cases prepared
  cases served : node.registry.serve request.partition with
  | error limit =>
      rw [served] at prepared
      cases prepared
  | ok found =>
      rw [served] at prepared
      cases prepared
      rfl

/-- A request finds its partition quiet. -/
theorem quiet_of_prepare {threshold : Option Threshold} {handle : Nat} {registry : Registry}
    (quiet : node.registry.Quiet P)
    (prepared : node.prepare request = .ok (threshold, handle, registry)) :
    registry.kinds = node.registry.kinds ∧ registry.Quiet P ∧ registry.QuietAt P handle := by
  have served := Registry.serve_eq_getOrCreate (serve_of_prepare prepared)
  obtain ⟨kinds, quiet, member⟩ := quiet.getOrCreate request.partition
  rw [served] at kinds quiet member
  exact ⟨kinds, quiet, quiet handle member⟩

/-- **What a node runs was found quiet**: every application is that of an instance made of its
definition, and a request lets in nothing that the store does not hold. -/
theorem rewriteQuery_sound (quiet : node.registry.Quiet P)
    (fresh : ∀ key d, store.Holds key d → P key d) (request : RewriteRequest) :
    (node.rewriteQuery request store).2.2.1.documents = store.documents ∧
      (node.rewriteQuery request store).2.2.2.id = node.id ∧
      (node.rewriteQuery request store).2.2.2.registry.kinds = node.registry.kinds ∧
      (node.rewriteQuery request store).2.2.2.registry.Quiet P ∧
      ∀ application ∈ node.applications request store,
        node.registry.kinds.load application.applied.id application.applied.definition =
            .ok application.applied.rewriter ∧
          P application.applied.id application.applied.definition := by
  unfold rewriteQuery applications
  cases prepared : node.prepare request with
  | error e => exact ⟨rfl, rfl, rfl, quiet, List.forall_mem_nil _⟩
  | ok accepted =>
      obtain ⟨threshold, handle, registry⟩ := accepted
      obtain ⟨kinds, opened, inside⟩ := quiet_of_prepare quiet prepared
      have found := Registry.lookupAll_sound (request.rewriters.map (·.id)) inside fresh
      simp only
      generalize registry.lookupAll handle store (request.rewriters.map (·.id)) = result at found ⊢
      obtain ⟨outcome, left, after⟩ := result
      obtain ⟨documents, advances, answers⟩ := found
      cases outcome with
      | error e =>
          exact ⟨documents, rfl, advances.kinds.trans kinds, advances.all fresh opened,
            List.forall_mem_nil _⟩
      | ok chain =>
          refine ⟨documents, rfl, advances.kinds.trans kinds, advances.all fresh opened, ?_⟩
          intro application member
          obtain ⟨_, members⟩ := answers chain rfl
          rw [← kinds]
          exact members application.applied (applied_mem_of_mem_applyAll member)

/-- A request that is answered found all the rewriters that it names. -/
theorem known_of_rewriteQuery {response : RewriteResponse} {id : String}
    (quiet : node.registry.Quiet P) (fresh : ∀ key d, store.Holds key d → P key d)
    (answers : (node.rewriteQuery request store).1 = .ok response)
    (named : id ∈ request.rewriters.map (·.id)) : ∃ d, P id d := by
  unfold rewriteQuery at answers
  cases prepared : node.prepare request with
  | error e =>
      rw [prepared] at answers
      cases answers
  | ok accepted =>
      obtain ⟨threshold, handle, registry⟩ := accepted
      obtain ⟨_, _, inside⟩ := quiet_of_prepare quiet prepared
      obtain ⟨_, _, found⟩ := Registry.lookupAll_sound (request.rewriters.map (·.id)) inside fresh
      simp only [prepared] at answers
      generalize registry.lookupAll handle store (request.rewriters.map (·.id)) = result
        at found answers
      obtain ⟨outcome, left, after⟩ := result
      cases outcome with
      | error e => cases answers
      | ok chain =>
          obtain ⟨ids, members⟩ := found chain rfl
          rw [← ids] at named
          obtain ⟨made, member, rfl⟩ := List.mem_map.mp named
          exact ⟨made.definition, (members made member).2⟩

/-- **A request fails on the first rewriter that is neither held nor defined.** -/
theorem rewriteQuery_not_found {threshold : Option Threshold} {handle : Nat} {registry : Registry}
    {id : String} {front rest : List String} {chain : List Instance}
    (quiet : node.registry.Quiet P) (fresh : ∀ key d, store.Holds key d → P key d)
    (never : ∀ d, ¬ P id d) (works : store.available = true) (gone : store.find? id = .ok none)
    (prepared : node.prepare request = .ok (threshold, handle, registry))
    (named : request.rewriters.map (·.id) = front ++ id :: rest)
    (found : (registry.lookupAll handle store front).1 = .ok chain) :
    (node.rewriteQuery request store).1 = .error (.load (.notFound id)) := by
  obtain ⟨_, _, inside⟩ := quiet_of_prepare quiet prepared
  have fails : (registry.lookupAll handle store (front ++ id :: rest)).1 =
      .error (.notFound id) := by
    refine Registry.lookupAll_error front rest found ?_
    obtain ⟨documents, advances, _⟩ := Registry.lookupAll_sound front inside fresh
    have works := (Registry.available_lookupAll front inside fresh).trans works
    obtain ⟨cache, present, quiet⟩ := advances.quiet P handle fresh inside
    have missing : cache.get? id = none := by
      cases held : cache.get? id with
      | none => rfl
      | some made => exact absurd (quiet.runs id made held).2.2 (never made.definition)
    rw [Registry.lookup, present]
    exact quiet.lookup_not_found works missing ((Store.find?_congr documents id).trans gone)
  unfold rewriteQuery
  simp only [prepared, named, fails]

end Node

end QueryRewriting
