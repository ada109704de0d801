import QueryRewriting.Proofs.Cache.Events

/-! # Loads under way

The cache registers at most one load of each id, and its serial number is that of the one lookup
that carries it out. Whoever waits for a load waits for a registered one of its own id, so the
outcome that it is handed belongs to that id. `Workload.Coherent` says so, and every event preserves
it.
-/

namespace QueryRewriting

namespace Call

variable {kinds : Kinds} {store : Store} {cache : PartitionCache} {call : Call}
  {id : String} {serial : Nat}

/-- A call loads what it was asked for. -/
theorem subject?_of_load {load : Load} (carries : call.load? = some (id, serial, load)) :
    call.subject? = some id := by
  unfold load? at carries
  split at carries <;> cases carries <;> rfl

/-- A lookup that has a load of its own after a step had it before, or has just begun it. -/
inductive OwnMove (kinds : Kinds) (call : Call) (store : Store) (cache : PartitionCache)
    (id : String) (serial : Nat) : Prop where
  | kept (owns : call.abandoned? = some (id, serial)) (unended : call.published? = none)
  | begun (tries : Nat) (seeking : call = .lookup id (.seeking tries))
      (idle : cache.loading? id = none) (numbered : serial = cache.nextSerial)
      (registered : (call.step kinds store cache).2.2.loading? id = some serial)

/-- Where the load of a call comes from: the call had it, or has just begun it. -/
theorem ownMove_step (owns : (call.step kinds store cache).1.abandoned? = some (id, serial)) :
    OwnMove kinds call store cache id serial := by
  have moves := transition_step kinds call store cache
  generalize stepped : call.step kinds store cache = result at moves owns
  cases moves with
  | lookup moves =>
      cases moves with
      | begun missing idle =>
          cases owns
          refine .begun _ rfl idle rfl ?_
          rw [stepped]
          exact PartitionCache.loading?_beginLoad_self ..
      | moved => exact .kept owns rfl
      | compiled success =>
          obtain ⟨rfl, _⟩ := Instance.of_compile success
          exact .kept owns rfl
      | failed => exact .kept owns rfl
      | landed => exact .kept owns rfl
      | _ => cases owns
  | _ => cases owns

/-- A lookup that waits after a step waited before, or has just found the load under way. -/
theorem waiting_of_step {tries : Nat}
    (waits : (call.step kinds store cache).1 = .lookup id (.waiting tries serial)) :
    call = .lookup id (.waiting tries serial) ∨
      (call = .lookup id (.seeking tries) ∧ cache.loading? id = some serial) := by
  have moves := transition_step kinds call store cache
  generalize call.step kinds store cache = result at moves waits
  cases moves with
  | lookup moves =>
      cases moves with
      | joined missing running =>
          cases waits
          exact Or.inr ⟨rfl, running⟩
      | waits => exact Or.inl waits
      | _ => cases waits
  | _ => cases waits

/-! ## The registry after a step -/

/-- A load that is registered after a step was so before, or has just been begun by a lookup. -/
theorem Effect.loading?_eq_some {after : PartitionCache} (effect : call.Effect cache after)
    (runs : after.loading? id = some serial) :
    cache.loading? id = some serial ∨
      ((∃ tries, call = .lookup id (.seeking tries)) ∧ serial = cache.nextSerial ∧
        after.nextSerial = cache.nextSerial + 1) := by
  cases effect with
  | @loadBegun other tries seeking missing idle =>
      by_cases same : id = other
      · subst same
        rw [PartitionCache.loading?_beginLoad_self] at runs
        exact Or.inr ⟨⟨tries, seeking⟩, (Option.some.inj runs).symm, rfl⟩
      · rw [PartitionCache.loading?_beginLoad_of_ne same] at runs
        exact Or.inl runs
  | loadEnded => exact Or.inl (lookup_of_lookup_filter runs).2
  | installed =>
      rw [PartitionCache.loading?, PartitionCache.loads_insert] at runs
      exact Or.inl runs
  | discarded =>
      rw [PartitionCache.loading?, PartitionCache.loads_discard] at runs
      exact Or.inl runs
  | _ => exact Or.inl runs

/-- A load stays registered until its lookup hands out what it has come to. -/
theorem Effect.loading?_keeps {after : PartitionCache} (effect : call.Effect cache after)
    (runs : cache.loading? id = some serial) :
    after.loading? id = some serial ∨
      ∃ tries number outcome, call = .lookup id (.publishing tries number outcome) := by
  cases effect with
  | @loadBegun other tries seeking missing idle =>
      have distinct : id ≠ other := by
        rintro rfl
        exact Option.some_ne_none _ (runs.symm.trans idle)
      rw [PartitionCache.loading?_beginLoad_of_ne distinct]
      exact Or.inl runs
  | @loadEnded other tries number outcome publishing =>
      by_cases same : id = other
      · subst same
        exact Or.inr ⟨tries, number, outcome, publishing⟩
      · rw [PartitionCache.loading?_endLoad_of_ne same]
        exact Or.inl runs
  | installed =>
      rw [PartitionCache.loading?, PartitionCache.loads_insert]
      exact Or.inl runs
  | discarded =>
      rw [PartitionCache.loading?, PartitionCache.loads_discard]
      exact Or.inl runs
  | _ => exact Or.inl runs

end Call

namespace Workload

variable {kinds : Kinds} {work : Workload} {event : Event} {id : String} {serial : Nat}

/-- An event ends a load: the lookup that carries it out tells of its outcome, or is dropped. -/
inductive Ends (work : Workload) (id : String) (serial : Nat) : Event → Prop where
  | told {k owner outcome} (was : work.calls[k]? = some owner)
      (owns : owner.abandoned? = some (id, serial))
      (ends : owner.published? = some (serial, outcome)) : Ends work id serial (.step k)
  | dropped {k owner} (was : work.calls[k]? = some owner)
      (owns : owner.abandoned? = some (id, serial)) : Ends work id serial (.cancel k)

/-- Nobody waits for a load that has ended. -/
theorem Ends.not_waiting (ends : Ends work id serial event) {n tries : Nat} {subject : String} :
    (work.next kinds event).calls[n]? ≠ some (.lookup subject (.waiting tries serial)) := by
  intro found
  cases ends with
  | @told k owner outcome was owns ends =>
      simp only [next, stepCall, was, ends, List.getElem?_map, Option.map_eq_some_iff] at found
      obtain ⟨before, _, delivered⟩ := found
      rcases Call.deliver_eq serial outcome before with kept | ⟨other, left, rfl, told⟩
      · rw [kept] at delivered
        subst delivered
        simp only [Call.deliver, if_true] at kept
        cases outcome <;> cases kept
      · rw [told] at delivered
        cases outcome <;> cases delivered
  | @dropped k owner was owns =>
      simp only [next, cancelCall, was, owns, List.getElem?_map, Option.map_eq_some_iff] at found
      obtain ⟨before, _, released⟩ := found
      rcases Call.release_eq serial before with kept | ⟨other, left, rfl, freed⟩
      · rw [kept] at released
        subst released
        simp only [Call.release, if_true] at kept
        cases kept
      · rw [freed] at released
        cases released

/-- A load that is registered after an event was registered before, or a lookup has just begun it.
-/
theorem loading?_of_next (runs : (work.next kinds event).cache.loading? id = some serial) :
    work.cache.loading? id = some serial ∨
      ((∃ k tries, event = .step k ∧ work.calls[k]? = some (.lookup id (.seeking tries))) ∧
        serial = work.cache.nextSerial ∧
        (work.next kinds event).cache.nextSerial = work.cache.nextSerial + 1) := by
  have move := cacheMove_next kinds work event
  generalize (work.next kinds event).cache = after at move runs ⊢
  cases move with
  | same => exact Or.inl runs
  | @stepped k call steps was =>
      rcases (Call.effect_step ..).loading?_eq_some runs with
        before | ⟨⟨tries, rfl⟩, numbered, counted⟩
      · exact Or.inl before
      · exact Or.inr ⟨⟨k, tries, steps, was⟩, numbered, counted⟩
  | abandoned => exact Or.inl (lookup_of_lookup_filter runs).2
  | expired => exact Or.inl runs

/-- A load stays registered until its own lookup ends it. -/
theorem loading?_next_keeps (kinds : Kinds) (event : Event)
    (runs : work.cache.loading? id = some serial) :
    (work.next kinds event).cache.loading? id = some serial ∨
      ∃ number, Ends work id number event := by
  have move := cacheMove_next kinds work event
  generalize (work.next kinds event).cache = after at move ⊢
  cases move with
  | same => exact Or.inl runs
  | @stepped k call steps was =>
      subst steps
      rcases (Call.effect_step kinds call work.store work.cache).loading?_keeps runs with
        kept | ⟨tries, number, outcome, rfl⟩
      · exact Or.inl kept
      · exact Or.inr ⟨number, .told was rfl rfl⟩
  | @abandoned k call other number cancels was abandons =>
      subst cancels
      by_cases same : id = other
      · subst same
        exact Or.inr ⟨number, .dropped was abandons⟩
      · rw [PartitionCache.loading?_endLoad_of_ne same]
        exact Or.inl runs
  | expired => exact Or.inl runs

/-! ## Coherence -/

/-- The registered loads are those that lookups carry out and wait for, and loads are told apart by
their serial numbers. -/
structure Coherent (work : Workload) : Prop where
  registered : ∀ {n : Nat} {call : Call} {id serial}, work.calls[n]? = some call →
    call.abandoned? = some (id, serial) → work.cache.loading? id = some serial
  awaited : ∀ {n : Nat} {id tries serial},
    work.calls[n]? = some (.lookup id (.waiting tries serial)) →
    work.cache.loading? id = some serial
  sole : ∀ {m n : Nat} {first second : Call} {id serial}, work.calls[m]? = some first →
    work.calls[n]? = some second → first.abandoned? = some (id, serial) →
    second.abandoned? = some (id, serial) → m = n
  injective : ∀ {id other serial}, work.cache.loading? id = some serial →
    work.cache.loading? other = some serial → id = other
  numbered : ∀ {id serial}, work.cache.loading? id = some serial → serial < work.cache.nextSerial
  loadNumbered : ∀ {n : Nat} {call : Call} {id serial load}, work.calls[n]? = some call →
    call.load? = some (id, serial, load) → serial < work.cache.nextSerial
  loadSole : ∀ {m n : Nat} {first second : Call} {id other serial load load'},
    work.calls[m]? = some first → work.calls[n]? = some second →
    first.load? = some (id, serial, load) → second.load? = some (other, serial, load') → m = n

/-- A partition at which nothing goes on is coherent. -/
theorem coherent_idle (store : Store) (partition : Partition) (maxBytes : Option Nat) :
    Coherent { store, cache := .empty partition maxBytes, calls := [] } := by
  constructor <;> intros <;> simp_all

/-- What a call owns after an event it owned before, unless it has just begun that load. -/
theorem owned_of_next {n : Nat} {after : Call}
    (found : (work.next kinds event).calls[n]? = some after)
    (owns : after.abandoned? = some (id, serial)) :
    (∃ before, work.calls[n]? = some before ∧ before.abandoned? = some (id, serial) ∧
        event ≠ .cancel n ∧ (event = .step n → before.published? = none)) ∨
      (event = .step n ∧ work.cache.loading? id = none ∧ serial = work.cache.nextSerial ∧
        (work.next kinds event).cache.loading? id = some serial) := by
  cases becomes_next found with
  | same was unmoved =>
      exact Or.inl ⟨after, was, owns, unmoved.2, fun steps => (unmoved.1 steps).elim⟩
  | @begun request begins last => cases request <;> cases owns
  | @stepped call steps was =>
      subst steps
      cases Call.ownMove_step owns with
      | kept before unended => exact Or.inl ⟨call, was, before, nofun, fun _ => unended⟩
      | begun tries seeking idle numbered registered =>
          subst seeking
          refine Or.inr ⟨rfl, idle, numbered, ?_⟩
          simpa only [next, stepCall, was, Call.published?] using registered
  | @received k owner number outcome subject tries steps was ends waits =>
      cases outcome <;> cases owns
  | dropped cancels => cases owns
  | released cancels was abandons waits => cases owns

/-- An owner whose load has ended owns it no more. -/
theorem Coherent.registered_next (coherent : work.Coherent) {n : Nat} {after : Call}
    (found : (work.next kinds event).calls[n]? = some after)
    (owns : after.abandoned? = some (id, serial)) :
    (work.next kinds event).cache.loading? id = some serial := by
  rcases owned_of_next found owns with ⟨before, was, owned, kept, unended⟩ | ⟨_, _, _, registered⟩
  · have runs := coherent.registered was owned
    rcases loading?_next_keeps kinds event runs with still | ⟨number, ends⟩
    · exact still
    · exfalso
      cases ends with
      | told acting ownsToo ends =>
          have same := (coherent.registered acting ownsToo).symm.trans runs
          cases same
          cases coherent.sole acting was ownsToo owned
          cases acting.symm.trans was
          exact Option.some_ne_none _ (ends.symm.trans (unended rfl))
      | dropped acting ownsToo =>
          have same := (coherent.registered acting ownsToo).symm.trans runs
          cases same
          cases coherent.sole acting was ownsToo owned
          exact kept rfl
  · exact registered

/-- Whoever waits for a load after an event waits for one that is registered. -/
theorem Coherent.awaited_next (coherent : work.Coherent) {n tries : Nat}
    (found : (work.next kinds event).calls[n]? = some (.lookup id (.waiting tries serial))) :
    (work.next kinds event).cache.loading? id = some serial := by
  -- Whatever the lookup waited for was registered; had that load ended, it would wait no more.
  have unended (runs : work.cache.loading? id = some serial) :
      (work.next kinds event).cache.loading? id = some serial := by
    rcases loading?_next_keeps kinds event runs with still | ⟨number, ends⟩
    · exact still
    · have same : number = serial := by
        cases ends with
        | told acting owns ends =>
            exact Option.some.inj ((coherent.registered acting owns).symm.trans runs)
        | dropped acting owns =>
            exact Option.some.inj ((coherent.registered acting owns).symm.trans runs)
      subst same
      exact (ends.not_waiting found).elim
  have origin := becomes_next found
  generalize after_eq : Call.lookup id (.waiting tries serial) = after at origin
  cases origin with
  | same was unmoved =>
      subst after_eq
      exact unended (coherent.awaited was)
  | @begun request begins last => cases request <;> cases after_eq
  | @stepped call steps was =>
      rcases Call.waiting_of_step after_eq.symm with rfl | ⟨rfl, runs⟩
      · exact unended (coherent.awaited was)
      · exact unended runs
  | @received k owner number outcome subject left steps was ends waits =>
      cases outcome <;> cases after_eq
  | dropped cancels => cases after_eq
  | released cancels was abandons waits => cases after_eq

/-- After an event a load still has one lookup that carries it out. -/
theorem Coherent.sole_next (coherent : work.Coherent) {m n : Nat} {first second : Call}
    (firstFound : (work.next kinds event).calls[m]? = some first)
    (secondFound : (work.next kinds event).calls[n]? = some second)
    (firstOwns : first.abandoned? = some (id, serial))
    (secondOwns : second.abandoned? = some (id, serial)) : m = n := by
  rcases owned_of_next firstFound firstOwns with
    ⟨before, was, owned, _⟩ | ⟨firstSteps, firstIdle, _⟩
  · rcases owned_of_next secondFound secondOwns with
      ⟨earlier, wasToo, ownedToo, _⟩ | ⟨_, idle, _⟩
    · exact coherent.sole was wasToo owned ownedToo
    · cases idle.symm.trans (coherent.registered was owned)
  · rcases owned_of_next secondFound secondOwns with
      ⟨earlier, wasToo, ownedToo, _⟩ | ⟨secondSteps, _⟩
    · cases firstIdle.symm.trans (coherent.registered wasToo ownedToo)
    · cases firstSteps.symm.trans secondSteps
      rfl

/-- What the load of a call was before an event. -/
inductive LoadMove (kinds : Kinds) (work : Workload) (event : Event) (n : Nat) (id : String)
    (serial : Nat) : Load → Prop where
  | same {call load} (was : work.calls[n]? = some call)
      (carries : call.load? = some (id, serial, load)) (unmoved : event ≠ .step n) :
      LoadMove kinds work event n id serial load
  | begun (steps : event = .step n) (numbered : serial = work.cache.nextSerial)
      (counted : (work.next kinds event).cache.nextSerial = work.cache.nextSerial + 1) :
      LoadMove kinds work event n id serial .starting
  | moved {call before} (steps : event = .step n) (was : work.calls[n]? = some call)
      (carries : call.load? = some (id, serial, before)) (unanswered : before.hasReply = false) :
      LoadMove kinds work event n id serial
        (before.step id work.cache.marks.clock work.store).1

/-- The cache after a step is what the step makes of it. -/
theorem cache_stepCall {n : Nat} {call : Call} (was : work.calls[n]? = some call) :
    (work.next kinds (.step n)).cache = (call.step kinds work.store work.cache).2.2 := by
  simp only [next, stepCall, was]
  split <;> rfl

/-- Where a load comes from that a call carries after an event. -/
theorem loadMove_next {n : Nat} {after : Call} {load : Load}
    (found : (work.next kinds event).calls[n]? = some after)
    (carries : after.load? = some (id, serial, load)) :
    LoadMove kinds work event n id serial load := by
  cases becomes_next found with
  | same was unmoved => exact .same was carries unmoved.1
  | @begun request begins last => cases request <;> cases carries
  | @stepped call steps was =>
      subst steps
      cases Call.loadMove_step carries with
      | begun idle subject numbered counted =>
          refine .begun rfl numbered ?_
          rw [cache_stepCall was]
          exact counted
      | moved before carried unanswered => exact .moved rfl was carried unanswered
  | @received k owner number outcome subject tries steps was ends waits =>
      cases outcome <;> cases carries
  | dropped cancels => cases carries
  | released cancels was abandons waits => cases carries

/-- After an event every load has a number that was given out. -/
theorem Coherent.loadNumbered_next (coherent : work.Coherent) {n : Nat} {after : Call} {load : Load}
    (found : (work.next kinds event).calls[n]? = some after)
    (carries : after.load? = some (id, serial, load)) :
    serial < (work.next kinds event).cache.nextSerial := by
  have grows := (cacheMove_next kinds work event).nextSerial_le
  cases loadMove_next found carries with
  | same was carried => exact (coherent.loadNumbered was carried).trans_le grows
  | begun steps numbered counted => omega
  | moved steps was carried => exact (coherent.loadNumbered was carried).trans_le grows

/-- After an event no two calls carry loads of one number. -/
theorem Coherent.loadSole_next (coherent : work.Coherent) {m n : Nat} {first second : Call}
    {other : String} {load load' : Load}
    (firstFound : (work.next kinds event).calls[m]? = some first)
    (secondFound : (work.next kinds event).calls[n]? = some second)
    (firstCarries : first.load? = some (id, serial, load))
    (secondCarries : second.load? = some (other, serial, load')) : m = n := by
  -- A load that is not new was carried before, with a number below those of new loads.
  have origin {k : Nat} {subject : String} {after : Load}
      (move : LoadMove kinds work event k subject serial after) :
      (∃ call before, work.calls[k]? = some call ∧ call.load? = some (subject, serial, before) ∧
        serial < work.cache.nextSerial) ∨ (event = .step k ∧ serial = work.cache.nextSerial) := by
    cases move with
    | same was carried => exact Or.inl ⟨_, _, was, carried, coherent.loadNumbered was carried⟩
    | begun steps numbered => exact Or.inr ⟨steps, numbered⟩
    | moved steps was carried =>
        exact Or.inl ⟨_, _, was, carried, coherent.loadNumbered was carried⟩
  rcases origin (loadMove_next firstFound firstCarries) with
    ⟨_, _, was, carried, known⟩ | ⟨firstSteps, fresh⟩
  · rcases origin (loadMove_next secondFound secondCarries) with
      ⟨_, _, wasToo, carriedToo, _⟩ | ⟨_, fresh⟩
    · exact coherent.loadSole was wasToo carried carriedToo
    · omega
  · rcases origin (loadMove_next secondFound secondCarries) with
      ⟨_, _, _, _, known⟩ | ⟨secondSteps, _⟩
    · omega
    · cases firstSteps.symm.trans secondSteps
      rfl

/-- After an event every registered load has a number that was given out. -/
theorem Coherent.numbered_next (coherent : work.Coherent)
    (runs : (work.next kinds event).cache.loading? id = some serial) :
    serial < (work.next kinds event).cache.nextSerial := by
  have grows := (cacheMove_next kinds work event).nextSerial_le
  rcases loading?_of_next runs with before | ⟨_, numbered, counted⟩
  · exact (coherent.numbered before).trans_le grows
  · omega

/-- After an event no number is registered for two ids. -/
theorem Coherent.injective_next (coherent : work.Coherent) {other : String}
    (runs : (work.next kinds event).cache.loading? id = some serial)
    (runsToo : (work.next kinds event).cache.loading? other = some serial) : id = other := by
  rcases loading?_of_next runs with before | ⟨⟨k, tries, steps, seeks⟩, fresh, _⟩
  · rcases loading?_of_next runsToo with beforeToo | ⟨_, fresh, _⟩
    · exact coherent.injective before beforeToo
    · have known := coherent.numbered before
      omega
  · rcases loading?_of_next runsToo with beforeToo | ⟨⟨j, left, stepsToo, seeksToo⟩, _⟩
    · have known := coherent.numbered beforeToo
      omega
    · cases steps.symm.trans stepsToo
      cases seeks.symm.trans seeksToo
      rfl

/-- No event disturbs the register of loads. -/
theorem Coherent.next (coherent : work.Coherent) (kinds : Kinds) (event : Event) :
    (work.next kinds event).Coherent where
  registered := coherent.registered_next
  awaited := coherent.awaited_next
  sole := coherent.sole_next
  injective := coherent.injective_next
  numbered := coherent.numbered_next
  loadNumbered := coherent.loadNumbered_next
  loadSole := coherent.loadSole_next

end Workload

end QueryRewriting
