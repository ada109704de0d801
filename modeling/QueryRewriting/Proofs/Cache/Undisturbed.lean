import QueryRewriting.Proofs.Cache.Provenance

/-! # Calls that nothing disturbs

Between calls that run one after the other a partition is quiet: no load is under way, and each
instance was made of its definition. On a quiet partition a lookup either finds an instance that is
not stale or loads one and keeps it; either way the partition is quiet again. A reload is followed
step by step, since it may be cut off at any of them: whatever it puts into the cache the store
holds, and once it has been answered without an error the cache holds nothing else for the id.
-/

namespace QueryRewriting

namespace PartitionCache

variable {kinds : Kinds} {store : Store} {cache : PartitionCache} {id : String}
  {P Q : String → Definition → Prop}

/-! ## Quiet partitions -/

/-- A partition between calls: nothing is being loaded, and every instance was made of a definition
of which `P` is known. -/
structure Quiet (kinds : Kinds) (P : String → Definition → Prop) (cache : PartitionCache) :
    Prop where
  marks : cache.marks.WellFormed
  idle : cache.loads = []
  room : ∀ key made, cache.get? key = some made → cache.maxBytes ≠ some 0
  runs : ∀ key made, cache.get? key = some made →
    made.id = key ∧ kinds.load key made.definition = .ok made.rewriter ∧ P key made.definition

/-- A new cache is quiet. -/
theorem quiet_empty (partition : Partition) (maxBytes : Option Nat) :
    (empty partition maxBytes).Quiet kinds P where
  marks := Marks.wellFormed_empty
  idle := rfl
  room _ _ held := nomatch held
  runs _ _ held := nomatch held

/-- A quiet cache stays quiet if less is asked of what it holds. -/
theorem Quiet.mono (quiet : cache.Quiet kinds P)
    (weaker : ∀ key made, cache.get? key = some made → P key made.definition →
      Q key made.definition) : cache.Quiet kinds Q where
  marks := quiet.marks
  idle := quiet.idle
  room := quiet.room
  runs key made held := by
    obtain ⟨named, loads, known⟩ := quiet.runs key made held
    exact ⟨named, loads, weaker key made held known⟩

/-- Taking instances away, counting loads and marking keep a partition quiet. -/
theorem Quiet.of_sublist {after : PartitionCache} (quiet : cache.Quiet kinds P)
    (marks : after.marks.WellFormed) (idle : after.loads = cache.loads)
    (room : after.maxBytes = cache.maxBytes)
    (kept : ∀ key made, after.get? key = some made → cache.get? key = some made) :
    after.Quiet kinds P where
  marks := marks
  idle := idle.trans quiet.idle
  room key made held := by
    rw [room]
    exact quiet.room key made (kept key made held)
  runs key made held := quiet.runs key made (kept key made held)

/-- Giving out a number leaves a cache quiet. -/
theorem Quiet.takeSerial (quiet : cache.Quiet kinds P) : cache.takeSerial.2.Quiet kinds P :=
  quiet.of_sublist quiet.marks rfl rfl fun _ _ held => held

/-- Marking an id leaves a cache quiet. -/
theorem Quiet.mark (quiet : cache.Quiet kinds P) (id : String) : (cache.mark id).Quiet kinds P :=
  quiet.of_sublist (quiet.marks.mark id) rfl rfl fun _ _ held => held

/-- Removing an id leaves a cache quiet. -/
theorem Quiet.remove (quiet : cache.Quiet kinds P) (id : String) :
    (cache.remove id).Quiet kinds P :=
  quiet.of_sublist quiet.marks rfl rfl fun _ _ held => get?_of_remove held

/-- An instance made of a known definition leaves a cache quiet. -/
theorem Quiet.insert {made : Instance} (quiet : cache.Quiet kinds P)
    (loads : kinds.load made.id made.definition = .ok made.rewriter)
    (known : P made.id made.definition) : (cache.insert made).Quiet kinds P where
  marks := marks_insert cache made ▸ quiet.marks
  idle := (loads_insert cache made).trans quiet.idle
  room key found held := by
    rw [maxBytes_insert]
    rcases get?_of_insert held with before | ⟨_, _, room⟩
    · exact quiet.room key found before
    · exact room
  runs key found held := by
    rcases get?_of_insert held with before | ⟨rfl, rfl, _⟩
    · exact quiet.runs key found before
    · exact ⟨rfl, loads, known⟩

/-- What was made at the present time of the clock is not stale. -/
theorem isStale_of_stamp {made : Instance} (wf : cache.marks.WellFormed)
    (stamp : made.stamp = cache.marks.clock) : cache.isStale made = false := by
  rw [Bool.eq_false_iff]
  intro stale
  have before := wf.lt_clock stale
  rw [stamp] at before
  exact Nat.lt_irrefl _ before

/-- An instance that was put into a quiet partition is the only one under its id. -/
theorem Quiet.eq_of_insert {made found : Instance} (quiet : cache.Quiet kinds P)
    (held : (cache.insert made).get? made.id = some found) : found = made := by
  by_cases room : cache.maxBytes = some 0
  · rw [PartitionCache.insert, if_pos room] at held
    exact absurd room (quiet.room made.id found held)
  · rw [get?_insert_self room] at held
    exact (Option.some.inj held).symm

/-! ## Lookups -/

/-- Loads an id once, undisturbed, and keeps the instance made of it. -/
def fetch (kinds : Kinds) (id : String) (store : Store) (cache : PartitionCache) :
    Except LoadError Instance × Store × PartitionCache :=
  let (reply, store) := store.get id
  match Instance.compile kinds cache.nextSerial id cache.marks.clock reply with
  | .ok made => (.ok made, store, cache.takeSerial.2.insert made)
  | .error e => (.error e, store, cache.takeSerial.2)

end PartitionCache

namespace Lookup

variable {kinds : Kinds} {store : Store} {cache : PartitionCache} {id : String}
  {P : String → Definition → Prop}

/-- A lookup that takes a step has one step less to take. -/
theorem run_step {lookup next : Lookup} {left : Store} {after : PartitionCache}
    (steps : lookup.step kinds id store cache = (next, left, after)) (fuel : Nat) :
    run kinds id (fuel + 1) lookup store cache = run kinds id fuel next left after := by
  rw [run, steps]

/-- A lookup that is answered stays so. -/
theorem run_answered (outcome : Except LoadError Instance) (fuel : Nat) :
    run kinds id fuel (.answered outcome) store cache = (.answered outcome, store, cache) := by
  induction fuel with
  | zero => rfl
  | succ fuel ih => exact ih

theorem endLoad_beginLoad (idle : cache.loads = []) (id : String) :
    (cache.beginLoad id).2.endLoad id = cache.takeSerial.2 := by
  simp [PartitionCache.beginLoad, PartitionCache.endLoad, PartitionCache.takeSerial, idle]

/-- A load that begins and ends leaves nothing but its instance and its number. -/
theorem endLoad_insert_beginLoad (idle : cache.loads = []) (id : String) (made : Instance) :
    ((cache.beginLoad id).2.insert made).endLoad id = cache.takeSerial.2.insert made := by
  by_cases full : cache.maxBytes = some 0
  · simp [PartitionCache.beginLoad, PartitionCache.endLoad, PartitionCache.takeSerial, idle,
      PartitionCache.insert, full]
  · simp [PartitionCache.beginLoad, PartitionCache.endLoad, PartitionCache.takeSerial, idle,
      PartitionCache.insert, PartitionCache.remove, full]

/-- From the store's reply on, a load that nobody disturbs ends in four steps. -/
theorem run_replied (quiet : cache.Quiet kinds P) (reply : Except StoreError (Option Definition))
    (tries fuel : Nat) :
    run kinds id (fuel + 4)
        (.loading tries cache.nextSerial (.replied cache.marks.clock reply)) store
        (cache.beginLoad id).2 =
      match Instance.compile kinds cache.nextSerial id cache.marks.clock reply with
      | .ok made => (.answered (.ok made), store, cache.takeSerial.2.insert made)
      | .error e => (.answered (.error e), store, cache.takeSerial.2) := by
  cases compiled : Instance.compile kinds cache.nextSerial id cache.marks.clock reply with
  | error e =>
      have publishes :
          (loading tries cache.nextSerial (.replied cache.marks.clock reply)).step kinds id store
            (cache.beginLoad id).2 =
          (.publishing tries cache.nextSerial (.error e), store, (cache.beginLoad id).2) := by
        simp only [step, compiled]
      have ends : (publishing tries cache.nextSerial (.error e)).step kinds id store
          (cache.beginLoad id).2 = (.answered (.error e), store, cache.takeSerial.2) := by
        simp only [step, receive, endLoad_beginLoad quiet.idle]
      rw [run_step publishes, run_step ends, run_answered]
  | ok made =>
      obtain ⟨serial, _, stamp, _, _⟩ := Instance.of_compile compiled
      have lands : (loading tries cache.nextSerial (.replied cache.marks.clock reply)).step kinds
          id store (cache.beginLoad id).2 =
          (.landing tries made, store, (cache.beginLoad id).2) := by
        simp only [step, compiled]
      have publishes : (landing tries made).step kinds id store (cache.beginLoad id).2 =
          (.publishing tries made.serial (.ok made), store,
            (cache.beginLoad id).2.insert made) := rfl
      have ends : (publishing tries made.serial (.ok made)).step kinds id store
          ((cache.beginLoad id).2.insert made) =
          (.verifying tries made, store, cache.takeSerial.2.insert made) := by
        simp only [step, receive, endLoad_insert_beginLoad quiet.idle]
      have fresh : (cache.takeSerial.2.insert made).isStale made = false := by
        rw [PartitionCache.isStale_insert]
        exact PartitionCache.isStale_of_stamp quiet.marks stamp
      have answers : (verifying tries made).step kinds id store (cache.takeSerial.2.insert made) =
          (.answered (.ok made), store, cache.takeSerial.2.insert made) := by
        simp only [step, fresh]
        rfl
      rw [run_step lands, run_step publishes, run_step ends, run_step answers, run_answered]

/-- What is not there is loaded, in eight steps. -/
theorem run_missing (quiet : cache.Quiet kinds P) (missing : cache.get? id = none)
    (tries fuel : Nat) :
    run kinds id (fuel + 8) (.seeking tries) store cache =
      (.answered (cache.fetch kinds id store).1, (cache.fetch kinds id store).2) := by
  have alone : cache.loading? id = none := by
    rw [PartitionCache.loading?, quiet.idle]
    rfl
  have begins : (seeking tries).step kinds id store cache =
      (.loading tries cache.nextSerial .starting, store, (cache.beginLoad id).2) := by
    simp only [step, missing, alone]
    rfl
  have notes : (loading tries cache.nextSerial .starting).step kinds id store
      (cache.beginLoad id).2 =
      (.loading tries cache.nextSerial (.asking cache.marks.clock), store,
        (cache.beginLoad id).2) := rfl
  rw [run_step begins, run_step notes]
  cases permitted : store.beginRead with
  | error e =>
      have refused :
          (loading tries cache.nextSerial (.asking cache.marks.clock)).step kinds id store
            (cache.beginLoad id).2 =
          (.loading tries cache.nextSerial (.replied cache.marks.clock (.error e)), store,
            (cache.beginLoad id).2) := by
        simp only [step, Load.step, permitted]
      rw [run_step refused, run_replied quiet]
      simp only [PartitionCache.fetch, Store.get, permitted]
      rfl
  | ok counted =>
      have asks : (loading tries cache.nextSerial (.asking cache.marks.clock)).step kinds id store
          (cache.beginLoad id).2 =
          (.loading tries cache.nextSerial (.reading cache.marks.clock), counted,
            (cache.beginLoad id).2) := by
        simp only [step, Load.step, permitted]
      have reads : (loading tries cache.nextSerial (.reading cache.marks.clock)).step kinds id
          counted (cache.beginLoad id).2 =
          (.loading tries cache.nextSerial (.replied cache.marks.clock (counted.find? id)), counted,
            (cache.beginLoad id).2) := rfl
      rw [run_step asks, run_step reads, run_replied quiet]
      simp only [PartitionCache.fetch, Store.get, permitted]
      split <;> rfl

end Lookup

namespace PartitionCache

variable {kinds : Kinds} {store : Store} {cache : PartitionCache} {id : String}
  {P : String → Definition → Prop}

/-- What is held under its id is dropped by removing the id. -/
theorem Quiet.discard_eq_remove {made : Instance} (quiet : cache.Quiet kinds P)
    (held : cache.get? id = some made) : cache.discard made = cache.remove id := by
  obtain ⟨rfl, _, _⟩ := quiet.runs id made held
  have same : cache.holds made = true := by
    simp [holds, held]
  rw [PartitionCache.discard, if_pos same]

/-- **What a lookup comes to on a quiet partition.** -/
theorem Quiet.lookup_eq (quiet : cache.Quiet kinds P) :
    cache.lookup kinds id store =
      match cache.get? id with
      | none => cache.fetch kinds id store
      | some made =>
        if cache.isStale made then (cache.remove id).fetch kinds id store
        else (.ok made, store, cache) := by
  unfold PartitionCache.lookup Lookup.start Lookup.maxTries
  cases held : cache.get? id with
  | none =>
      have steps : Lookup.maxSteps = 28 + 8 := rfl
      rw [steps, Lookup.run_missing quiet held]
      rfl
  | some made =>
      have steps : Lookup.maxSteps = 25 + 8 + 3 := rfl
      have finds : (Lookup.seeking 4).step kinds id store cache =
          (.verifying 4 made, store, cache) := by
        simp only [Lookup.step, held]
      cases stale : cache.isStale made with
      | false =>
          have answers : (Lookup.verifying 4 made).step kinds id store cache =
              (.answered (.ok made), store, cache) := by
            simp only [Lookup.step, stale]
            rfl
          rw [steps, Lookup.run_step finds, Lookup.run_step answers, Lookup.run_answered]
          simp only [stale, Bool.false_eq_true, if_false]
          rfl
      | true =>
          have rejects : (Lookup.verifying 4 made).step kinds id store cache =
              (.discarding 4 made, store, cache) := by
            simp only [Lookup.step, stale]
            rfl
          have drops : (Lookup.discarding 4 made).step kinds id store cache =
              (.seeking 3, store, cache.remove id) := by
            simp only [Lookup.step, quiet.discard_eq_remove held]
            rfl
          rw [steps, Lookup.run_step finds, Lookup.run_step rejects, Lookup.run_step drops,
            Lookup.run_missing (quiet.remove id) (get?_remove_self cache id)]
          simp only [stale, if_true]
          rfl

/-- A lookup on a quiet partition finds an instance and changes nothing, or loads one once. -/
theorem Quiet.lookup_cases (quiet : cache.Quiet kinds P) (id : String) (store : Store) :
    (∃ made, cache.get? id = some made ∧ cache.lookup kinds id store = (.ok made, store, cache)) ∨
      ∃ rest : PartitionCache, rest.Quiet kinds P ∧
        cache.lookup kinds id store = rest.fetch kinds id store := by
  rw [quiet.lookup_eq]
  cases held : cache.get? id with
  | none => exact Or.inr ⟨cache, quiet, rfl⟩
  | some made =>
      by_cases stale : cache.isStale made = true
      · simp only [if_pos stale]
        exact Or.inr ⟨cache.remove id, quiet.remove id, rfl⟩
      · simp only [if_neg stale]
        exact Or.inl ⟨made, rfl, rfl⟩

/-- A load that nobody disturbs leaves a quiet partition, and makes its instance of the definition
that the store holds. -/
theorem Quiet.fetch (quiet : cache.Quiet kinds P) (fresh : ∀ key d, store.Holds key d → P key d)
    (id : String) :
    (cache.fetch kinds id store).2.1.documents = store.documents ∧
      (cache.fetch kinds id store).2.2.Quiet kinds P ∧
      ∀ made, (cache.fetch kinds id store).1 = .ok made →
        made.id = id ∧ kinds.load id made.definition = .ok made.rewriter ∧
          store.Holds id made.definition := by
  have documents := store.documents_get id
  unfold PartitionCache.fetch
  cases compiled :
      Instance.compile kinds cache.nextSerial id cache.marks.clock (store.get id).1 with
  | error e =>
      simp only [compiled]
      exact ⟨documents, quiet.takeSerial, fun _ same => nomatch same⟩
  | ok made =>
      obtain ⟨_, rfl, _, reply, loads⟩ := Instance.of_compile compiled
      have holds := Store.holds_of_get reply
      simp only [compiled]
      refine ⟨documents, quiet.takeSerial.insert loads (fresh _ _ holds), ?_⟩
      intro other same
      cases same
      exact ⟨rfl, loads, holds⟩

/-- **A lookup on a quiet partition leaves it quiet**, and answers with an instance that was made of
its definition. -/
theorem Quiet.lookup (quiet : cache.Quiet kinds P) (fresh : ∀ key d, store.Holds key d → P key d)
    (id : String) :
    (cache.lookup kinds id store).2.1.documents = store.documents ∧
      (cache.lookup kinds id store).2.2.Quiet kinds P ∧
      ∀ made, (cache.lookup kinds id store).1 = .ok made →
        made.id = id ∧ kinds.load id made.definition = .ok made.rewriter ∧
          P id made.definition := by
  rcases quiet.lookup_cases id store with ⟨found, held, finds⟩ | ⟨rest, restQuiet, loads⟩
  · rw [finds]
    refine ⟨rfl, quiet, ?_⟩
    intro made same
    cases same
    exact quiet.runs id found held
  · rw [loads]
    obtain ⟨documents, after, makes⟩ := restQuiet.fetch fresh id
    refine ⟨documents, after, ?_⟩
    intro made success
    obtain ⟨named, loads, holds⟩ := makes made success
    exact ⟨named, loads, fresh id _ holds⟩

/-- While the store works, a fetch compiles what it holds. -/
theorem fetch_of_available (works : store.available = true) :
    (cache.fetch kinds id store).1 =
      Instance.compile kinds cache.nextSerial id cache.marks.clock (store.find? id) := by
  have reply : (store.get id).1 = store.find? id := by
    rw [Store.get_eq, if_pos works]
  rw [← reply]
  unfold PartitionCache.fetch
  cases compiled : Instance.compile kinds cache.nextSerial id cache.marks.clock (store.get id).1
  · simp only [compiled]
  · simp only [compiled]

/-- While the store works, a lookup of what it does not hold does not find it. -/
theorem Quiet.lookup_not_found (quiet : cache.Quiet kinds P) (works : store.available = true)
    (missing : cache.get? id = none) (gone : store.find? id = .ok none) :
    (cache.lookup kinds id store).1 = .error (.notFound id) := by
  rw [quiet.lookup_eq, missing]
  simp only [fetch_of_available works, gone]
  rfl

/-- **What the store holds and the kinds can load is found.** -/
theorem Quiet.lookup_ok {definition : Definition} {rewriter : Rewriter}
    (quiet : cache.Quiet kinds P)
    (works : store.available = true) (holds : store.Holds id definition)
    (loads : kinds.load id definition = .ok rewriter) :
    ∃ made, (cache.lookup kinds id store).1 = .ok made := by
  rcases quiet.lookup_cases id store with ⟨found, _, finds⟩ | ⟨rest, _, fetches⟩
  · rw [finds]
    exact ⟨found, rfl⟩
  · refine ⟨⟨rest.nextSerial, id, definition, rewriter, rest.marks.clock⟩, ?_⟩
    rw [fetches, fetch_of_available works, show store.find? id = .ok (some definition) from holds]
    simp only [Instance.compile, loads]

/-! ## Invalidations -/

/-- After an invalidation nothing is held under its id, and the cache is quiet. -/
theorem Quiet.invalidate (quiet : cache.Quiet kinds P) (id : String) :
    (cache.invalidate id).2.Quiet kinds (fun key definition => key ≠ id ∧ P key definition) := by
  have dropped : (cache.invalidate id).2.Quiet kinds P := (quiet.mark id).remove id
  refine dropped.mono fun key made held known => ⟨?_, known⟩
  rintro rfl
  rw [PartitionCache.invalidate, get?_remove_self] at held
  cases held

/-- After everything was dropped nothing is held, and the cache is quiet. -/
theorem Quiet.invalidateAll (quiet : cache.Quiet kinds P) :
    cache.invalidateAll.Quiet kinds Q where
  marks := Marks.wellFormed_markAll
  idle := quiet.idle
  room _ _ held := nomatch held
  runs _ _ held := nomatch held

end PartitionCache

/-! ## Reloads -/

/-- A load that nobody disturbs: the clock has not moved, and the reply is what the store holds. -/
def Load.Sound (id : String) (store : Store) (clock : Nat) : Load → Prop
  | .starting => True
  | .asking stamp => stamp = clock
  | .reading stamp => stamp = clock
  | .replied stamp reply =>
    stamp = clock ∧ ∀ definition, reply = .ok (some definition) → store.Holds id definition

/-- A load that nobody disturbs stays so, and what it asks leaves the documents as they are. -/
theorem Load.Transition.sound {id : String} {store counted : Store} {clock : Nat}
    {load after : Load} (moves : load.Transition id clock store (after, counted))
    (sound : load.Sound id store clock) :
    counted.documents = store.documents ∧ after.Sound id counted clock := by
  cases moves with
  | noted => exact ⟨rfl, rfl⟩
  | admitted => exact ⟨rfl, sound⟩
  | refused => exact ⟨rfl, sound, nofun⟩
  | told => exact ⟨rfl, sound, fun _ same => same⟩

/-- An instance made just now of the definition that the store holds. -/
structure Instance.Current (kinds : Kinds) (id : String) (store : Store) (cache : PartitionCache)
    (made : Instance) : Prop where
  named : made.id = id
  loads : kinds.load id made.definition = .ok made.rewriter
  holds : store.Holds id made.definition
  stamp : made.stamp = cache.marks.clock

namespace Reload

/-- What is known of a reload that nobody disturbs. When it has been answered without an error, the
cache holds nothing for the id but what the store holds. -/
def Sound (kinds : Kinds) (id : String) (store : Store) (cache : PartitionCache) : Reload → Prop
  | .marking => cache.get? id = none
  | .loading _ load => load.Sound id store cache.marks.clock
  | .comparing made => made.Current kinds id store cache
  | .installing made => made.Current kinds id store cache
  | .rechecking made =>
    made.Current kinds id store cache ∧ ∀ found, cache.get? id = some found → found = made
  | .retracting _ => False
  | .answered (.ok _) => ∀ found, cache.get? id = some found → store.Holds id found.definition
  | _ => True

variable {kinds : Kinds} {store : Store} {cache : PartitionCache} {id : String}
  {P : String → Definition → Prop} {phase : Reload}

/-- A step of a reload keeps what is known of it. -/
theorem sound_step (quiet : cache.Quiet kinds P) (fresh : ∀ key d, store.Holds key d → P key d)
    (sound : phase.Sound kinds id store cache) :
    (phase.step kinds id store cache).2.1.documents = store.documents ∧
      (phase.step kinds id store cache).2.2.Quiet kinds P ∧
      (phase.step kinds id store cache).1.Sound kinds id (phase.step kinds id store cache).2.1
        (phase.step kinds id store cache).2.2 := by
  have moves := transition_step kinds id phase store cache
  generalize phase.step kinds id store cache = result at moves ⊢
  cases moves with
  | begun => exact ⟨rfl, quiet.takeSerial, trivial⟩
  | missed missing =>
      rw [PartitionCache.contains, Option.isSome_eq_false_iff, Option.isNone_iff_eq_none] at missing
      exact ⟨rfl, quiet, missing⟩
  | marked =>
      refine ⟨rfl, quiet.mark id, fun found held => ?_⟩
      have missing : cache.get? id = none := sound
      cases missing.symm.trans held
  | moved _ moves =>
      obtain ⟨documents, after⟩ := moves.sound sound
      exact ⟨documents, quiet, after⟩
  | compiled success =>
      obtain ⟨stamped, replies⟩ := sound
      obtain ⟨_, named, same, replied, loads⟩ := Instance.of_compile success
      exact ⟨rfl, quiet, named, loads, replies _ replied, same.trans stamped⟩
  | vanished => exact ⟨rfl, quiet, trivial⟩
  | failed => exact ⟨rfl, quiet, trivial⟩
  | outdated stale =>
      -- Nobody has marked the id since the instance was read.
      have current : Instance.Current .. := sound
      cases stale.symm.trans (PartitionCache.isStale_of_stamp quiet.marks current.stamp)
  | passed => exact ⟨rfl, quiet, sound⟩
  | installed =>
      have current : Instance.Current .. := sound
      obtain ⟨rfl, loads, holds, stamp⟩ := current
      refine ⟨rfl, quiet.insert loads (fresh _ _ holds), ⟨rfl, loads, holds, ?_⟩, ?_⟩
      · rw [stamp]
        exact congrArg Marks.clock (PartitionCache.marks_insert cache _).symm
      · intro found held
        exact quiet.eq_of_insert held
  | confirmed =>
      obtain ⟨current, only⟩ := sound
      refine ⟨rfl, quiet, fun found held => ?_⟩
      rw [only found held]
      exact current.holds
  | overtaken stale =>
      cases stale.symm.trans (PartitionCache.isStale_of_stamp quiet.marks sound.1.stamp)
  | retracted => exact sound.elim
  | forgotten => exact ⟨rfl, quiet.mark id, trivial⟩
  | removed =>
      refine ⟨rfl, quiet.remove id, fun found held => ?_⟩
      cases (PartitionCache.get?_remove_self cache id).symm.trans held
  | ended => exact ⟨rfl, quiet, sound⟩

end Reload

end QueryRewriting
