import QueryRewriting.Cache.Registry
import QueryRewriting.Proofs.Cache.Undisturbed

/-! # The partitions of a node between calls

Every call on a node works through some of its partitions one after the other. What it leaves alone
and what it may bring in is said place for place, so that the calls of a command can be put
together. A reload that comes to its end without an error has renewed the id on every open
partition. -/

namespace QueryRewriting

namespace Registry

variable {registry before after last : Registry} {store : Store} {handle place : Nat} {id : String}
  {F P Q : String → Definition → Prop} {cache : PartitionCache}

/-- The cache held at a place is quiet. -/
def QuietAt (P : String → Definition → Prop) (registry : Registry) (place : Nat) : Prop :=
  ∃ cache, registry.cache? place = some cache ∧ cache.Quiet registry.kinds P

/-- The caches of all open partitions are quiet. -/
def Quiet (P : String → Definition → Prop) (registry : Registry) : Prop :=
  ∀ place ∈ registry.handles, registry.QuietAt P place

/-! ## One place -/

theorem cache?_setCache_self (present : registry.cache? handle = some cache)
    (put : PartitionCache) : (registry.setCache handle put).cache? handle = some put := by
  obtain ⟨inside, _⟩ := List.getElem?_eq_some_iff.mp present
  exact List.getElem?_set_self inside

theorem cache?_setCache_of_ne (distinct : place ≠ handle) (put : PartitionCache) :
    (registry.setCache handle put).cache? place = registry.cache? place :=
  List.getElem?_set_ne (Ne.symm distinct)

theorem QuietAt.mono (quiet : registry.QuietAt P place) (weaker : ∀ key d, P key d → Q key d) :
    registry.QuietAt Q place := by
  obtain ⟨cache, present, quiet⟩ := quiet
  exact ⟨cache, present, quiet.mono fun key made _ known => weaker key made.definition known⟩

/-! ## What a call leaves alone -/

/-- A call went over the caches: whatever was known of the instances at a place is known of them
still, if it is true of what `F` lets in. -/
structure Advances (F : String → Definition → Prop) (before after : Registry) : Prop where
  kinds : after.kinds = before.kinds
  opened : after.opened = before.opened
  quiet : ∀ P place, (∀ key d, F key d → P key d) → before.QuietAt P place → after.QuietAt P place

namespace Advances

theorem refl (registry : Registry) : Advances F registry registry :=
  ⟨rfl, rfl, fun _ _ _ quiet => quiet⟩

/-- What is added in two parts is added. -/
theorem trans (first : Advances F before after) (second : Advances F after last) :
    Advances F before last where
  kinds := second.kinds.trans first.kinds
  opened := second.opened.trans first.opened
  quiet P place fresh quiet := second.quiet P place fresh (first.quiet P place fresh quiet)

/-- What adds of one sort adds of every wider one. -/
theorem mono (advances : Advances F before after) (weaker : ∀ key d, F key d → Q key d) :
    Advances Q before after where
  kinds := advances.kinds
  opened := advances.opened
  quiet P place fresh := advances.quiet P place fun key d known => fresh key d (weaker key d known)

/-- No partition is opened or closed. -/
theorem handles (advances : Advances F before after) : after.handles = before.handles :=
  congrArg (List.map Prod.snd) advances.opened

/-- If whatever is added is as asked, a quiet registry stays quiet. -/
theorem all (advances : Advances F before after) (fresh : ∀ key d, F key d → P key d)
    (quiet : before.Quiet P) : after.Quiet P := by
  intro place member
  rw [advances.handles] at member
  exact advances.quiet P place fresh (quiet place member)

/-- A call on the cache of one place. -/
theorem setCache {put : PartitionCache} (present : registry.cache? handle = some cache)
    (keeps : ∀ P, (∀ key d, F key d → P key d) → cache.Quiet registry.kinds P →
      put.Quiet registry.kinds P) : Advances F registry (registry.setCache handle put) where
  kinds := rfl
  opened := rfl
  quiet P place fresh quiet := by
    obtain ⟨held, found, quiet⟩ := quiet
    by_cases same : place = handle
    · subst same
      cases present.symm.trans found
      exact ⟨put, cache?_setCache_self present put, keeps P fresh quiet⟩
    · exact ⟨held, (cache?_setCache_of_ne same put).trans found, quiet⟩

end Advances

/-! ## Lookups -/

/-- A lookup adds what the store holds, and finds an instance made of a known definition. -/
theorem lookup_sound (quiet : registry.QuietAt P handle)
    (fresh : ∀ key d, store.Holds key d → P key d) (id : String) :
    (registry.lookup handle id store).2.1.documents = store.documents ∧
      Advances store.Holds registry (registry.lookup handle id store).2.2 ∧
      ∀ made, (registry.lookup handle id store).1 = .ok made →
        made.id = id ∧ registry.kinds.load id made.definition = .ok made.rewriter ∧
          P id made.definition := by
  obtain ⟨cache, present, quiet⟩ := quiet
  obtain ⟨documents, _, answers⟩ := quiet.lookup fresh id
  unfold lookup
  rw [present]
  refine ⟨documents, Advances.setCache present ?_, answers⟩
  intro Q fresh quiet
  exact (quiet.lookup fresh id).2.1

/-! ## Invalidations -/

/-- Nothing is let in. -/
def Nothing (_ : String) (_ : Definition) : Prop := False

/-- Invalidating an id adds nothing, and no visited cache holds the id. -/
theorem invalidateAt_sound (id : String) (places : List Nat) (registry : Registry) :
    Advances Nothing registry (registry.invalidateAt id places).2 ∧
      ∀ P, ∀ place ∈ places, registry.QuietAt P place →
        (registry.invalidateAt id places).2.QuietAt (fun key d => key ≠ id ∧ P key d) place := by
  induction places generalizing registry with
  | nil => exact ⟨.refl registry, fun _ _ member => nomatch member⟩
  | cons handle rest ih =>
      unfold invalidateAt
      cases present : registry.cache? handle with
      | none =>
          obtain ⟨advances, dropped⟩ := ih registry
          refine ⟨advances, ?_⟩
          intro P place member quiet
          rcases List.mem_cons.mp member with rfl | later
          · obtain ⟨cache, found, _⟩ := quiet
            cases present.symm.trans found
          · exact dropped P place later quiet
      | some cache =>
          obtain ⟨advances, dropped⟩ := ih (registry.setCache handle (cache.invalidate id).2)
          have first : Advances Nothing registry
              (registry.setCache handle (cache.invalidate id).2) := by
            refine Advances.setCache present ?_
            intro P _ quiet
            exact (quiet.invalidate id).mono fun _ _ _ known => known.2
          refine ⟨first.trans advances, ?_⟩
          intro P place member quiet
          by_cases same : place = handle
          · subst same
            obtain ⟨held, found, quiet⟩ := quiet
            cases present.symm.trans found
            refine advances.quiet _ place (fun _ _ never => never.elim) ?_
            exact ⟨_, cache?_setCache_self present _, quiet.invalidate id⟩
          · have later := (List.mem_cons.mp member).resolve_left same
            exact dropped P place later (first.quiet P place (fun _ _ never => never.elim) quiet)

/-- Clearing a cache adds nothing, and whatever is asked of its content is so. -/
theorem clearAt_sound (registry : Registry) (handle : Nat) :
    Advances Nothing registry (registry.clearAt handle) ∧
      ∀ P Q, registry.QuietAt P handle → (registry.clearAt handle).QuietAt Q handle := by
  unfold clearAt
  cases present : registry.cache? handle with
  | none =>
      refine ⟨.refl registry, ?_⟩
      intro P Q quiet
      obtain ⟨cache, found, _⟩ := quiet
      cases present.symm.trans found
  | some cache =>
      constructor
      · exact Advances.setCache present fun P _ quiet => quiet.invalidateAll
      · intro P Q quiet
        obtain ⟨held, found, quiet⟩ := quiet
        cases present.symm.trans found
        exact ⟨_, cache?_setCache_self present _, quiet.invalidateAll⟩

/-- Clearing caches adds nothing, and whatever is asked of their content is so. -/
theorem clearAll_sound (places : List Nat) (registry : Registry) :
    Advances Nothing registry (places.foldl clearAt registry) ∧
      ∀ P Q, ∀ place ∈ places, registry.QuietAt P place →
        (places.foldl clearAt registry).QuietAt Q place := by
  induction places generalizing registry with
  | nil => exact ⟨.refl registry, fun _ _ _ member => nomatch member⟩
  | cons handle rest ih =>
      obtain ⟨first, emptied⟩ := registry.clearAt_sound handle
      obtain ⟨advances, dropped⟩ := ih (registry.clearAt handle)
      refine ⟨first.trans advances, ?_⟩
      intro P Q place member quiet
      by_cases same : place = handle
      · subst same
        exact advances.quiet Q place (fun _ _ never => never.elim) (emptied P Q quiet)
      · have later := (List.mem_cons.mp member).resolve_left same
        exact dropped P Q place later (first.quiet P place (fun _ _ never => never.elim) quiet)

/-- An invalidation leaves no instance of the id on any open partition. -/
theorem invalidate_sound (id : String) (registry : Registry) :
    Advances Nothing registry (registry.invalidate id).2 ∧
      ∀ P, registry.Quiet P → (registry.invalidate id).2.Quiet fun key d => key ≠ id ∧ P key d := by
  obtain ⟨advances, dropped⟩ := invalidateAt_sound id registry.handles registry
  refine ⟨advances, ?_⟩
  intro P quiet place member
  rw [invalidate, advances.handles] at member
  exact dropped P place member (quiet place member)

/-- Invalidating everything adds nothing, and whatever is asked of any content is so. -/
theorem invalidateAll_sound (registry : Registry) :
    Advances Nothing registry registry.invalidateAll.2 ∧
      ∀ P Q, registry.Quiet P → registry.invalidateAll.2.Quiet Q := by
  obtain ⟨advances, dropped⟩ := clearAll_sound registry.handles registry
  refine ⟨advances, ?_⟩
  intro P Q quiet place member
  rw [invalidateAll, advances.handles] at member
  exact dropped P Q place member (quiet place member)

/-! ## Opening and closing -/

/-- A new partition has an empty cache behind all others. -/
theorem cache?_create (registry : Registry) (partition : Partition) :
    (registry.create partition).2.cache? registry.caches.length =
      some (.empty partition registry.settings.maxBytes) := by
  simp [create, cache?]

/-- A new partition is found in the place behind all others. -/
theorem find?_create {partition : Partition} (absent : registry.find? partition = none) :
    (registry.create partition).2.find? partition = some registry.caches.length := by
  unfold find? at absent ⊢
  simp [create, List.lookup_append, absent]

/-- A new partition leaves the others where they are. -/
theorem find?_create_of_ne {partition other : Partition} (distinct : other ≠ partition) :
    (registry.create partition).2.find? other = registry.find? other := by
  have different : (other == partition) = false := beq_eq_false_iff_ne.mpr distinct
  unfold find?
  simp [create, List.lookup_append, List.lookup_cons, different]

/-- A new partition leaves the other caches quiet. -/
theorem QuietAt.create (quiet : registry.QuietAt P place) (partition : Partition) :
    (registry.create partition).2.QuietAt P place := by
  obtain ⟨cache, present, quiet⟩ := quiet
  refine ⟨cache, ?_, quiet⟩
  obtain ⟨inside, _⟩ := List.getElem?_eq_some_iff.mp present
  rw [← present]
  exact List.getElem?_append_left inside

/-- A quiet registry stays quiet when a partition is opened. -/
theorem Quiet.create (quiet : registry.Quiet P) (partition : Partition) :
    (registry.create partition).2.Quiet P := by
  intro place member
  simp only [handles, Registry.create, List.map_append, List.mem_append] at member
  rcases member with old | new
  · exact (quiet place old).create partition
  · cases List.mem_singleton.mp new
    exact ⟨_, registry.cache?_create partition, PartitionCache.quiet_empty ..⟩

/-- A partition that is found is one of the open ones. -/
theorem mem_handles_of_find? {partition : Partition}
    (found : registry.find? partition = some handle) :
    handle ∈ registry.handles := by
  obtain ⟨before, after, split, _⟩ := List.lookup_eq_some_iff.mp found
  rw [handles, split, List.map_append, List.map_cons]
  exact List.mem_append_right _ List.mem_cons_self

/-- Whoever gets a cache to look in gets that of an open partition. -/
theorem Quiet.getOrCreate (quiet : registry.Quiet P) (partition : Partition) :
    (registry.getOrCreate partition).2.kinds = registry.kinds ∧
      (registry.getOrCreate partition).2.Quiet P ∧
      (registry.getOrCreate partition).1 ∈ (registry.getOrCreate partition).2.handles := by
  unfold Registry.getOrCreate
  cases found : registry.find? partition with
  | some handle => exact ⟨rfl, quiet, mem_handles_of_find? found⟩
  | none =>
      refine ⟨rfl, quiet.create partition, ?_⟩
      simp [handles, Registry.create]

/-- A partition that is served has been found or opened. -/
theorem serve_eq_getOrCreate {partition : Partition}
    (served : registry.serve partition = .ok (handle, after)) :
    registry.getOrCreate partition = (handle, after) := by
  unfold serve at served
  unfold Registry.getOrCreate
  cases found : registry.find? partition with
  | some place =>
      rw [found] at served
      cases served
      rfl
  | none =>
      rw [found] at served
      simp only at served
      split at served
      · cases served
      · cases served
        rfl

/-- A quiet registry stays quiet when a partition is closed. -/
theorem Quiet.close (quiet : registry.Quiet P) (partition : Partition) :
    (registry.close partition).2.kinds = registry.kinds ∧ (registry.close partition).2.Quiet P := by
  unfold Registry.close
  cases found : registry.find? partition with
  | none => exact ⟨rfl, quiet⟩
  | some handle =>
      obtain ⟨advances, _⟩ := (registry.withdraw partition).clearAt_sound handle
      refine ⟨advances.kinds, advances.all (fun _ _ never => never.elim) ?_⟩
      intro place member
      obtain ⟨entry, kept, rfl⟩ := List.mem_map.mp member
      exact quiet _ (List.mem_map_of_mem (List.mem_filter.mp kept).1)

end Registry

/-! ## Reloads -/

namespace Sweep

variable {P : String → Definition → Prop} {store : Store} {registry : Registry} {sweep : Sweep}
  {visited : List Nat}

/-- An id was renewed: what is held of it the store holds. -/
def Renewed (store : Store) (id : String) (P : String → Definition → Prop) (key : String)
    (definition : Definition) : Prop :=
  (key = id → store.Holds key definition) ∧ P key definition

/-- What is known of a sweep that has been through some places. -/
structure Sound (P : String → Definition → Prop) (store : Store) (registry : Registry)
    (visited : List Nat) (sweep : Sweep) : Prop where
  renewed : sweep.failure = none →
    ∀ place ∈ visited, registry.QuietAt (Renewed store sweep.id P) place
  quiet : ∀ place ∈ sweep.pending, registry.QuietAt P place
  phase : ∀ handle rest cache, sweep.pending = handle :: rest →
    registry.cache? handle = some cache →
    sweep.phase.Sound registry.kinds sweep.id store cache

/-- At the end of a visit the sweep goes on to the next place. -/
theorem sound_account {outcome : Except LoadError Bool} {handle : Nat} {rest : List Nat}
    (sound : sweep.Sound P store registry visited) (pending : sweep.pending = handle :: rest)
    (answered : sweep.phase = .answered outcome) :
    (sweep.account rest outcome).Sound P store registry (visited ++ [handle]) := by
  have later : ∀ place ∈ rest, registry.QuietAt P place := fun place member =>
    sound.quiet place (pending ▸ List.mem_cons_of_mem handle member)
  cases outcome with
  | error e =>
      refine ⟨?_, later, fun _ _ _ _ _ => trivial⟩
      intro none
      cases failure : sweep.failure with
      | none => simp [account, failure] at none
      | some first => simp [account, failure] at none
  | ok held =>
      refine ⟨?_, later, fun _ _ _ _ _ => trivial⟩
      intro none place member
      rcases List.mem_append.mp member with old | new
      · exact sound.renewed none place old
      · cases List.mem_singleton.mp new
        obtain ⟨cache, present, quiet⟩ := sound.quiet handle (pending ▸ List.mem_cons_self)
        have phase := sound.phase handle rest cache pending present
        rw [answered] at phase
        refine ⟨cache, present, quiet.mono ?_⟩
        intro key made found known
        refine ⟨?_, known⟩
        rintro rfl
        exact phase made found

/-- A visit that has no answer yet takes a step of its reload. -/
theorem step_of_unanswered {handle : Nat} {rest : List Nat} {cache : PartitionCache}
    (pending : sweep.pending = handle :: rest) (present : registry.cache? handle = some cache)
    (unanswered : ∀ outcome, sweep.phase ≠ .answered outcome) :
    sweep.step store registry =
      ({ sweep with phase := (sweep.phase.step registry.kinds sweep.id store cache).1 },
        (sweep.phase.step registry.kinds sweep.id store cache).2.1,
        registry.setCache handle (sweep.phase.step registry.kinds sweep.id store cache).2.2) := by
  unfold step
  rw [pending]
  simp only
  split
  · rename_i outcome answered
    exact absurd answered (unanswered outcome)
  · rename_i missing _
    cases present.symm.trans missing
  · rename_i found _
    cases present.symm.trans found
    rfl

/-- A step of a sweep keeps what is known of it. -/
theorem sound_step (fresh : ∀ key d, store.Holds key d → P key d)
    (sound : sweep.Sound P store registry visited) :
    (sweep.step store registry).2.1.documents = store.documents ∧
      registry.Advances store.Holds (sweep.step store registry).2.2 ∧
      ∃ now, now ++ (sweep.step store registry).1.pending = visited ++ sweep.pending ∧
        (sweep.step store registry).1.id = sweep.id ∧
        (sweep.step store registry).1.Sound P (sweep.step store registry).2.1
          (sweep.step store registry).2.2 now := by
  cases pending : sweep.pending with
  | nil =>
      have rests : sweep.step store registry = (sweep, store, registry) := by
        simp only [step, pending]
      rw [rests]
      exact ⟨rfl, .refl registry, visited, by rw [pending], rfl, sound⟩
  | cons handle rest =>
      obtain ⟨cache, present, quiet⟩ := sound.quiet handle (pending ▸ List.mem_cons_self)
      have phase := sound.phase handle rest cache pending present
      by_cases answered : ∃ outcome, sweep.phase = .answered outcome
      · obtain ⟨outcome, answered⟩ := answered
        have accounts : sweep.step store registry =
            (sweep.account rest outcome, store, registry) := by
          simp only [step, pending, answered]
        have kept : (sweep.account rest outcome).pending = rest ∧
            (sweep.account rest outcome).id = sweep.id := by
          cases outcome <;> exact ⟨rfl, rfl⟩
        rw [accounts]
        refine ⟨rfl, .refl registry, visited ++ [handle], ?_, kept.2,
          sound_account sound pending answered⟩
        rw [kept.1, List.append_assoc, List.singleton_append]
      · have unanswered : ∀ outcome, sweep.phase ≠ .answered outcome := fun outcome same =>
          answered ⟨outcome, same⟩
        obtain ⟨documents, _, after⟩ := Reload.sound_step quiet fresh phase
        have advances : registry.Advances store.Holds (registry.setCache handle
            (sweep.phase.step registry.kinds sweep.id store cache).2.2) := by
          refine Registry.Advances.setCache present ?_
          intro Q fresh quiet
          exact (Reload.sound_step quiet fresh phase).2.1
        rw [step_of_unanswered pending present unanswered]
        refine ⟨documents, advances, visited, by rw [pending], rfl, ?_, ?_, ?_⟩
        · intro none place member
          have renewed := advances.quiet (Renewed store sweep.id P) place
            (fun key d holds => ⟨fun _ => holds, fresh key d holds⟩)
            (sound.renewed none place member)
          refine renewed.mono fun key d known => ⟨fun same => ?_, known.2⟩
          exact (Store.holds_congr documents).mpr (known.1 same)
        · intro place member
          exact advances.quiet P place fresh (sound.quiet place member)
        · intro place others held begins found
          cases pending.symm.trans begins
          cases (Registry.cache?_setCache_self present _).symm.trans found
          exact after

/-- What holds of a sweep under way holds after any number of steps. -/
theorem sound_run (steps : Nat) (fresh : ∀ key d, store.Holds key d → P key d)
    (sound : sweep.Sound P store registry visited) :
    (run steps sweep store registry).2.1.documents = store.documents ∧
      registry.Advances store.Holds (run steps sweep store registry).2.2 ∧
      ∃ now, now ++ (run steps sweep store registry).1.pending = visited ++ sweep.pending ∧
        (run steps sweep store registry).1.id = sweep.id ∧
        (run steps sweep store registry).1.Sound P (run steps sweep store registry).2.1
          (run steps sweep store registry).2.2 now := by
  induction steps generalizing sweep store registry visited with
  | zero => exact ⟨rfl, .refl registry, visited, rfl, rfl, sound⟩
  | succ steps ih =>
      obtain ⟨documents, advances, now, places, same, next⟩ := sound_step fresh sound
      have onward : ∀ key d, (sweep.step store registry).2.1.Holds key d → P key d :=
        fun key d holds => fresh key d ((Store.holds_congr documents).mp holds)
      obtain ⟨laterDocuments, laterAdvances, last, laterPlaces, laterSame, final⟩ := ih onward next
      refine ⟨laterDocuments.trans documents, advances.trans (laterAdvances.mono ?_), last,
        laterPlaces.trans places, laterSame.trans same, final⟩
      intro key d holds
      exact (Store.holds_congr documents).mp holds

end Sweep

/-- **A reload that ends in time without an error has renewed the id on every open partition**, and
whether it ends or not, it lets in nothing that the store does not hold. -/
theorem Registry.reloadWithin_sound {P : String → Definition → Prop} {store : Store}
    {registry : Registry} (quiet : registry.Quiet P) (fresh : ∀ key d, store.Holds key d → P key d)
    (delays : Delays) (time : Nat) (id : String) :
    (registry.reloadWithin delays time id store).2.1.documents = store.documents ∧
      registry.Advances store.Holds (registry.reloadWithin delays time id store).2.2 ∧
      ∀ count, (registry.reloadWithin delays time id store).1 = some (.ok count) →
        (registry.reloadWithin delays time id store).2.2.Quiet (Sweep.Renewed store id P) := by
  have start : (Sweep.start id registry.handles).Sound P store registry [] :=
    ⟨fun _ _ member => (List.not_mem_nil member).elim, quiet, fun _ _ _ _ _ => trivial⟩
  simp only [reloadWithin]
  generalize Sweep.stepsWithin delays _ time _ store registry = steps
  obtain ⟨documents, advances, visited, places, same, sound⟩ := Sweep.sound_run steps fresh start
  refine ⟨documents, advances, ?_⟩
  intro count answers place member
  split at answers
  · rename_i ended
    rw [List.isEmpty_iff.mp ended, List.append_nil] at places
    rw [advances.handles] at member
    have unfailed : (Sweep.run steps (Sweep.start id registry.handles) store registry).1.failure =
        none := by
      unfold Sweep.outcome at answers
      split at answers
      · cases answers
      · assumption
    have renewed := sound.renewed unfailed place (places ▸ member)
    refine renewed.mono fun key d known => ⟨fun named => ?_, known.2⟩
    have holds := known.1 (named.trans same.symm)
    exact (Store.holds_congr documents).mp holds
  · cases answers

end QueryRewriting
