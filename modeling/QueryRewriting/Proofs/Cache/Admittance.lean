import QueryRewriting.Proofs.Cache.Journal

/-! # The limit on partitions

At no time more partitions are registered than the limit allows, whatever the calls find and do
between their steps: an opening is admitted where it looks for the last time, and what it found
before does not matter. Each cache is created at a place of its own, so a partition that is
registered again has another cache, and none is withdrawn twice. -/

namespace QueryRewriting

namespace Journal

/-- At a time the opening of a partition takes the step that settles its answer. -/
def Decides (journal : Journal) (time n : Nat) (partition : Partition)
    (outcome : Except PartitionLimit Nat) : Prop :=
  ∃ phase, journal.Takes time n (.opening partition phase) ∧
    (∀ earlier, phase ≠ .answered earlier) ∧
    journal.passage? (time + 1) n = some (.opening partition (.answered outcome))

/-- At a time the cache of a partition is created. -/
def Creates (journal : Journal) (time : Nat) (partition : Partition) (handle : Nat) : Prop :=
  (journal.registry time).create partition = (handle, journal.registry (time + 1))

variable {journal : Journal} {time n : Nat} {partition : Partition} {handle limit : Nat}

/-! ## The registry in time -/

/-- Nothing that happens changes the settings of the registry. -/
theorem settings_registry (journal : Journal) (time : Nat) :
    (journal.registry time).settings = journal.settings := by
  induction time with
  | zero => rfl
  | succ time ih =>
      have turn := journal.turn_succ time
      generalize journal.registry (time + 1) = after at turn ⊢
      cases turn with
      | still alike => exact alike.settings.trans ih
      | creates | withdraws => exact ih

/-- With a limit no more partitions are open than it allows, and none twice. -/
theorem opened_bounded (bounded : journal.settings.maxPartitions = some limit) (time : Nat) :
    ((journal.registry time).opened.map (·.1)).Nodup ∧
      (journal.registry time).opened.length ≤ limit := by
  induction time with
  | zero => exact ⟨List.nodup_nil, Nat.zero_le _⟩
  | succ time ih =>
      have bound : (journal.registry time).settings.maxPartitions = some limit := by
        rw [settings_registry, bounded]
      have turn := journal.turn_succ time
      generalize journal.registry (time + 1) = after at turn ⊢
      cases turn with
      | still alike =>
          rw [alike.opened]
          exact ih
      | withdraws =>
          exact ⟨ih.1.sublist (List.filter_sublist.map _), (List.length_filter_le ..).trans ih.2⟩
      | @creates partition missing room =>
          have free := (Registry.full?_eq_none_iff bound).mp room
          have new := mt Registry.mem_partitions_iff.mp (not_not.mpr missing)
          rw [(Registry.partitions_perm _).mem_iff] at new
          rw [Registry.create, List.map_append, List.map_singleton, List.length_append]
          refine ⟨List.nodup_append.mpr ⟨ih.1, List.pairwise_singleton _ _, ?_⟩, free⟩
          rintro first member second last rfl
          rw [List.mem_singleton.mp last] at member
          exact new member

/-- **The limit is kept**, and no partition is registered twice: the step that registers a partition
finds that it is not there and that there is room for it. -/
theorem partitions_bounded (bounded : journal.settings.maxPartitions = some limit) (time : Nat) :
    (journal.registry time).partitions.Nodup ∧
      (journal.registry time).partitions.length ≤ limit := by
  have perm := (journal.registry time).partitions_perm
  rw [perm.nodup_iff, perm.length_eq, List.length_map]
  exact opened_bounded bounded time

/-- A partition stays registered until it is withdrawn. -/
theorem find?_succ (found : (journal.registry time).find? partition = some handle) :
    (journal.registry (time + 1)).find? partition = some handle ∨
      ∃ n, journal.Withdraws time n partition handle ∧
        (journal.registry (time + 1)).find? partition = none := by
  have turn := journal.turn_succ time
  generalize journal.registry (time + 1) = after at turn ⊢
  cases turn with
  | still alike => exact .inl (alike.find?.trans found)
  | @creates other missing room =>
      refine .inl ((Registry.find?_create_of_ne ?_).trans found)
      rintro rfl
      cases missing.symm.trans found
  | @withdraws n place other withdraws =>
      by_cases same : partition = other
      · subst same
        cases withdraws.2.symm.trans found
        exact .inr ⟨n, withdraws, Registry.find?_withdraw_self ..⟩
      · exact .inl ((Registry.find?_withdraw_of_ne same).trans found)

/-- A partition is registered where its cache is created. -/
theorem creates_of_find? (missing : (journal.registry time).find? partition = none)
    (found : (journal.registry (time + 1)).find? partition = some handle) :
    journal.Creates time partition handle := by
  have turn := journal.turn_succ time
  unfold Creates
  generalize journal.registry (time + 1) = after at turn found ⊢
  cases turn with
  | still alike => cases missing.symm.trans (alike.find?.symm.trans found)
  | @creates other _ _ =>
      by_cases same : partition = other
      · subst same
        cases (Registry.find?_create missing).symm.trans found
        rfl
      · cases missing.symm.trans ((Registry.find?_create_of_ne same).symm.trans found)
  | @withdraws _ _ other _ =>
      by_cases same : partition = other
      · subst same
        cases (Registry.find?_withdraw_self ..).symm.trans found
      · cases missing.symm.trans ((Registry.find?_withdraw_of_ne same).symm.trans found)

/-- **A registered partition was created**, and has been registered with its cache ever since. -/
theorem created_since (found : (journal.registry time).find? partition = some handle) :
    ∃ since < time, journal.Creates since partition handle ∧
      ∀ u, since < u → u ≤ time → (journal.registry u).find? partition = some handle := by
  induction time with
  | zero => cases found
  | succ time ih =>
      have last {since : Nat} (held : ∀ u, since < u → u ≤ time →
          (journal.registry u).find? partition = some handle) (u : Nat) (after : since < u)
          (before : u ≤ time + 1) : (journal.registry u).find? partition = some handle := by
        rcases Nat.le_succ_iff.mp before with earlier | rfl
        · exact held u after earlier
        · exact found
      cases before : (journal.registry time).find? partition with
      | none =>
          exact ⟨time, Nat.lt_succ_self _, creates_of_find? before found,
            last fun u after none => absurd after (Nat.not_lt.mpr none)⟩
      | some place =>
          rcases find?_succ before with kept | ⟨_, _, gone⟩
          · cases kept.symm.trans found
            obtain ⟨since, earlier, creates, held⟩ := ih before
            exact ⟨since, Nat.lt_succ_of_lt earlier, creates, last held⟩
          · cases gone.symm.trans found

/-- A partition that is not withdrawn stays registered with its cache. -/
theorem find?_of_le {since : Nat} (found : (journal.registry since).find? partition = some handle)
    (later : since ≤ time)
    (untouched : ∀ u n place, since ≤ u → u < time → ¬ journal.Withdraws u n partition place) :
    (journal.registry time).find? partition = some handle := by
  induction time, later using Nat.le_induction with
  | base => exact found
  | succ time later ih =>
      have now := ih fun u n place after before =>
        untouched u n place after (Nat.lt_succ_of_lt before)
      rcases find?_succ now with kept | ⟨n, withdraws, _⟩
      · exact kept
      · exact (untouched time n handle later (Nat.lt_succ_self _) withdraws).elim

/-! ## Places -/

/-- A cache keeps its place: none is ever taken away. -/
theorem places_succ (journal : Journal) (time : Nat) :
    (journal.registry time).caches.length ≤ (journal.registry (time + 1)).caches.length := by
  have turn := journal.turn_succ time
  generalize journal.registry (time + 1) = after at turn ⊢
  cases turn with
  | still alike => exact alike.places.ge
  | creates => simp [Registry.create]
  | withdraws => exact le_rfl

/-- There are never fewer caches later on. -/
theorem places_mono {since : Nat} (later : since ≤ time) :
    (journal.registry since).caches.length ≤ (journal.registry time).caches.length := by
  induction time, later using Nat.le_induction with
  | base => exact le_rfl
  | succ time _ ih => exact ih.trans (journal.places_succ time)

/-- A new partition is given the place behind all others. -/
theorem Creates.places (creates : journal.Creates time partition handle) :
    (journal.registry time).caches.length = handle ∧
      (journal.registry (time + 1)).caches.length = handle + 1 := by
  have place : (journal.registry time).caches.length = handle := congrArg Prod.fst creates
  have left : ((journal.registry time).create partition).2 = journal.registry (time + 1) :=
    congrArg Prod.snd creates
  refine ⟨place, ?_⟩
  rw [← left, ← place, Registry.create, List.length_append, List.length_singleton]

/-- No place is given away twice, since by the second time it is taken. -/
theorem Creates.not_lt {s t : Nat} {first second : Partition}
    (created : journal.Creates s first handle) (again : journal.Creates t second handle) :
    ¬ s < t := by
  intro before
  have grown : (journal.registry (s + 1)).caches.length ≤ (journal.registry t).caches.length :=
    places_mono before
  have := created.places.2
  have := again.places.1
  omega

/-- Every creation is at a place of its own. -/
theorem Creates.unique {s t : Nat} {first second : Partition}
    (created : journal.Creates s first handle) (again : journal.Creates t second handle) :
    s = t ∧ first = second := by
  obtain rfl : s = t :=
    Nat.le_antisymm (Nat.not_lt.mp (again.not_lt created)) (Nat.not_lt.mp (created.not_lt again))
  refine ⟨rfl, ?_⟩
  have opened := congrArg (fun made : Nat × Registry => made.2.opened)
    (created.trans again.symm)
  simpa [Registry.create] using opened

/-- A cache that was withdrawn is not found again: it was created once, and has been registered ever
since if it is. -/
theorem Withdraws.not_lt {s t n m : Nat} {first second : Partition}
    (withdraws : journal.Withdraws s n first handle)
    (again : journal.Withdraws t m second handle) : ¬ s < t := by
  intro before
  obtain ⟨since, earlier, created, _⟩ := created_since withdraws.2
  obtain ⟨again, _, creates, held⟩ := created_since again.2
  obtain ⟨rfl, rfl⟩ := created.unique creates
  obtain ⟨next, _, turn⟩ := withdraws.1.closing
  have kept := held (s + 1) (Nat.lt_succ_of_lt earlier) before
  generalize journal.registry (s + 1) = after at turn kept
  cases turn with
  | withdrawn => cases (Registry.find?_withdraw_self ..).symm.trans kept
  | missed missing => cases missing.symm.trans withdraws.2

/-- A cache is withdrawn once, by one call. -/
theorem Withdraws.unique {s t n m : Nat} {first second : Partition}
    (withdraws : journal.Withdraws s n first handle)
    (again : journal.Withdraws t m second handle) : s = t ∧ n = m ∧ first = second := by
  obtain rfl : s = t :=
    Nat.le_antisymm (Nat.not_lt.mp (again.not_lt withdraws))
      (Nat.not_lt.mp (withdraws.not_lt again))
  have same := withdraws.1.1.symm.trans again.1.1
  cases same
  cases withdraws.1.2.symm.trans again.1.2
  exact ⟨rfl, rfl, rfl⟩

/-! ## Answers -/

/-- An opening that has been answered keeps its answer. -/
theorem answered_of_le {begun : Nat} {outcome : Except PartitionLimit Nat}
    (answered : journal.passage? begun n = some (.opening partition (.answered outcome)))
    (later : begun ≤ time) :
    journal.passage? time n = some (.opening partition (.answered outcome)) := by
  induction time, later using Nat.le_induction with
  | base => exact answered
  | succ time _ ih =>
      by_cases moves : journal.motions[time]? = some (.steps n)
      · obtain ⟨next, moved, turn⟩ := Takes.opening ⟨moves, ih⟩
        generalize journal.registry (time + 1) = after at turn
        cases turn with
        | found pending => exact (pending outcome rfl).elim
        | missed pending => rcases pending with same | same <;> cases same
        | rested => exact moved
      · exact passage?_succ_of_ne ih moves

/-- Every answer was settled by a step. -/
theorem decided {outcome : Except PartitionLimit Nat}
    (answered : journal.passage? time n = some (.opening partition (.answered outcome))) :
    ∃ t < time, journal.Decides t n partition outcome := by
  induction time with
  | zero => cases answered
  | succ time ih =>
      have earlier (was : journal.passage? time n = some (.opening partition (.answered outcome))) :
          ∃ t < time + 1, journal.Decides t n partition outcome := by
        obtain ⟨t, before, decides⟩ := ih was
        exact ⟨t, Nat.lt_succ_of_lt before, decides⟩
      rcases opening_before answered with was | begins | ⟨phase, takes, turn⟩
      · exact earlier was
      · cases begins
      · by_cases settled : phase = .answered outcome
        · exact earlier (settled ▸ takes.2)
        · refine ⟨time, Nat.lt_succ_self _, phase, takes, ?_, answered⟩
          rintro other rfl
          generalize journal.registry (time + 1) = after at turn
          cases turn with
          | found pending => exact pending other rfl
          | missed pending => rcases pending with same | same <;> cases same
          | rested => exact settled rfl

/-- The step that settles an answer. -/
theorem Decides.turn {outcome : Except PartitionLimit Nat}
    (decides : journal.Decides time n partition outcome) :
    ∃ phase, (∀ earlier, phase ≠ .answered earlier) ∧
      Opening.Turn (journal.registry time) partition phase (.answered outcome)
        (journal.registry (time + 1)) := by
  obtain ⟨phase, takes, pending, answered⟩ := decides
  obtain ⟨next, moved, turn⟩ := takes.opening
  cases moved.symm.trans answered
  exact ⟨phase, pending, turn⟩

/-- A partition that is served is registered with the cache that serves it, and was not registered
with another one. -/
theorem Decides.serves (decides : journal.Decides time n partition (.ok handle)) :
    (journal.registry (time + 1)).find? partition = some handle ∧
      ∀ place, (journal.registry time).find? partition = some place → place = handle := by
  obtain ⟨phase, pending, turn⟩ := decides.turn
  generalize journal.registry (time + 1) = after at turn ⊢
  cases turn with
  | found _ found => exact ⟨found, fun place there => Option.some.inj (there.symm.trans found)⟩
  | missed _ _ onward => rcases onward with same | same <;> cases same
  | created missing _ =>
      exact ⟨Registry.find?_create missing, fun place there => nomatch missing.symm.trans there⟩
  | rested => exact (pending _ rfl).elim

/-- A partition that is refused is not registered, and the registry is full. -/
theorem Decides.refuses {e : PartitionLimit}
    (decides : journal.Decides time n partition (.error e)) :
    e.partition = partition ∧ (journal.registry time).find? partition = none ∧
      (journal.registry time).full? = some e.limit := by
  obtain ⟨phase, pending, turn⟩ := decides.turn
  generalize journal.registry (time + 1) = after at turn
  cases turn with
  | missed _ _ onward => rcases onward with same | same <;> cases same
  | refused missing full => exact ⟨rfl, missing, full⟩
  | rested => exact (pending _ rfl).elim

/-- An opening that is refused leaves the registry as it is at each of its steps. -/
theorem registry_succ_of_refused {e : PartitionLimit} {t : Nat} {phase : Opening}
    (refused : journal.passage? time n = some (.opening partition (.answered (.error e))))
    (takes : journal.Takes t n (.opening partition phase)) :
    journal.registry (t + 1) = journal.registry t := by
  obtain ⟨next, moved, turn⟩ := takes.opening
  generalize journal.registry (t + 1) = after at turn ⊢
  cases turn with
  | created =>
      -- An answer stays, so the call that was served is not the one that is refused.
      rcases Nat.le_total time (t + 1) with before | after
      · cases moved.symm.trans (answered_of_le refused before)
      · cases refused.symm.trans (answered_of_le moved after)
  | found | missed | refused | rested => rfl

/-- While its partition is registered an opening is served at its first step, and until then it has
not begun to look. -/
theorem served_while_registered {begun : Nat} (opens : journal.Opens begun n partition)
    (registered : ∀ u, begun < u → u ≤ time → (journal.registry u).find? partition ≠ none)
    (later : begun < time) :
    ∃ handle, (∀ u, begun < u → u ≤ time → (journal.registry u).find? partition = some handle) ∧
      (journal.passage? time n = some (.opening partition (.answered (.ok handle))) ∨
        journal.passage? time n = some (.opening partition .looking) ∧
          ∀ u, begun < u → u < time → journal.motions[u]? ≠ some (.steps n)) := by
  -- Once the call has looked, its answer stays; until then the cache it will find does.
  induction time, later using Nat.le_induction with
  | base =>
      obtain ⟨handle, found⟩ := Option.ne_none_iff_exists'.mp
        (registered (begun + 1) (Nat.lt_succ_self _) le_rfl)
      refine ⟨handle, fun u after before => ?_, .inr ⟨?_, fun u after before => ?_⟩⟩
      · obtain rfl : u = begun + 1 := Nat.le_antisymm before after
        exact found
      · rw [passage?, state_succ_of_motion opens.1, opens.2]
        exact List.getElem?_concat_length
      · omega
  | succ time later ih =>
      obtain ⟨handle, held, stage⟩ := ih fun u after before =>
        registered u after (Nat.le_succ_of_le before)
      have now := held time later le_rfl
      have next : (journal.registry (time + 1)).find? partition = some handle := by
        rcases find?_succ now with kept | ⟨_, _, gone⟩
        · exact kept
        · exact (registered (time + 1) (Nat.lt_succ_of_lt later) le_rfl gone).elim
      refine ⟨handle, fun u after before => ?_, ?_⟩
      · rcases Nat.le_succ_iff.mp before with earlier | rfl
        · exact held u after earlier
        · exact next
      · rcases stage with answered | ⟨waits, unmoved⟩
        · exact .inl (answered_of_le answered (Nat.le_succ _))
        · by_cases moves : journal.motions[time]? = some (.steps n)
          · obtain ⟨after, moved, turn⟩ := Takes.opening ⟨moves, waits⟩
            generalize journal.registry (time + 1) = left at turn
            cases turn with
            | found _ found =>
                cases found.symm.trans now
                exact .inl moved
            | missed _ missing _ => cases missing.symm.trans now
          · refine .inr ⟨passage?_succ_of_ne waits moves, fun u after before => ?_⟩
            rcases Nat.lt_succ_iff_lt_or_eq.mp before with earlier | rfl
            · exact unmoved u after earlier
            · exact moves

/-! ## Closings -/

/-- A call that is about to empty a cache has withdrawn it. -/
theorem withdrawn_of_clearing
    (clearing : journal.passage? time n = some (.closing partition (.clearing handle))) :
    ∃ t < time, journal.Withdraws t n partition handle := by
  induction time with
  | zero => cases clearing
  | succ time ih =>
      rcases closing_before clearing with was | begins | ⟨phase, takes, turn⟩
      · obtain ⟨t, before, withdraws⟩ := ih was
        exact ⟨t, Nat.lt_succ_of_lt before, withdraws⟩
      · cases begins
      · generalize journal.registry (time + 1) = after at turn
        cases turn with
        | withdrawn found => exact ⟨time, Nat.lt_succ_self _, takes, found⟩

/-- **A closing that answers that it found its partition has withdrawn it.** -/
theorem withdrawn
    (answered : journal.passage? time n = some (.closing partition (.answered true))) :
    ∃ t < time, ∃ handle, journal.Withdraws t n partition handle := by
  induction time with
  | zero => cases answered
  | succ time ih =>
      have earlier (was : journal.passage? time n = some (.closing partition (.answered true))) :
          ∃ t < time + 1, ∃ handle, journal.Withdraws t n partition handle := by
        obtain ⟨t, before, handle, withdraws⟩ := ih was
        exact ⟨t, Nat.lt_succ_of_lt before, handle, withdraws⟩
      rcases closing_before answered with was | begins | ⟨phase, takes, turn⟩
      · exact earlier was
      · cases begins
      · generalize journal.registry (time + 1) = after at turn
        cases turn with
        | cleared =>
            obtain ⟨t, before, withdraws⟩ := withdrawn_of_clearing takes.2
            exact ⟨t, Nat.lt_succ_of_lt before, _, withdraws⟩
        | rested => exact earlier takes.2

/-! ## The limit -/

/-- **The limit on partitions holds under concurrency.** Whatever openings and closings do between
each other's steps, no partition is registered twice, and never are there more of them than the
limit allows. An opening whose partition stays registered is served at its first step, with the
cache that is registered. Two openings of a partition that is not withdrawn between them are served
with the same cache. An opening is refused only where it finds as many other partitions as the limit
allows, and it changes nothing. A closing that found its partition has withdrawn a cache that was
created once, before that, and that no other call withdraws. -/
theorem partition_limit_holds (bounded : journal.settings.maxPartitions = some limit) :
    (∀ time, (journal.registry time).partitions.Nodup ∧
      (journal.registry time).partitions.length ≤ limit) ∧
    (∀ begun time n partition, journal.Opens begun n partition →
      (∀ u, begun < u → u ≤ time → partition ∈ (journal.registry u).partitions) →
      (∃ u, begun < u ∧ u < time ∧ journal.motions[u]? = some (.steps n)) →
      ∃ handle, journal.passage? time n = some (.opening partition (.answered (.ok handle))) ∧
        ∀ u, begun < u → u ≤ time → (journal.registry u).find? partition = some handle) ∧
    (∀ s t n m partition first second, journal.Decides s n partition (.ok first) →
      journal.Decides t m partition (.ok second) → s ≤ t →
      (∀ u k handle, s < u → u < t → ¬ journal.Withdraws u k partition handle) →
      first = second) ∧
    (∀ time n partition e,
      journal.passage? time n = some (.opening partition (.answered (.error e))) →
      e = { partition, limit } ∧
      (∃ t < time, journal.Decides t n partition (.error e) ∧
        partition ∉ (journal.registry t).partitions ∧
        (journal.registry t).partitions.length = limit) ∧
      ∀ t phase, journal.Takes t n (.opening partition phase) →
        journal.registry (t + 1) = journal.registry t) ∧
    ∀ time n partition,
      journal.passage? time n = some (.closing partition (.answered true)) →
      ∃ t < time, ∃ handle, journal.Withdraws t n partition handle ∧
        (∃ since < t, journal.Creates since partition handle ∧
          ∀ u other, journal.Creates u other handle → u = since ∧ other = partition) ∧
        ∀ u k other, journal.Withdraws u k other handle → u = t ∧ k = n ∧ other = partition := by
  refine ⟨partitions_bounded bounded, ?_, ?_, ?_, ?_⟩
  · rintro begun time n partition opens registered ⟨moved, after, before, moves⟩
    obtain ⟨handle, held, stage⟩ := served_while_registered opens
      (fun u after before => Registry.mem_partitions_iff.mp (registered u after before))
      (after.trans before)
    rcases stage with answered | ⟨_, unmoved⟩
    · exact ⟨handle, answered, held⟩
    · exact (unmoved moved after before moves).elim
  -- Between two answers the first cache stays registered, unless somebody withdraws it.
  · intro s t n m partition first second served again later untouched
    rcases Nat.eq_or_lt_of_le later with rfl | before
    · obtain ⟨_, ⟨moves, _⟩, _, answered⟩ := served
      obtain ⟨_, ⟨same, _⟩, _, other⟩ := again
      cases moves.symm.trans same
      cases answered.symm.trans other
      rfl
    · have held := find?_of_le served.serves.1 before fun u k handle after =>
        untouched u k handle after
      exact again.serves.2 first held
  · intro time n partition e refused
    obtain ⟨t, before, decides⟩ := decided refused
    obtain ⟨own, missing, full⟩ := decides.refuses
    have bound : (journal.registry t).settings.maxPartitions = some limit := by
      rw [settings_registry, bounded]
    obtain ⟨most, reached⟩ := (Registry.full?_eq_some_iff bound).mp full
    have count : (journal.registry t).partitions.length = limit := by
      have most := (partitions_bounded bounded t).2
      rw [(Registry.partitions_perm _).length_eq, List.length_map] at most ⊢
      omega
    refine ⟨?_, ⟨t, before, decides, ?_, count⟩, fun u phase => registry_succ_of_refused refused⟩
    · subst own
      rw [← most]
    · exact mt Registry.mem_partitions_iff.mp (not_not.mpr missing)
  · intro time n partition answered
    obtain ⟨t, before, handle, withdraws⟩ := withdrawn answered
    obtain ⟨since, earlier, creates, _⟩ := created_since withdraws.2
    refine ⟨t, before, handle, withdraws, ⟨since, earlier, creates, fun u other again => ?_⟩, ?_⟩
    · obtain ⟨rfl, rfl⟩ := creates.unique again
      exact ⟨rfl, rfl⟩
    · intro u k other again
      obtain ⟨rfl, rfl, rfl⟩ := withdraws.unique again
      exact ⟨rfl, rfl, rfl⟩

end Journal

/-! ### Two openings for one place -/

/-- The partition that fills the only place, twice. -/
def sharedPlace : Partition := ⟨"products", 0⟩

/-- The partition for which there is no place. -/
def lateComer : Partition := ⟨"products", 1⟩

/-- Two partitions are opened side by side where there is room for one. The second opening is served
first, so the first one is refused although there was room when it looked. The partition that was
opened is closed, and opened again twice while the closing still empties its cache. -/
def oneRoom : Journal where
  kinds := .empty
  settings := { CacheSettings.unbounded with maxPartitions := some 1 }
  motions := [.opens lateComer, .opens sharedPlace, .steps 0, .steps 1, .steps 1, .steps 0,
    .closes sharedPlace, .steps 2, .opens sharedPlace, .steps 3, .steps 3, .opens sharedPlace,
    .steps 4, .steps 2]

/-- The late comer is refused while the other partition is open, which is opened again after it was
closed, and with a new cache. -/
theorem oneRoom_limited :
    oneRoom.settings.maxPartitions = some 1 ∧
    (∀ time, (oneRoom.registry time).partitions.length ≤ 1) ∧
    (∃ t < 14, oneRoom.Decides t 0 lateComer (.error ⟨lateComer, 1⟩) ∧
      (oneRoom.registry t).partitions.length = 1) ∧
    (∃ handle, oneRoom.passage? 13 4 = some (.opening sharedPlace (.answered (.ok handle)))) ∧
    (∃ first second, oneRoom.Decides 10 3 sharedPlace (.ok first) ∧
      oneRoom.Decides 12 4 sharedPlace (.ok second) ∧ first = second) ∧
    ∃ t < 14, ∃ handle, oneRoom.Withdraws t 2 sharedPlace handle := by
  have bounded : oneRoom.settings.maxPartitions = some 1 := rfl
  obtain ⟨kept, served, shared, refused, closed⟩ := Journal.partition_limit_holds bounded
  refine ⟨bounded, fun time => (kept time).2, ?_, ?_, ?_, ?_⟩
  · obtain ⟨_, ⟨t, before, decides, _, full⟩, _⟩ := refused 14 0 lateComer ⟨lateComer, 1⟩ rfl
    exact ⟨t, before, decides, full⟩
  · have registered (u : Nat) (after : 11 < u) (before : u ≤ 13) :
        sharedPlace ∈ (oneRoom.registry u).partitions := by
      refine Registry.mem_partitions_iff.mpr ?_
      obtain rfl | rfl : u = 12 ∨ u = 13 := by omega
      all_goals exact Option.some_ne_none 1
    obtain ⟨handle, answered, _⟩ := served 11 13 4 sharedPlace ⟨rfl, rfl⟩ registered
      ⟨12, by decide, by decide, rfl⟩
    exact ⟨handle, answered⟩
  · have created : oneRoom.Decides 10 3 sharedPlace (.ok 1) :=
      ⟨.serving, ⟨rfl, rfl⟩, by rintro _ ⟨⟩, rfl⟩
    have found : oneRoom.Decides 12 4 sharedPlace (.ok 1) :=
      ⟨.looking, ⟨rfl, rfl⟩, by rintro _ ⟨⟩, rfl⟩
    refine ⟨1, 1, created, found, shared 10 12 3 4 sharedPlace 1 1 created found (by decide) ?_⟩
    rintro u k handle after before ⟨⟨moves, _⟩, _⟩
    obtain rfl : u = 11 := by omega
    cases moves
  · obtain ⟨t, before, handle, withdraws, _⟩ := closed 14 2 sharedPlace rfl
    exact ⟨t, before, handle, withdraws⟩

end QueryRewriting
