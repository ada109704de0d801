import QueryRewriting.Cache.Traffic
import QueryRewriting.Proofs.Cache.Sweeps

/-! # One step of an opening or a closing

A step registers at most one partition, which was not registered before and for which there is room,
or takes at most one partition off the list, or leaves the list alone. A call that takes all its
steps with nothing in between opens and closes as if it took one. -/

namespace QueryRewriting

namespace Registry

variable {registry before after : Registry} {partition other : Partition} {limit : Nat}

/-! ## Registered partitions -/

theorem find?_withdraw_self (registry : Registry) (partition : Partition) :
    (registry.withdraw partition).find? partition = none :=
  lookup_filter_self partition registry.opened

theorem find?_withdraw_of_ne (distinct : other ≠ partition) :
    (registry.withdraw partition).find? other = registry.find? other :=
  lookup_filter_of_ne distinct registry.opened

/-- The partitions are those that are open, in another order. -/
theorem partitions_perm (registry : Registry) :
    registry.partitions.Perm (registry.opened.map (·.1)) := List.mergeSort_perm ..

/-- A partition is listed exactly if it is found. -/
theorem mem_partitions_iff :
    partition ∈ registry.partitions ↔ registry.find? partition ≠ none := by
  rw [registry.partitions_perm.mem_iff, find?, Ne, List.lookup_eq_none_iff, List.mem_map]
  constructor
  · rintro ⟨entry, member, rfl⟩ absent
    exact bne_iff_ne.mp (absent entry member) rfl
  · intro present
    by_contra absent
    refine present fun entry member => bne_iff_ne.mpr ?_
    rintro rfl
    exact absent ⟨entry, member, rfl⟩

/-- A registry is full when as many partitions are open as it may serve. -/
theorem full?_eq_some_iff {most : Nat} (bounded : registry.settings.maxPartitions = some limit) :
    registry.full? = some most ↔ most = limit ∧ limit ≤ registry.opened.length := by
  rw [full?, bounded]
  simp only [Option.ite_none_right_eq_some, Option.some.injEq]
  exact ⟨fun ⟨full, same⟩ => ⟨same.symm, full⟩, fun ⟨same, full⟩ => ⟨full, same.symm⟩⟩

/-- A registry has room as long as fewer partitions are open than it may serve. -/
theorem full?_eq_none_iff (bounded : registry.settings.maxPartitions = some limit) :
    registry.full? = none ↔ registry.opened.length < limit := by
  rw [full?, bounded]
  simp

/-- Two registries that differ in what their caches hold at most. -/
structure Alike (before after : Registry) : Prop where
  settings : after.settings = before.settings
  opened : after.opened = before.opened
  places : after.caches.length = before.caches.length

theorem Alike.refl (registry : Registry) : registry.Alike registry := ⟨rfl, rfl, rfl⟩

/-- Registries that are alike find the same partitions. -/
theorem Alike.find? (alike : before.Alike after) :
    after.find? partition = before.find? partition := by
  rw [Registry.find?, alike.opened, Registry.find?]

/-- What is in a cache makes no difference to which partitions are open. -/
theorem setCache_alike (registry : Registry) (handle : Nat) (cache : PartitionCache) :
    registry.Alike (registry.setCache handle cache) := ⟨rfl, rfl, List.length_set⟩

/-- Clearing a cache makes no difference to which partitions are open. -/
theorem clearAt_alike (registry : Registry) (handle : Nat) :
    registry.Alike (registry.clearAt handle) := by
  unfold clearAt
  split
  · exact setCache_alike ..
  · exact .refl registry

/-- What serving a partition comes to. -/
theorem serve_cases (registry : Registry) (partition : Partition) :
    (∃ handle, registry.find? partition = some handle ∧
      registry.serve partition = .ok (handle, registry)) ∨
    (∃ limit, registry.find? partition = none ∧ registry.full? = some limit ∧
      registry.serve partition = .error { partition, limit }) ∨
    registry.find? partition = none ∧ registry.full? = none ∧
      registry.serve partition = .ok (registry.create partition) := by
  unfold serve
  cases registry.find? partition with
  | some handle => exact .inl ⟨handle, rfl, rfl⟩
  | none =>
      cases registry.full? with
      | some limit => exact .inr (.inl ⟨limit, rfl, rfl, rfl⟩)
      | none => exact .inr (.inr ⟨rfl, rfl, rfl⟩)

end Registry

variable {registry : Registry} {partition : Partition}

/-! ## Steps -/

/-- What a step of an opening comes to. -/
inductive Opening.Turn (registry : Registry) (partition : Partition) :
    Opening → Opening → Registry → Prop where
  | found {phase handle} (pending : ∀ outcome, phase ≠ .answered outcome)
      (found : registry.find? partition = some handle) :
      Turn registry partition phase (.answered (.ok handle)) registry
  | missed {phase next} (pending : phase = .looking ∨ phase = .relooking)
      (missing : registry.find? partition = none) (onward : next = .relooking ∨ next = .serving) :
      Turn registry partition phase next registry
  | created (missing : registry.find? partition = none) (room : registry.full? = none) :
      Turn registry partition .serving (.answered (.ok registry.caches.length))
        (registry.create partition).2
  | refused {limit} (missing : registry.find? partition = none)
      (full : registry.full? = some limit) :
      Turn registry partition .serving (.answered (.error { partition, limit })) registry
  | rested {outcome} : Turn registry partition (.answered outcome) (.answered outcome) registry

/-- A step of an opening is one of its turns. -/
theorem Opening.turn_step (registry : Registry) (partition : Partition) (phase : Opening) :
    Opening.Turn registry partition phase (phase.step registry partition).1
      (phase.step registry partition).2 := by
  cases phase with
  | looking =>
      unfold step
      cases found : registry.find? partition with
      | some handle => exact .found nofun found
      | none =>
          cases registry.settings.maxPartitions with
          | some limit => exact .missed (.inl rfl) found (.inr rfl)
          | none => exact .missed (.inl rfl) found (.inl rfl)
  | relooking =>
      unfold step
      cases found : registry.find? partition with
      | some handle => exact .found nofun found
      | none => exact .missed (.inr rfl) found (.inr rfl)
  | serving =>
      unfold step
      rcases registry.serve_cases partition with
        ⟨handle, found, served⟩ | ⟨limit, missing, full, refused⟩ | ⟨missing, room, created⟩
      · rw [served]
        exact .found nofun found
      · rw [refused]
        exact .refused missing full
      · rw [created]
        exact .created missing room
  | answered outcome => exact .rested

/-- What a step of a closing comes to. -/
inductive Closing.Turn (registry : Registry) (partition : Partition) :
    Closing → Closing → Registry → Prop where
  | withdrawn {handle} (found : registry.find? partition = some handle) :
      Turn registry partition .withdrawing (.clearing handle) (registry.withdraw partition)
  | missed (missing : registry.find? partition = none) :
      Turn registry partition .withdrawing (.answered false) registry
  | cleared {handle} :
      Turn registry partition (.clearing handle) (.answered true) (registry.clearAt handle)
  | rested {known} : Turn registry partition (.answered known) (.answered known) registry

/-- A step of a closing is one of its turns. -/
theorem Closing.turn_step (registry : Registry) (partition : Partition) (phase : Closing) :
    Closing.Turn registry partition phase (phase.step registry partition).1
      (phase.step registry partition).2 := by
  cases phase with
  | withdrawing =>
      unfold step
      cases found : registry.find? partition with
      | some handle => exact .withdrawn found
      | none => exact .missed found
  | clearing handle => exact .cleared
  | answered known => exact .rested

/-- What a step of a call makes of the registry. -/
inductive Passage.Turn (registry : Registry) : Passage → Registry → Prop where
  | still {passage after} (alike : registry.Alike after) : Turn registry passage after
  | creates {partition : Partition} (missing : registry.find? partition = none)
      (room : registry.full? = none) :
      Turn registry (.opening partition .serving) (registry.create partition).2
  | withdraws {partition : Partition} {handle} (found : registry.find? partition = some handle) :
      Turn registry (.closing partition .withdrawing) (registry.withdraw partition)

/-- A step of an opening or a closing is one of its turns. -/
theorem Passage.turn_step (registry : Registry) (passage : Passage) :
    passage.Turn registry (passage.step registry).2 := by
  cases passage with
  | opening partition phase =>
      have turn := phase.turn_step registry partition
      simp only [step]
      generalize phase.step registry partition = stepped at turn ⊢
      obtain ⟨next, after⟩ := stepped
      cases turn with
      | created missing room => exact .creates missing room
      | found | missed | refused | rested => exact .still (.refl _)
  | closing partition phase =>
      have turn := phase.turn_step registry partition
      simp only [step]
      generalize phase.step registry partition = stepped at turn ⊢
      obtain ⟨next, after⟩ := stepped
      cases turn with
      | withdrawn found => exact .withdraws found
      | cleared => exact .still (Registry.clearAt_alike ..)
      | missed | rested => exact .still (.refl _)

/-! ## Calls on their own -/

/-- A call that takes some steps with nothing in between. -/
def Passage.run : Nat → Registry → Passage → Passage × Registry
  | 0, registry, passage => (passage, registry)
  | fuel + 1, registry, passage =>
    let (next, registry) := passage.step registry
    run fuel registry next

/-- **An opening on its own** serves the partition. -/
theorem Passage.run_opening (registry : Registry) (partition : Partition) :
    Passage.run 3 registry (.opening partition .looking) =
      match registry.serve partition with
      | .ok (handle, after) => (.opening partition (.answered (.ok handle)), after)
      | .error e => (.opening partition (.answered (.error e)), registry) := by
  cases found : registry.find? partition with
  | some handle => simp [run, step, Opening.step, Registry.serve, found]
  | none =>
      cases bound : registry.settings.maxPartitions with
      | none => simp [run, step, Opening.step, Registry.serve, Registry.full?, found, bound]
      | some limit =>
          by_cases full : limit ≤ registry.opened.length <;>
            simp [run, step, Opening.step, Registry.serve, Registry.full?, found, bound, full]

/-- **A closing on its own** closes the partition. -/
theorem Passage.run_closing (registry : Registry) (partition : Partition) :
    Passage.run 2 registry (.closing partition .withdrawing) =
      (.closing partition (.answered (registry.close partition).1),
        (registry.close partition).2) := by
  cases found : registry.find? partition with
  | some handle => simp [run, step, Closing.step, Registry.close, found]
  | none => simp [run, step, Closing.step, Registry.close, found]

end QueryRewriting
