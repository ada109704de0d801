import Mathlib.Data.Finset.Card
import QueryRewriting.Proofs.Cache.PlainMap

/-! # Marks and traces without times

Which ids are marked apart, which of the instances held are stale, and which ids have left a trace
is told here without clocks and stamps. An instance can only be stale when the mark of one id too
many was made to count for all: the mark of its own id is placed where nothing is held. -/

namespace QueryRewriting

/-- What is found under a key is there. -/
theorem isSome_lookup_iff {α : Type} {entries : List (String × α)} {key : String} :
    (entries.lookup key).isSome = true ↔ key ∈ entries.map Prod.fst := by
  rw [List.lookup_isSome_iff, List.mem_map]
  simp only [beq_iff_eq, @eq_comm String key]

namespace Marks

variable {marks : Marks} {ids : Finset String} {id other : String} {time : Nat}
  {times : List (String × Nat)}

/-! ## Ids that are marked apart -/

/-- Which ids have a time after one was set. -/
theorem mem_keys_setTime :
    other ∈ (setTime id time times).map Prod.fst ↔ other = id ∨ other ∈ times.map Prod.fst := by
  induction times with
  | nil => simp [setTime]
  | cons entry rest ih =>
      obtain ⟨key, old⟩ := entry
      by_cases same : key = id
      · simp [setTime, same]
      · simp only [setTime, same, if_false, List.map_cons, List.mem_cons, ih]
        exact or_left_comm

/-- Setting a time lists no id twice. -/
theorem nodup_keys_setTime (distinct : (times.map Prod.fst).Nodup) :
    ((setTime id time times).map Prod.fst).Nodup := by
  induction times with
  | nil => simp [setTime]
  | cons entry rest ih =>
      obtain ⟨key, old⟩ := entry
      obtain ⟨apart, distinct⟩ := List.nodup_cons.mp distinct
      by_cases same : key = id
      · subst same
        rw [setTime, if_pos rfl]
        exact List.nodup_cons.mpr ⟨apart, distinct⟩
      · rw [setTime, if_neg same, List.map_cons, List.nodup_cons, mem_keys_setTime]
        exact ⟨not_or.mpr ⟨same, apart⟩, ih distinct⟩

/-- The marks of these ids, and of no others, are told apart. -/
structure Tracks (marks : Marks) (ids : Finset String) : Prop where
  distinct : (marks.byId.map Prod.fst).Nodup
  same : (marks.byId.map Prod.fst).toFinset = ids
  few : ids.card ≤ maxTracked

theorem tracks_empty : empty.Tracks ∅ :=
  ⟨List.nodup_nil, rfl, Nat.zero_le _⟩

theorem tracks_markAll (marks : Marks) : marks.markAll.Tracks ∅ :=
  ⟨List.nodup_nil, rfl, Nat.zero_le _⟩

namespace Tracks

/-- An id has a mark exactly if it is one of those tracked. -/
theorem tracks_iff (tracks : marks.Tracks ids) : marks.tracks id = true ↔ id ∈ ids := by
  rw [← tracks.same, List.mem_toFinset, Marks.tracks, isSome_lookup_iff]

/-- There are as many marks as ids with marks. -/
theorem length_eq (tracks : marks.Tracks ids) : marks.byId.length = ids.card := by
  rw [← tracks.same, List.toFinset_card_of_nodup tracks.distinct, List.length_map]

/-- There is no room for the mark of an id exactly if it would be one too many. -/
theorem full_iff (tracks : marks.Tracks ids) :
    (maxTracked ≤ marks.byId.length ∧ marks.tracks id = false) ↔
      maxTracked < (insert id ids).card := by
  have few := tracks.few
  rw [tracks.length_eq, ← Bool.not_eq_true, tracks.tracks_iff]
  by_cases member : id ∈ ids
  · rw [Finset.insert_eq_of_mem member]
    exact ⟨fun full => (full.2 member).elim, fun many => (few.not_gt many).elim⟩
  · rw [Finset.card_insert_of_notMem member]
    exact ⟨fun full => Nat.lt_succ_of_le full.1, fun many => ⟨Nat.le_of_lt_succ many, member⟩⟩

/-- A mark for which there is no room marks all ids. -/
theorem mark_full (tracks : marks.Tracks ids) (full : maxTracked < (insert id ids).card) :
    marks.mark id = marks.markAll := by
  rw [mark, if_pos (tracks.full_iff.mpr full)]

/-- A mark for which there is room is kept by itself. -/
theorem mark_apart (tracks : marks.Tracks ids) (room : ¬ maxTracked < (insert id ids).card) :
    marks.mark id = { marks with
      clock := marks.clock + 1
      byId := setTime id (marks.clock + 1) marks.byId } := by
  rw [mark, if_neg (tracks.full_iff.not.mpr room)]

/-- A mark is added to those there are, or wipes them out. -/
theorem mark (tracks : marks.Tracks ids) (id : String) :
    (marks.mark id).Tracks
      (if maxTracked < (insert id ids).card then ∅ else insert id ids) := by
  by_cases full : maxTracked < (insert id ids).card
  · rw [if_pos full, tracks.mark_full full]
    exact tracks_markAll marks
  · rw [if_neg full, tracks.mark_apart full]
    refine ⟨nodup_keys_setTime tracks.distinct, ?_, Nat.le_of_not_lt full⟩
    ext other
    rw [List.mem_toFinset, mem_keys_setTime, Finset.mem_insert, ← tracks.same, List.mem_toFinset]

end Tracks

end Marks

namespace PartitionCache

variable {kinds : Kinds} {cache : PartitionCache} {tracked : Finset String}
  {outdated traced left : String → Prop} {id key : String} {made : Instance}
  {P : String → Definition → Prop}

/-! ## Partitions -/

/-- What is told of a partition without times: which ids are marked apart, for which ids the
instance held is older than a mark of all ids, and which ids have left a trace. What is held leaves
none. -/
structure Accords (cache : PartitionCache) (tracked : Finset String)
    (outdated traced : String → Prop) : Prop where
  tracks : cache.marks.Tracks tracked
  stamped : ∀ key made, cache.get? key = some made → made.stamp ≤ cache.marks.clock
  unmarked : ∀ key made, cache.get? key = some made → ∀ time,
    cache.marks.byId.lookup key = some time → time ≤ made.stamp
  outdated_iff : ∀ key made, cache.get? key = some made →
    (made.stamp < cache.marks.all ↔ outdated key)
  traced_iff : ∀ key, key ∈ cache.cleared ↔ traced key
  apart : ∀ key made, cache.get? key = some made → ¬ traced key

namespace Accords

/-- A new cache accords with books in which nothing is written. -/
theorem empty (partition : Partition) (maxBytes : Option Nat) :
    (PartitionCache.empty partition maxBytes).Accords ∅ outdated fun _ => False where
  tracks := Marks.tracks_empty
  stamped _ _ held := nomatch held
  unmarked _ _ held := nomatch held
  outdated_iff _ _ held := nomatch held
  traced_iff _ := List.mem_nil_iff _
  apart _ _ held := nomatch held

/-- Only what is told of ids that are held matters. -/
theorem congr {others : Finset String} {older left : String → Prop}
    (accords : cache.Accords tracked outdated traced) (ids : others = tracked)
    (ages : ∀ key, cache.contains key = true → (older key ↔ outdated key))
    (traces : ∀ key, left key ↔ traced key) : cache.Accords others older left where
  tracks := ids ▸ accords.tracks
  stamped := accords.stamped
  unmarked := accords.unmarked
  outdated_iff key made held := by
    have contained : cache.contains key = true := by
      rw [contains, held]
      rfl
    rw [ages key contained]
    exact accords.outdated_iff key made held
  traced_iff key := (accords.traced_iff key).trans (traces key).symm
  apart key made held := (traces key).not.mpr (accords.apart key made held)

/-- An instance that is held is stale exactly if it is outdated. -/
theorem isStale_iff (accords : cache.Accords tracked outdated traced)
    (quiet : cache.Quiet kinds P) (held : cache.get? key = some made) :
    cache.isStale made = true ↔ outdated key := by
  obtain ⟨rfl, _⟩ := quiet.runs key made held
  rw [isStale, Marks.invalidatedSince_iff, ← accords.outdated_iff _ made held]
  refine or_iff_left ?_
  rintro ⟨time, marked, later⟩
  exact (accords.unmarked _ made held time marked).not_gt later

/-- Giving out a number leaves the cache in accord. -/
theorem takeSerial (accords : cache.Accords tracked outdated traced) :
    cache.takeSerial.2.Accords tracked outdated traced :=
  ⟨accords.tracks, accords.stamped, accords.unmarked, accords.outdated_iff, accords.traced_iff,
    accords.apart⟩

/-- Removing an id takes its trace away. -/
theorem remove (accords : cache.Accords tracked outdated traced) (id : String) :
    (cache.remove id).Accords tracked outdated fun key => key ≠ id ∧ traced key where
  tracks := accords.tracks
  stamped key made held := accords.stamped key made (get?_of_remove held)
  unmarked key made held := accords.unmarked key made (get?_of_remove held)
  outdated_iff key made held := accords.outdated_iff key made (get?_of_remove held)
  traced_iff key := by
    rw [PartitionCache.remove, List.mem_filter, accords.traced_iff, decide_eq_true_iff]
    exact and_comm
  apart key made held own := accords.apart key made (get?_of_remove held) own.2

/-- What was made just now is not outdated. -/
theorem insert (accords : cache.Accords tracked outdated traced) (wf : cache.marks.WellFormed)
    (room : cache.maxBytes ≠ some 0) (stamp : made.stamp = cache.marks.clock) :
    (cache.insert made).Accords tracked (fun key => key ≠ made.id ∧ outdated key)
      fun key => key ≠ made.id ∧ traced key := by
  have removed := accords.remove made.id
  have kept (key : String) (found : Instance) (held : (cache.insert made).get? key = some found) :
      key ≠ made.id ∧ cache.get? key = some found ∨ key = made.id ∧ found = made := by
    by_cases same : key = made.id
    · subst same
      rw [get?_insert_self room] at held
      exact .inr ⟨rfl, (Option.some.inj held).symm⟩
    · rw [get?_insert_of_ne same] at held
      exact .inl ⟨same, held⟩
  constructor
  · rw [marks_insert]
    exact accords.tracks
  · intro key found held
    rw [marks_insert]
    rcases kept key found held with ⟨_, before⟩ | ⟨_, rfl⟩
    · exact accords.stamped key found before
    · exact stamp.le
  · intro key found held time marked
    rw [marks_insert] at marked
    rcases kept key found held with ⟨_, before⟩ | ⟨_, rfl⟩
    · exact accords.unmarked key found before time marked
    · rw [stamp]
      exact wf.time_le key time marked
  · intro key found held
    rw [marks_insert]
    rcases kept key found held with ⟨other, before⟩ | ⟨rfl, rfl⟩
    · rw [accords.outdated_iff key found before]
      exact (and_iff_right other).symm
    · rw [stamp]
      exact iff_of_false wf.all_le.not_gt fun own => own.1 rfl
  · intro key
    rw [PartitionCache.insert, if_neg room]
    exact removed.traced_iff key
  · intro key found held
    rcases kept key found held with ⟨_, before⟩ | ⟨same, _⟩
    · exact fun own => accords.apart key found before own.2
    · exact fun own => own.1 same

/-- The mark of an id that is not held makes nothing outdated unless it is one too many. Then it
makes everything so. -/
theorem mark (accords : cache.Accords tracked outdated traced) (missing : cache.get? id = none) :
    (cache.mark id).Accords
      (if Marks.maxTracked < (Insert.insert id tracked).card then ∅ else Insert.insert id tracked)
      (fun key => Marks.maxTracked < (Insert.insert id tracked).card ∨ outdated key) traced := by
  have tracks := accords.tracks.mark id
  by_cases full : Marks.maxTracked < (Insert.insert id tracked).card
  · have marks := accords.tracks.mark_full full
    refine ⟨tracks, ?_, ?_, ?_, accords.traced_iff, accords.apart⟩
    · intro key made held
      rw [PartitionCache.mark, Marks.clock_mark]
      exact Nat.le_succ_of_le (accords.stamped key made held)
    · intro key made held time marked
      rw [PartitionCache.mark, marks] at marked
      cases marked
    · intro key made held
      rw [PartitionCache.mark, marks]
      exact iff_of_true (Nat.lt_succ_of_le (accords.stamped key made held)) (.inl full)
  · have marks := accords.tracks.mark_apart full
    refine ⟨tracks, ?_, ?_, ?_, accords.traced_iff, accords.apart⟩
    · intro key made held
      rw [PartitionCache.mark, Marks.clock_mark]
      exact Nat.le_succ_of_le (accords.stamped key made held)
    · intro key made held time marked
      have other : key ≠ id := by
        rintro rfl
        cases missing.symm.trans held
      rw [PartitionCache.mark, marks, Marks.lookup_setTime_of_ne _ _ other] at marked
      exact accords.unmarked key made held time marked
    · intro key made held
      rw [PartitionCache.mark, marks, or_iff_right full]
      exact accords.outdated_iff key made held

/-- When everything is dropped, traces are left of what was held. -/
theorem invalidateAll (accords : cache.Accords tracked outdated traced) :
    cache.invalidateAll.Accords ∅ outdated fun key => cache.contains key = true ∨ traced key where
  tracks := Marks.tracks_markAll _
  stamped _ _ held := nomatch held
  unmarked _ _ held := nomatch held
  outdated_iff _ _ held := nomatch held
  traced_iff key := by
    rw [PartitionCache.invalidateAll, PartitionCache.clear, List.mem_append, ← accords.traced_iff,
      contains, get?, isSome_lookup_iff]
    rfl
  apart _ _ held := nomatch held

/-- When a cache settles, no trace is left. -/
theorem settle (accords : cache.Accords tracked outdated traced) (light : cache.Light) :
    cache.settle.Accords tracked outdated fun _ => False := by
  rw [light.settle_eq]
  exact ⟨accords.tracks, accords.stamped, accords.unmarked, accords.outdated_iff,
    fun _ => List.mem_nil_iff _, fun _ _ _ => id⟩

/-! ## Lookups -/

/-- What has left a trace is not held. -/
theorem not_contains (accords : cache.Accords tracked outdated traced) (kept : traced key) :
    cache.contains key = false := by
  rw [contains, Option.isSome_eq_false_iff, Option.isNone_iff_eq_none,
    Option.eq_none_iff_forall_ne_some]
  intro made held
  exact accords.apart key made held kept

/-- A trace goes when its id is held again, and not otherwise. -/
theorem sweep (accords : cache.Accords tracked outdated left) (fewer : ∀ key, left key → traced key)
    (swept : ∀ key, traced key → ¬ left key → cache.contains key = true) :
    cache.Accords tracked outdated fun key => traced key ∧ cache.contains key = false := by
  refine accords.congr rfl (fun _ _ => Iff.rfl) fun key => ⟨?_, ?_⟩
  · rintro ⟨before, missing⟩
    by_contra gone
    cases missing.symm.trans (swept key before gone)
  · exact fun kept => ⟨fewer key kept, accords.not_contains kept⟩

/-- A trace is left only of what is not held. -/
theorem still (accords : cache.Accords tracked outdated traced) :
    cache.Accords tracked outdated fun key => traced key ∧ cache.contains key = false :=
  accords.sweep (fun _ kept => kept) fun _ kept gone => (gone kept).elim

/-- An instance made just now renews its id. -/
theorem install (accords : cache.Accords tracked outdated traced)
    (wf : cache.marks.WellFormed) (room : cache.maxBytes ≠ some 0)
    (stamp : made.stamp = cache.marks.clock) :
    (cache.insert made).Accords tracked (fun key => key ≠ made.id ∧ outdated key)
      fun key => traced key ∧ (cache.insert made).contains key = false := by
  refine (accords.insert wf room stamp).sweep (fun _ kept => kept.2) ?_
  intro key before gone
  have same : key = made.id := by
    by_contra other
    exact gone ⟨other, before⟩
  rw [same, contains, get?_insert_self room, Option.isSome_some]

/-- A lookup that loads renews its id. -/
theorem fetch (accords : cache.Accords tracked outdated traced) (quiet : cache.Quiet kinds P)
    (room : cache.maxBytes ≠ some 0) (missing : cache.get? id = none) (store : Store) :
    (cache.fetch kinds id store).2.2.Accords tracked (fun key => key ≠ id ∧ outdated key)
      fun key => traced key ∧ (cache.fetch kinds id store).2.2.contains key = false := by
  unfold PartitionCache.fetch
  cases compiled :
      Instance.compile kinds cache.nextSerial id cache.marks.clock (store.get id).1 with
  | error e =>
      have others (key : String) (held : cache.contains key = true) : key ≠ id := by
        rintro rfl
        rw [contains, missing] at held
        cases held
      simp only [compiled]
      exact accords.takeSerial.still.congr rfl (fun key held => and_iff_right (others key held))
        fun _ => Iff.rfl
  | ok made =>
      obtain ⟨_, rfl, stamp, _⟩ := Instance.of_compile compiled
      have left : cache.takeSerial.2.maxBytes ≠ some 0 := room
      simp only [compiled]
      exact accords.takeSerial.install quiet.marks left stamp

/-- A lookup renews its id if it was outdated. -/
theorem lookup (accords : cache.Accords tracked outdated traced) (quiet : cache.Quiet kinds P)
    (room : cache.maxBytes ≠ some 0) (id : String) (store : Store) :
    (cache.lookup kinds id store).2.2.Accords tracked (fun key => key ≠ id ∧ outdated key)
      fun key => traced key ∧ (cache.lookup kinds id store).2.2.contains key = false := by
  rw [quiet.lookup_eq]
  cases held : cache.get? id with
  | none => exact accords.fetch quiet room held store
  | some made =>
      by_cases stale : cache.isStale made = true
      · simp only [if_pos stale]
        have left : (cache.remove id).maxBytes ≠ some 0 := room
        have fetched := (accords.remove id).fetch (quiet.remove id) left (get?_remove_self cache id)
          store
        refine fetched.congr rfl (fun _ _ => Iff.rfl) fun key => and_congr_left' ?_
        refine (and_iff_right_of_imp fun kept => ?_).symm
        rintro rfl
        exact accords.apart key made held kept
      · simp only [if_neg stale]
        have fresh : ¬ outdated id := (accords.isStale_iff quiet held).not.mp stale
        have ages (key : String) (_ : cache.contains key = true) :
            key ≠ id ∧ outdated key ↔ outdated key :=
          and_iff_right_of_imp fun old same => fresh (same ▸ old)
        exact accords.still.congr rfl ages fun _ => Iff.rfl

end Accords

end PartitionCache

end QueryRewriting
