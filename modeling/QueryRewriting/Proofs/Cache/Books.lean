import QueryRewriting.Proofs.Cache.Staleness

/-! # What is remembered of a partition

One who sees only calls and answers can keep books on a partition: which ids are marked apart, for
which ids an instance that is held would be stale, and which ids have left a trace. A turn is looked
at once, and what it makes of the books is what it makes of the partition.
-/

namespace QueryRewriting

/-- The id that a turn marks: one that is invalidated, and one that was to be renewed but is not
held, or not defined any more. -/
def PlainMap.marks? (plain : PlainMap) : Turn → Option String
  | .ask (.invalidate id) => some id
  | .ask (.reload id) =>
    match plain.held id, (plain.store.get id).1 with
    | none, _ => some id
    | some _, .ok none => some id
    | some _, _ => none
  | _ => none

/-- Adds the id that a turn marks to those marked before. Once everything is cleared there are
none. -/
def PlainMap.note (plain : PlainMap) (ids : Finset String) : Turn → Finset String
  | .ask .invalidateAll => ∅
  | turn => (plain.marks? turn).elim ids (insert · ids)

/-- Whether a turn looks an id up, or renews it without an error. -/
def Turn.renews (answer : Answer) (id : String) : Turn → Bool
  | .ask (.lookup key) => key = id
  | .ask (.reload key) =>
    match answer with
    | .renewed (.ok _) => key = id
    | _ => false
  | _ => false

/-- What is remembered of a partition by one who sees only calls and answers: the ids that were
marked since all were, the ids that were not renewed since a mark of one id too many counted for
all, and the ids that have been neither held nor invalidated nor swept since they went when
everything was cleared. -/
structure Books where
  tracked : Finset String
  outdated : String → Bool
  traced : String → Bool

namespace Books

/-- The books of a cache that has just been opened. -/
def blank : Books := { tracked := ∅, outdated := fun _ => false, traced := fun _ => false }

/-- Whether a turn marks one id too many. -/
def overflows (books : Books) (before : PlainMap) (turn : Turn) : Bool :=
  Marks.maxTracked < (before.note books.tracked turn).card

/-- Whether an id leaves a trace, or goes on leaving one, unless it is held after a turn. -/
def goes (books : Books) (before : PlainMap) (turn : Turn) (id : String) : Bool :=
  match turn with
  | .ask .invalidateAll => before.holds id || books.traced id
  | .ask (.invalidate key) => id ≠ key && books.traced id
  | .settle => false
  | _ => books.traced id

/-- The books after a turn that led from one plain map to another. -/
def next (books : Books) (before : PlainMap) (turn : Turn) (answer : Answer) (after : PlainMap) :
    Books where
  tracked := if books.overflows before turn then ∅ else before.note books.tracked turn
  outdated id := books.overflows before turn || (books.outdated id && !turn.renews answer id)
  traced id := books.goes before turn id && !after.holds id

/-- The plain map that a turn meets. What is outdated counts as absent when it is looked up. -/
def shown (books : Books) (before : PlainMap) : Turn → PlainMap
  | .ask (.lookup id) => if books.outdated id then before.set id none else before
  | _ => before

/-- Whether a turn invalidates an id that is not held but has left a trace. -/
def meetsTrace (books : Books) : Turn → Bool
  | .ask (.invalidate id) => books.traced id
  | _ => false

variable {books : Books} {before after : PlainMap} {turn : Turn} {answer : Answer} {id key : String}

/-- A call that marks nothing new causes no overflow. -/
theorem overflows_eq_false (unmarked : before.note books.tracked turn = books.tracked)
    (few : books.tracked.card ≤ Marks.maxTracked) : books.overflows before turn = false := by
  rw [overflows, unmarked]
  exact decide_eq_false few.not_gt

/-- A mark of an id causes an overflow if with it too many ids have marks. -/
theorem overflows_iff (marked : before.note books.tracked turn = insert id books.tracked) :
    books.overflows before turn = true ↔ Marks.maxTracked < (insert id books.tracked).card := by
  rw [overflows, marked, decide_eq_true_iff]

theorem tracked_next : (books.next before turn answer after).tracked =
    if books.overflows before turn then ∅ else before.note books.tracked turn := rfl

/-- An id is outdated from an overflow on until it is renewed. -/
theorem outdated_next_iff : (books.next before turn answer after).outdated key = true ↔
    books.overflows before turn = true ∨
      (books.outdated key = true ∧ turn.renews answer key = false) := by
  simp [next]

/-- A trace is left by what goes without being removed, and stays until there is an instance again.
-/
theorem traced_next_iff : (books.next before turn answer after).traced key = true ↔
    books.goes before turn key = true ∧ after.holds key = false := by
  simp [next]

/-- An invalidation removes the trace of its id, and leaves all others. -/
theorem goes_invalidate_iff : books.goes before (.ask (.invalidate id)) key = true ↔
    key ≠ id ∧ books.traced key = true := by
  simp [goes]

end Books

/-! ## One turn -/

namespace PartitionCache

variable {kinds : Kinds} {store : Store} {cache : PartitionCache} {books : Books}
  {outdated : String → Prop} {id key : String} {P : String → Definition → Prop}

/-- The books are kept in accordance with the partition. -/
def Matches (cache : PartitionCache) (books : Books) : Prop :=
  cache.Accords books.tracked (books.outdated · = true) (books.traced · = true)

/-- The books after a turn that marks nothing. -/
theorem matches_of_unmarked {after : PartitionCache} {before : PlainMap} {turn : Turn}
    {answer : Answer} (unmarked : before.note books.tracked turn = books.tracked)
    (accords : after.Accords books.tracked outdated
      fun key => books.goes before turn key = true ∧ after.contains key = false)
    (ages : ∀ key, after.contains key = true →
      (books.outdated key = true ∧ turn.renews answer key = false ↔ outdated key)) :
    after.Matches (books.next before turn answer (after.view store)) := by
  have room := Books.overflows_eq_false unmarked accords.tracks.few
  refine accords.congr ?_ ?_ ?_
  · rw [Books.tracked_next, room, unmarked]
    exact if_neg Bool.false_ne_true
  · intro key held
    rw [Books.outdated_next_iff, room, or_iff_right Bool.false_ne_true]
    exact ages key held
  · intro key
    rw [Books.traced_next_iff, holds_view]

/-- The books after a turn that marks an id. -/
theorem matches_of_marked {before : PlainMap} {turn : Turn} {answer : Answer}
    (marked : before.note books.tracked turn = Insert.insert id books.tracked)
    (missing : cache.get? id = none)
    (accords : cache.Accords books.tracked outdated
      fun key => books.goes before turn key = true ∧ cache.contains key = false)
    (ages : ∀ key, cache.contains key = true →
      (books.outdated key = true ∧ turn.renews answer key = false ↔ outdated key)) :
    (cache.mark id).Matches (books.next before turn answer ((cache.mark id).view store)) := by
  refine (accords.mark missing).congr ?_ ?_ ?_
  · rw [Books.tracked_next, marked]
    exact if_congr (Books.overflows_iff marked) rfl rfl
  · intro key held
    rw [Books.outdated_next_iff, Books.overflows_iff marked]
    exact or_congr_right (ages key held)
  · intro key
    rw [Books.traced_next_iff, holds_view]
    rfl

namespace Matches

/-- A lookup keeps the cache in step with the books. -/
theorem serve_lookup (agrees : cache.Matches books) (quiet : cache.Quiet kinds P)
    (room : cache.maxBytes ≠ some 0) (id : String) (store : Store) (answer : Answer) :
    let after := cache.lookup kinds id store
    after.2.2.Matches
      (books.next (cache.view store) (.ask (.lookup id)) answer (after.2.2.view after.2.1)) := by
  intro after
  refine matches_of_unmarked rfl (Accords.lookup agrees quiet room id store) fun key _ => ?_
  rw [Turn.renews, decide_eq_false_iff_not, and_comm, eq_comm]

/-- A reload of an id that is held marks it exactly if the definition is gone. -/
theorem note_reload {old : Instance} (held : cache.get? id = some old) (kinds : Kinds)
    (serial stamp : Nat) (store : Store) (ids : Finset String) :
    (cache.view store).note ids (.ask (.reload id)) =
      match Instance.compile kinds serial id stamp (store.get id).1 with
      | .error (.notFound _) => Insert.insert id ids
      | _ => ids := by
  have present : (cache.view store).held id = some old.loaded := by
    rw [held_view, held]
    rfl
  have same : (cache.view store).store = store := rfl
  simp only [PlainMap.note, PlainMap.marks?, present, same]
  cases (store.get id).1 with
  | error e => cases e <;> rfl
  | ok found =>
      cases found with
      | none => rfl
      | some definition =>
          simp only [Instance.compile]
          cases kinds.load id definition <;> rfl

/-- The reload of an id renews no other one. -/
theorem renews_reload_of_missing {answer : Answer} (missing : cache.get? id = none)
    (present : cache.contains key = true) :
    (Turn.ask (.reload id)).renews answer key = false := by
  have other : id ≠ key := by
    rintro rfl
    rw [contains, missing] at present
    cases present
  cases answer with
  | renewed outcome => cases outcome <;> simp [Turn.renews, other]
  | _ => rfl

/-- A reload keeps the cache in step with the books. -/
theorem serve_reload (agrees : cache.Matches books) (quiet : cache.Quiet kinds P)
    (room : cache.maxBytes ≠ some 0) (id : String) (store : Store) :
    let after := cache.reload kinds id store
    after.2.2.Matches
      (books.next (cache.view store) (.ask (.reload id)) (.renewed after.1)
        (after.2.2.view after.2.1)) := by
  intro after
  have comes : after = _ := quiet.reload_eq
  cases held : cache.get? id with
  | none =>
      have marked : (cache.view store).note books.tracked (.ask (.reload id)) =
          Insert.insert id books.tracked := by
        simp only [PlainMap.note, PlainMap.marks?, held_view, held]
        rfl
      rw [contains, held] at comes
      have comes : after = (.ok false, store, cache.mark id) := comes
      rw [comes]
      exact matches_of_marked marked held (Accords.still agrees) fun key present =>
        and_iff_left_of_imp fun _ => renews_reload_of_missing held present
  | some old =>
      have noted := note_reload held kinds cache.nextSerial cache.marks.clock store books.tracked
      rw [contains, held, Option.isSome_some, if_pos rfl] at comes
      cases compiled :
          Instance.compile kinds cache.nextSerial id cache.marks.clock (store.get id).1 with
      | ok made =>
          obtain ⟨_, rfl, stamp, _⟩ := Instance.of_compile compiled
          have left : cache.takeSerial.2.maxBytes ≠ some 0 := room
          rw [compiled] at comes noted
          have comes : after = (.ok true, (store.get made.id).2, cache.takeSerial.2.insert made) :=
            comes
          rw [comes]
          have installed := (Accords.takeSerial agrees).install quiet.marks left stamp
          refine matches_of_unmarked noted installed fun key _ => ?_
          rw [Turn.renews, decide_eq_false_iff_not, and_comm, eq_comm]
      | error e =>
          rw [compiled] at comes noted
          cases e with
          | notFound key =>
              have comes : after =
                  (.ok true, (store.get id).2, (cache.takeSerial.2.remove id).mark id) := comes
              rw [comes]
              have missing := get?_remove_self cache.takeSerial.2 id
              -- Only what is not held leaves a trace, so a trace is never of the id itself.
              have others (key : String) (traced : books.traced key = true) : key ≠ id := by
                rintro rfl
                exact agrees.apart key old held traced
              have removed := ((Accords.takeSerial agrees).remove id).sweep (fun _ kept => kept.2)
                fun key traced gone => (gone ⟨others key traced, traced⟩).elim
              exact matches_of_marked noted missing removed fun key present =>
                and_iff_left_of_imp fun _ => renews_reload_of_missing missing present
          | _ =>
              have comes : after = (.error _, (store.get id).2, cache.takeSerial.2) := comes
              rw [comes]
              exact matches_of_unmarked noted (Accords.takeSerial agrees).still
                fun _ _ => and_iff_left rfl

/-- **A turn keeps the books in accordance with the partition.** -/
theorem serve (agrees : cache.Matches books) (quiet : cache.Quiet kinds P)
    (room : cache.maxBytes ≠ some 0) (light : cache.Light) (store : Store) (turn : Turn) :
    let after := cache.serve kinds store turn
    after.2.2.Matches
      (books.next (cache.view store) turn after.1 (after.2.2.view after.2.1)) := by
  cases turn with
  | ask request =>
      cases request with
      | lookup id => exact agrees.serve_lookup quiet room id store _
      | reload id => exact agrees.serve_reload quiet room id store
      | invalidate id =>
          refine matches_of_marked rfl (get?_remove_self cache id) ?_ fun _ _ => and_iff_left rfl
          exact (Accords.remove agrees id).still.congr rfl (fun _ _ => Iff.rfl)
            fun _ => and_congr_left' Books.goes_invalidate_iff
      | invalidateAll =>
          refine (Accords.invalidateAll agrees).still.congr ?_ (fun _ held => nomatch held) ?_
          · rw [Books.tracked_next]
            exact ite_self _
          · intro key
            rw [Books.traced_next_iff, Books.goes, Bool.or_eq_true, holds_view]
            rfl
  | settle =>
      refine matches_of_unmarked rfl ?_ fun _ _ => and_iff_left rfl
      exact (Accords.settle agrees light).congr rfl (fun _ _ => Iff.rfl)
        fun _ => iff_of_false (fun gone => Bool.false_ne_true gone.1) id
  | _ => exact matches_of_unmarked rfl (Accords.still agrees) fun _ _ => and_iff_left rfl

/-- What the cache shows to a call is what the books say it does. -/
theorem shown_eq (agrees : cache.Matches books) (quiet : cache.Quiet kinds P) (store : Store)
    (turn : Turn) : cache.shown store turn = books.shown (cache.view store) turn := by
  cases turn with
  | ask request =>
      cases request with
      | lookup id =>
          rw [PartitionCache.shown, Books.shown]
          cases held : cache.get? id with
          | none =>
              have absent : (cache.view store).held id = none := by
                rw [held_view, held]
                rfl
              have same : (cache.view store).set id none = cache.view store := by
                rw [PlainMap.set, ← absent, Function.update_eq_self]
              simp only [same, ite_self]
          | some made =>
              exact if_congr (Accords.isStale_iff agrees quiet held) rfl rfl
      | _ => rfl
  | _ => rfl

/-- The cache answers for a trace exactly when the books say so. -/
theorem meetsTrace_eq (agrees : cache.Matches books) (turn : Turn) :
    cache.meetsTrace turn = books.meetsTrace turn := by
  cases turn with
  | ask request =>
      cases request with
      | invalidate id =>
          rw [Bool.eq_iff_iff, PartitionCache.meetsTrace, Books.meetsTrace, Bool.and_eq_true,
            List.contains_iff_mem, agrees.traced_iff]
          refine and_iff_right_of_imp fun traced => ?_
          rw [Bool.not_eq_true']
          exact Accords.not_contains agrees traced
      | _ => rfl
  | _ => rfl

end Matches

end PartitionCache

end QueryRewriting
