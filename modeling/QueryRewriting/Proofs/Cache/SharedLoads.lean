import QueryRewriting.Proofs.Cache.LoadStages

/-! # One load for all lookups of an id

While only lookups touch an id that is not held and not being loaded, all lookups of it that return
an instance return the same one. It was read and made once, and nobody looked a second time. A load
that fails reaches those who waited for it and leaves nothing behind, so whoever is still unanswered
then is answered by a later load. The stage that the id has reached says all of this; calls on other
ids never change it.
-/

namespace QueryRewriting

namespace History

/-- A lookup of an id that was not answered at one time is answered at another. -/
def AnsweredWithin (history : History) (since time n : Nat) (id : String)
    (outcome : Except LoadError Instance) : Prop :=
  (history.state time).calls[n]? = some (.lookup id (.answered outcome)) ∧
    (history.state since).calls[n]? ≠ some (.lookup id (.answered outcome))

/-- An answer comes from a load that read the store, or asked it in vain, since a time. -/
def ComesFrom (history : History) (since time n : Nat) (id : String) :
    Except LoadError Instance → Prop
  | .ok made => ∃ read, since ≤ read ∧ read < time ∧ history.Obtains id read made
  | .error fault => history.FailedWithin since time n id fault

/-- From one time to another the store holds the same under an id. -/
def Steady (history : History) (id : String) (since bound : Nat) : Prop :=
  ∀ time, since ≤ time → time < bound →
    (history.state time).store.find? id = (history.state since).store.find? id

/-- At a time the store is read for a load of an id. -/
def Reads (history : History) (id : String) (time : Nat) : Prop :=
  ∃ n call serial stamp, history.Steps time n call ∧
    call.load? = some (id, serial, .reading stamp)

/-- What is made at a time is the one instance of an id: it was read and made once, and whoever
returns an instance returns this one. A store that holds the same throughout was read for no other
load of the id; one that is written meanwhile had nothing for the others that could be loaded. -/
structure SoleLoad (history : History) (id : String) (since bound time : Nat) (made : Instance) :
    Prop where
  unique : ∀ {again other}, since ≤ again → again < bound → history.Makes id again other →
    again = time ∧ other = made
  read : ∃ read, since ≤ read ∧ read < time ∧ history.Obtains id read made ∧
    (∀ {again other}, since ≤ again → again < bound → history.Obtains id again other →
      again = read) ∧
    (history.Steady id since bound → ∀ {again}, since ≤ again → again < bound →
      history.Reads id again → again = read)
  answers : ∀ {n found}, history.AnsweredWithin since bound n id (.ok found) → found = made

/-- A load of an id fails at a time for exactly those who take part in it. Nothing is put into the
cache, so the next lookup asks the store again as soon as it can, and whoever is answered later is
answered by a load that asks the store later. -/
structure SharedFailure (history : History) (id : String) (since bound time serial : Nat)
    (fault : LoadError) : Prop where
  told : ∀ {n : Nat}, history.Fails time n id serial fault →
    (history.state (time + 1)).calls[n]? = some (.lookup id (.answered (.error fault)))
  untold : ∀ {n : Nat} {call}, (history.state time).calls[n]? = some call →
    ¬ history.Fails time n id serial fault → (history.state (time + 1)).calls[n]? = some call
  uninserted : ∀ key,
    (history.state (time + 1)).cache.get? key = (history.state time).cache.get? key
  vacant : ∀ {past}, since ≤ past → past ≤ time + 1 →
    (history.state past).cache.get? id = none
  ended : (history.state (time + 1)).cache.loading? id = none
  retried : ∀ {n tries}, history.Steps (time + 1) n (.lookup id (.seeking tries)) →
    history.events[time + 2]? = some (.step n) → history.events[time + 3]? = some (.step n) →
    ∃ number, history.AsksFor (time + 3) number
  renewed : ∀ {later n outcome}, time < later → later ≤ bound →
    history.AnsweredWithin (time + 1) later n id outcome →
    history.ComesFrom (time + 1) later n id outcome

/-- Lookups of an id share its loads, which have nothing to do with those of other ids. -/
structure SharesLoads (history : History) (id : String) (since bound : Nat) : Prop where
  succeeds : ∀ {time made}, since ≤ time → time < bound → history.Makes id time made →
    history.SoleLoad id since bound time made
  fails : ∀ {time n tries serial fault}, since ≤ time → time < bound →
    history.Steps time n (.lookup id (.publishing tries serial (.error fault))) →
    history.SharedFailure id since bound time serial fault
  /-- No answer comes from anywhere else. -/
  answers : ∀ {n outcome}, history.AnsweredWithin since bound n id outcome →
    history.ComesFrom since bound n id outcome
  returns : ∀ {n made}, history.AnsweredWithin since bound n id (.ok made) →
    ∃ time, since ≤ time ∧ time < bound ∧ history.Makes id time made
  /-- No instance is taken for a stale one, so nobody has to look again. -/
  settled : ∀ {time n : Nat} {tries found}, since ≤ time → time ≤ bound →
    (history.state time).calls[n]? ≠ some (.lookup id (.discarding tries found))
  single : ∀ {time m n : Nat} {first second : Call} {serial number},
    (history.state time).calls[m]? = some first → (history.state time).calls[n]? = some second →
    first.abandoned? = some (id, serial) → second.abandoned? = some (id, number) → m = n
  foreign : ∀ {time n call key}, history.Steps time n call → call.subject? = some key → id ≠ key →
    history.KeepsOut time id
  awaited : ∀ {time m n : Nat} {owner : Call} {key other tries serial},
    (history.state time).calls[m]? = some owner → owner.abandoned? = some (other, serial) →
    (history.state time).calls[n]? = some (.lookup key (.waiting tries serial)) → key = other

variable {history : History} {time since bound n : Nat} {id : String} {serial : Nat}
  {made : Instance}

namespace Untouched

variable (untouched : history.Untouched id since bound)

include untouched

/-- Whatever a lookup is answered with comes from the one load, or is its error. -/
theorem comesFrom {outcome : Except LoadError Instance} (after : since ≤ time) (upTo : time ≤ bound)
    (answered : history.AnsweredWithin since time n id outcome) :
    history.ComesFrom since time n id outcome := by
  obtain ⟨stage, current, logged⟩ := untouched.reaches after upTo
  cases current.fits answered.1 with
  | answered =>
      obtain ⟨read, late, before, obtains, _⟩ := logged.1
      exact ⟨read, late, before, obtains⟩
  | failed failed => exact failed
  | past was => exact (answered.2 was).elim

/-! ## Loads that succeed -/

/-- By the time an instance has been made, its definition was read and it was made once. -/
theorem once_of_makes (after : since ≤ time) (before : time < bound)
    (makes : history.Makes id time made) :
    Once (history.Obtains id) since bound made ∧ Once (history.Makes id) since bound made := by
  obtain ⟨stage, _, logged⟩ := untouched.reaches (after.trans before.le) le_rfl
  cases stage with
  | cold => exact (logged.2 time made after before makes).elim
  | read other => exact (logged.2 time made after before makes).elim
  | compiled other =>
      obtain ⟨_, _, _, _, sole⟩ := logged.2
      obtain ⟨_, rfl⟩ := sole time made after before makes
      exact logged
  | held other =>
      obtain ⟨_, _, _, _, sole⟩ := logged.2
      obtain ⟨_, rfl⟩ := sole time made after before makes
      exact logged

/-- An instance is made after its definition was read. -/
theorem exists_read_of_makes (after : since ≤ time) (before : time < bound)
    (makes : history.Makes id time made) :
    ∃ read other, since ≤ read ∧ read < time ∧ history.Obtains id read other := by
  obtain ⟨stage, current, logged⟩ := untouched.reaches after before.le
  obtain ⟨_, follows, _⟩ := untouched.follows after before current
  cases follows with
  | rests _ unmade => exact (unmade made makes).elim
  | reads _ unmade => exact (unmade made makes).elim
  | @makes other =>
      obtain ⟨read, late, early, obtains, _⟩ := logged.1
      exact ⟨read, other, late, early, obtains⟩
  | installs _ unmade => exact (unmade made makes).elim

/-- What is made of a load is all that lookups are answered with. -/
theorem soleLoad (after : since ≤ time) (before : time < bound)
    (makes : history.Makes id time made) : history.SoleLoad id since bound time made := by
  obtain ⟨⟨read, late, _, obtains, soleRead⟩, ⟨first, _, _, _, sole⟩⟩ :=
    untouched.once_of_makes after before makes
  obtain ⟨rfl, _⟩ := sole time made after before makes
  obtain ⟨begun, other, lateToo, early, obtainsToo⟩ :=
    untouched.exists_read_of_makes after before makes
  obtain ⟨rfl, rfl⟩ := soleRead begun other lateToo (early.trans before) obtainsToo
  refine ⟨fun {_ _} => sole _ _, ⟨begun, late, early, obtains, ?_, ?_⟩, ?_⟩
  · intro again found lateAgain beforeAgain obtainsAgain
    exact (soleRead again found lateAgain beforeAgain obtainsAgain).1
  · intro steady again lateAgain beforeAgain reads
    obtain ⟨n, call, serial, stamp, steps, carries⟩ := reads
    obtain ⟨rfl, _, found, compiled⟩ := obtains
    -- What is found then is what was found when the instance was read, so that it can be loaded.
    have same := (steady again lateAgain beforeAgain).trans
      (steady begun late (early.trans before)).symm
    rw [found] at same
    let twin : Instance := { other with serial, stamp }
    exact (soleRead again twin lateAgain beforeAgain
      ⟨rfl, ⟨n, call, steps, carries⟩, same, compiled⟩).1
  · intro n found answered
    obtain ⟨read, lateAgain, beforeAgain, obtainsAgain⟩ :=
      untouched.comesFrom (after.trans before.le) le_rfl answered
    exact (soleRead read found lateAgain beforeAgain obtainsAgain).2

/-- An instance that a lookup is answered with was made within the time. -/
theorem exists_makes (order : since ≤ bound)
    (answered : history.AnsweredWithin since bound n id (.ok made)) :
    ∃ time, since ≤ time ∧ time < bound ∧ history.Makes id time made := by
  obtain ⟨stage, current, logged⟩ := untouched.reaches order le_rfl
  cases current.fits answered.1 with
  | answered =>
      obtain ⟨first, after, before, makes, _⟩ := logged.2
      exact ⟨first, after, before, makes⟩
  | past was => exact (answered.2 was).elim

/-! ## Loads that fail -/

omit untouched in
/-- A lookup that finds neither an instance nor a load asks the store with its third step. -/
theorem asks_of_seeking {tries : Nat} (steps : history.Steps time n (.lookup id (.seeking tries)))
    (missing : (history.state time).cache.get? id = none)
    (idle : (history.state time).cache.loading? id = none)
    (second : history.events[time + 1]? = some (.step n))
    (third : history.events[time + 2]? = some (.step n)) :
    ∃ number, history.AsksFor (time + 2) number := by
  have begins := steps.call_succ
  simp only [Call.step, Lookup.step, missing, idle] at begins
  have notes := Steps.call_succ ⟨second, begins⟩
  exact ⟨_, _, rfl, n, _, id, ⟨third, notes⟩, rfl⟩

section Failing

variable {tries : Nat} {fault : LoadError} (after : since ≤ time) (before : time < bound)
  (steps : history.Steps time n (.lookup id (.publishing tries serial (.error fault))))

include after before steps

/-- When a load fails, nothing has been read for the id, and nothing is thereafter. -/
theorem cold_of_fails :
    history.At id since (time + 1) .cold ∧ history.Logged id since (time + 1) .cold := by
  obtain ⟨stage, current, logged⟩ := untouched.reaches after before.le
  obtain ⟨next, follows, reached⟩ := untouched.follows after before current
  have fits := current.fits steps.2
  cases fits with
  | failing =>
      have logged := logged.succ after follows
      cases follows with
      | rests => exact ⟨reached, logged⟩
      | reads obtains => cases obtains.load steps

omit untouched after before in
/-- A load that has failed is not registered any more. -/
theorem loading?_of_fails : (history.state (time + 1)).cache.loading? id = none := by
  rw [steps.cache_succ]
  exact PartitionCache.loading?_endLoad_self ..

/-- Once a load has failed, the id is as it was before anybody looked it up. -/
theorem untouched_of_fails : history.Untouched id (time + 1) bound where
  vacant := (untouched.cold_of_fails after before steps).1.held
  idle := loading?_of_fails steps
  emptyHanded := by
    intro m phase found was holds
    cases (untouched.cold_of_fails after before steps).1.fits was with
    | @past _ outcome =>
        cases outcome with
        | ok made =>
            cases holds
            rfl
        | error fault => cases holds
    | _ => cases holds
  roomy := untouched.roomy
  lookupsOnly late := untouched.lookupsOnly ((after.trans (Nat.le_succ time)).trans late)
  apart late := untouched.apart ((after.trans (Nat.le_succ time)).trans late)
  lasting late := untouched.lasting ((after.trans (Nat.le_succ time)).trans late)
  attended late := untouched.attended ((after.trans (Nat.le_succ time)).trans late)

/-- A load that fails reaches those who wait for it, and nobody else. -/
theorem sharedFailure : history.SharedFailure id since bound time serial fault where
  told := Fails.answered
  untold := by
    intro m call was apart
    have other : n ≠ m := by
      rintro rfl
      exact apart ⟨n, tries, steps, .inl rfl⟩
    rw [steps.next, Workload.calls_step_deliver steps.2 rfl other, was, Option.map_some]
    rcases Call.deliver_eq serial (.error fault) call with kept | ⟨key, left, rfl, _⟩
    · rw [kept]
    · obtain rfl := (history.coherent time).eq_of_awaited steps.2 rfl was
      exact (apart ⟨n, tries, steps, .inr ⟨left, was⟩⟩).elim
  uninserted key := by
    rw [steps.cache_succ]
    rfl
  vacant := by
    intro past late early
    obtain ⟨stage, current, logged⟩ := untouched.reaches late (early.trans before)
    have never := (untouched.cold_of_fails after before steps).2.1
    rw [current.held]
    cases stage with
    | held made =>
        obtain ⟨read, lateToo, earlier, obtains, _⟩ := logged.1
        exact (never read made lateToo (earlier.trans_le early) obtains).elim
    | _ => rfl
  ended := loading?_of_fails steps
  retried seeks := asks_of_seeking seeks (untouched.untouched_of_fails after before steps).vacant
    (loading?_of_fails steps)
  renewed late upTo answered :=
    (untouched.untouched_of_fails after before steps).comesFrom late upTo answered

end Failing

end Untouched

/-- **At most one load.** While only lookups touch an id that is neither held nor being loaded at
first, any number of lookups, in any order, share its loads. One that succeeds is the only one to
obtain a definition and to make an instance, which all return who return one. One that fails is
shared by those who waited for it and leaves nothing behind. Loads of other ids take no part. -/
theorem lookups_share_loads (order : since ≤ bound) (untouched : history.Untouched id since bound) :
    history.SharesLoads id since bound where
  succeeds := untouched.soleLoad
  fails := untouched.sharedFailure
  answers := untouched.comesFrom order le_rfl
  returns := untouched.exists_makes order
  settled := by
    intro time n tries found after upTo was
    obtain ⟨stage, current, _⟩ := untouched.reaches after upTo
    cases current.fits was
  single was wasToo owns ownsToo := (history.coherent _).eq_of_owned was wasToo owns ownsToo
  foreign := Steps.keepsOut
  awaited was owns waits := (history.coherent _).eq_of_awaited was owns waits

/-! ### Lookups that fail together, and lookups that succeed together -/

/-- Two lookups share a load that finds no definition. When there is one, two more share the next
load. -/
def sharedLookups : History :=
  { racedLookup with
    events := [.begin (.lookup "r"), .begin (.lookup "r"), .step 0, .step 1]
      ++ List.replicate 5 (.step 0)
      ++ [.put loggedDefinition, .begin (.lookup "r"), .begin (.lookup "r"), .step 2, .step 3]
      ++ List.replicate 7 (.step 2) ++ [.step 3] }

/-- Two lookups share a failure, and the two that come later share an instance. -/
theorem sharedLookups_share_loads :
    sharedLookups.SharedFailure "r" 0 22 8 0 (.notFound "r") ∧
      sharedLookups.SoleLoad "r" 0 22 17 (loggedInstance 1 0) ∧
      sharedLookups.AnsweredWithin 0 22 2 "r" (.ok (loggedInstance 1 0)) ∧
      sharedLookups.AnsweredWithin 0 22 3 "r" (.ok (loggedInstance 1 0)) := by
  have untouched : sharedLookups.Untouched "r" 0 22 := by
    refine ⟨rfl, rfl, nofun, nofun, ?_, ?_, ?_, ?_⟩
    · rintro time n call - before ⟨happens, was⟩
      interval_cases time <;> cases happens <;> cases was <;> exact id
    · intro time _ before
      interval_cases time <;> rfl
    · intro time _ before happens
      interval_cases time <;> cases happens
    · intro time n call serial _ before happens
      interval_cases time <;> cases happens
  have shares := lookups_share_loads (by decide) untouched
  have fails : sharedLookups.Steps 8 0 (.lookup "r" (.publishing 4 0 (.error (.notFound "r")))) :=
    ⟨rfl, rfl⟩
  have makes : sharedLookups.Makes "r" 17 (loggedInstance 1 0) :=
    ⟨2, _, 1, 0, .ok (some loggedDefinition), ⟨rfl, rfl⟩, rfl, rfl⟩
  exact ⟨shares.fails (by decide) (by decide) fails, shares.succeeds (by decide) (by decide) makes,
    ⟨rfl, nofun⟩, ⟨rfl, nofun⟩⟩

end History

end QueryRewriting
