import QueryRewriting.Proofs.Cache.Continuation
import QueryRewriting.Proofs.Cache.Freshness
import QueryRewriting.Proofs.Cache.Undisturbed

/-! # What is invalidated stays out

A call that read an old definition may put its instance into the cache after an invalidation has
removed everything. It then looks at the marks once more, finds the instance stale and takes it out
again before it returns. A load is installed once, and only by the call that began it; so when all
calls that were at work during an invalidation have returned, nothing that was read before its mark
is left.
-/

namespace QueryRewriting

/-- A load does not write to the store. -/
theorem Load.Transition.documents {id : String} {clock : Nat} {load after : Load}
    {store counted : Store} (moves : load.Transition id clock store (after, counted)) :
    counted.documents = store.documents := by
  cases moves <;> rfl

namespace Call

variable {kinds : Kinds} {store : Store} {cache : PartitionCache} {call : Call} {made : Instance}

/-! ## Before and after an instance is installed -/

/-- Whether a call has its answer. -/
def hasReturned : Call → Bool
  | .lookup _ (.answered _) => true
  | .reload _ (.answered _) => true
  | .invalidation _ (.answered _) => true
  | _ => false

/-- The load whose instance a call may yet put into the cache. -/
def pending? : Call → Option Nat
  | .lookup _ (.loading _ serial _) => some serial
  | .lookup _ (.landing _ made) => some made.serial
  | .reload _ (.loading serial _) => some serial
  | .reload _ (.comparing made) => some made.serial
  | .reload _ (.installing made) => some made.serial
  | _ => none

/-- The instance that a call holds against the marks before it returns, or drops because of them. -/
def checks? : Call → Option Instance
  | .lookup _ (.publishing _ _ (.ok made)) => some made
  | .lookup _ (.verifying _ found) => some found
  | .lookup _ (.discarding _ found) => some found
  | .reload _ (.rechecking made) => some made
  | .reload _ (.retracting made) => some made
  | _ => none

/-- Whoever is about to install an instance has yet to do so. -/
theorem pending?_of_installs (installing : call.installs? = some made) :
    call.pending? = some made.serial := by
  unfold installs? at installing
  split at installing
  · cases installing
    rfl
  · cases installing
    rfl
  · cases installing

/-- Whoever has something to install has not returned. -/
theorem not_hasReturned_of_pending {serial : Nat} (pending : call.pending? = some serial) :
    call.hasReturned = false := by
  unfold hasReturned
  split <;> first | cases pending | rfl

/-- Whoever has something to check has not returned. -/
theorem not_hasReturned_of_checks (checks : call.checks? = some made) :
    call.hasReturned = false := by
  unfold hasReturned
  split <;> first | cases checks | rfl

/-- A load that is pending after a step was so before, or has just been given its number. -/
theorem pending?_of_step {serial : Nat}
    (pending : (call.step kinds store cache).1.pending? = some serial) :
    call.pending? = some serial ∨
      (serial = cache.nextSerial ∧
        (call.step kinds store cache).2.2.nextSerial = cache.nextSerial + 1) := by
  have moves := transition_step kinds call store cache
  generalize call.step kinds store cache = result at moves pending ⊢
  cases moves with
  | lookup moves =>
      cases moves with
      | begun =>
          cases pending
          exact Or.inr ⟨rfl, rfl⟩
      | moved => exact Or.inl pending
      | compiled success =>
          obtain ⟨rfl, _⟩ := Instance.of_compile success
          exact Or.inl pending
      | _ => cases pending
  | reload moves =>
      cases moves with
      | begun =>
          cases pending
          exact Or.inr ⟨rfl, rfl⟩
      | moved => exact Or.inl pending
      | compiled success =>
          obtain ⟨rfl, _⟩ := Instance.of_compile success
          exact Or.inl pending
      | passed => exact Or.inl pending
      | _ => cases pending
  | _ => cases pending

/-- Whoever puts an instance into the cache looks at it once more. -/
theorem step_of_installs (installing : call.installs? = some made) (kinds : Kinds) (store : Store)
    (cache : PartitionCache) :
    (call.step kinds store cache).1.checks? = some made ∧
      (call.step kinds store cache).1.pending? = none := by
  unfold installs? at installing
  split at installing
  · cases installing
    exact ⟨rfl, rfl⟩
  · cases installing
    exact ⟨rfl, rfl⟩
  · cases installing

/-- A stale instance stays in hand until it is dropped. -/
theorem step_of_checks (checks : call.checks? = some made) (stale : cache.isStale made = true)
    (kinds : Kinds) (store : Store) :
    (call.step kinds store cache).1.checks? = some made ∨
      (call.step kinds store cache).2.2.get? made.id ≠ some made := by
  have dropped : (cache.discard made).get? made.id ≠ some made := by
    intro held
    have before : cache.get? made.id = some made := PartitionCache.get?_of_discard held
    have own : cache.holds made = true := by simp [PartitionCache.holds, before]
    rw [PartitionCache.discard, if_pos own, PartitionCache.get?_remove_self] at held
    cases held
  unfold checks? at checks
  split at checks
  · cases checks
    exact Or.inl rfl
  · cases checks
    refine Or.inl ?_
    simp only [step, Lookup.step, stale, if_true]
    rfl
  · cases checks
    exact Or.inr dropped
  · cases checks
    refine Or.inl ?_
    simp only [step, Reload.step, stale, if_true]
    rfl
  · cases checks
    exact Or.inr dropped
  · cases checks

/-- A call that has its answer does not change any more. -/
theorem step_of_hasReturned (returned : call.hasReturned = true) (kinds : Kinds) (store : Store)
    (cache : PartitionCache) : (call.step kinds store cache).1 = call := by
  unfold hasReturned at returned
  split at returned
  · rfl
  · rfl
  · rename_i id? held
    cases id? <;> rfl
  · cases returned

/-- No call writes to the store. -/
theorem documents_step (kinds : Kinds) (call : Call) (store : Store) (cache : PartitionCache) :
    (call.step kinds store cache).2.1.documents = store.documents := by
  have moves := transition_step kinds call store cache
  generalize call.step kinds store cache = result at moves ⊢
  cases moves with
  | lookup moves =>
      cases moves with
      | moved _ moves => exact moves.documents
      | _ => rfl
  | reload moves =>
      cases moves with
      | moved _ moves => exact moves.documents
      | _ => rfl
  | _ => rfl

end Call

/-- A document that is missing stays so until one is put under its id. -/
theorem Workload.missing_next {kinds : Kinds} {work : Workload} {event : Event} {id : String}
    (missing : work.store.documents.get? id = none)
    (unput : ∀ definition, event = .put definition → definition.id ≠ id) :
    (work.next kinds event).store.documents.get? id = none := by
  cases event with
  | step k =>
      simp only [next, stepCall]
      cases acting : work.calls[k]? with
      | none => exact missing
      | some call =>
          simp only
          split <;> rwa [Call.documents_step]
  | cancel k =>
      simp only [next, cancelCall]
      split
      · exact missing
      · split <;> exact missing
  | put definition =>
      rw [store_put]
      split
      · exact (Store.get?_write_of_ne (unput definition rfl).symm ..).trans missing
      · exact missing
  | delete key =>
      rw [store_delete]
      split
      · by_cases same : id = key
        · subst same
          exact Store.get?_write_self ..
        · exact (Store.get?_write_of_ne same ..).trans missing
      · exact missing
  | _ => exact missing

namespace History

variable {history : History} {time start n : Nat} {id : String} {made : Instance}

/-! ## From one event to the next -/

/-- A call that does not wait stays what it is, takes a step, or is dropped. -/
theorem succ_of_found {call : Call} (found : (history.state time).calls[n]? = some call)
    (unwaiting : ∀ id tries serial, call ≠ .lookup id (.waiting tries serial)) :
    (history.state (time + 1)).calls[n]? = some call ∨ history.Steps time n call ∨
      (history.state (time + 1)).calls[n]? = some .cancelled := by
  have inside : n < (history.state time).calls.length := (List.getElem?_eq_some_iff.mp found).1
  have there := inside.trans_le (history.length_calls_mono (Nat.le_succ time))
  cases happens : history.events[time]? with
  | none =>
      rw [state_succ_of_end happens]
      exact Or.inl found
  | some event =>
      have next := List.getElem?_eq_getElem there
      generalize (history.state (time + 1)).calls[n] = after at next
      rw [next]
      rw [state_succ_of_event happens] at next
      cases Workload.becomes_next next with
      | same was => exact Or.inl (was.symm.trans found)
      | begun begins last => omega
      | stepped steps was =>
          subst steps
          exact Or.inr (Or.inl ⟨happens, found⟩)
      | received steps owns ends was =>
          cases found.symm.trans was
          exact (unwaiting _ _ _ rfl).elim
      | dropped => exact Or.inr (Or.inr rfl)
      | released cancels owns abandons was =>
          cases found.symm.trans was
          exact (unwaiting _ _ _ rfl).elim

/-- A call that was dropped takes no more part. -/
theorem cancelled_of_le (order : start ≤ time)
    (found : (history.state start).calls[n]? = some .cancelled) :
    (history.state time).calls[n]? = some .cancelled := by
  induction time, order using Nat.le_induction with
  | base => exact found
  | succ time order ih =>
      rcases succ_of_found ih nofun with kept | steps | dropped
      · exact kept
      · exact steps.call_succ
      · exact dropped

/-- A call that has returned keeps its answer, or is dropped. -/
theorem returned_of_le {call : Call} (order : start ≤ time)
    (found : (history.state start).calls[n]? = some call) (returned : call.hasReturned = true) :
    (history.state time).calls[n]? = some call ∨
      (history.state time).calls[n]? = some .cancelled := by
  induction time, order using Nat.le_induction with
  | base => exact Or.inl found
  | succ time order ih =>
      rcases ih with same | dropped
      · have unwaiting (id : String) (tries serial : Nat) :
            call ≠ .lookup id (.waiting tries serial) := by
          rintro rfl
          cases returned
        rcases succ_of_found same unwaiting with kept | steps | dropped
        · exact Or.inl kept
        · rw [steps.call_succ, Call.step_of_hasReturned returned]
          exact Or.inl rfl
        · exact Or.inr dropped
      · exact Or.inr (cancelled_of_le (Nat.le_succ time) dropped)

/-! ## Loads that are pending -/

/-- Whoever has a load to install had it before, or has just been given its number. -/
theorem pending_of_next {after : Call} {serial : Nat}
    (found : (history.state (time + 1)).calls[n]? = some after)
    (pending : after.pending? = some serial) :
    (∃ before, (history.state time).calls[n]? = some before ∧ before.pending? = some serial) ∨
      (history.events[time]? = some (.step n) ∧ serial = (history.state time).cache.nextSerial ∧
        (history.state (time + 1)).cache.nextSerial =
          (history.state time).cache.nextSerial + 1) := by
  cases callMove_succ found with
  | kept was => exact Or.inl ⟨after, was, pending⟩
  | @begun request => cases request <;> cases pending
  | @stepped call steps =>
      rcases Call.pending?_of_step pending with before | ⟨numbered, counted⟩
      · exact Or.inl ⟨call, steps.2, before⟩
      · rw [steps.cache_succ]
        exact Or.inr ⟨steps.1, numbered, counted⟩
  | @received _ _ _ outcome => cases outcome <;> cases pending
  | dropped => cases pending
  | released => cases pending

/-- A load that is to be installed has a number that was given out. -/
theorem lt_nextSerial_of_pending {call : Call} {serial : Nat}
    (found : (history.state time).calls[n]? = some call) (pending : call.pending? = some serial) :
    serial < (history.state time).cache.nextSerial := by
  induction time generalizing call with
  | zero => cases found
  | succ time ih =>
      have grows := history.nextSerial_le (Nat.le_succ time)
      rcases pending_of_next found pending with ⟨before, was, carried⟩ | ⟨_, numbered, counted⟩
      · exact (ih was carried).trans_le grows
      · omega

/-- A load is pending with one call. -/
theorem pending_sole {m : Nat} {first second : Call} {serial : Nat}
    (firstFound : (history.state time).calls[m]? = some first)
    (secondFound : (history.state time).calls[n]? = some second)
    (firstPending : first.pending? = some serial) (secondPending : second.pending? = some serial) :
    m = n := by
  induction time generalizing first second with
  | zero => cases firstFound
  | succ time ih =>
      rcases pending_of_next firstFound firstPending with
        ⟨before, was, carried⟩ | ⟨steps, numbered, _⟩
      · rcases pending_of_next secondFound secondPending with
          ⟨earlier, wasToo, carriedToo⟩ | ⟨_, numbered, _⟩
        · exact ih was wasToo carried carriedToo
        · have known := lt_nextSerial_of_pending was carried
          omega
      · rcases pending_of_next secondFound secondPending with
          ⟨earlier, wasToo, carriedToo⟩ | ⟨stepsToo, _⟩
        · have known := lt_nextSerial_of_pending wasToo carriedToo
          omega
        · cases steps.symm.trans stepsToo
          rfl

/-- A load that has its number is pending with the same call ever since. -/
theorem pending_of_le {call : Call} {serial : Nat} (order : start ≤ time)
    (numbered : serial < (history.state start).cache.nextSerial)
    (found : (history.state time).calls[n]? = some call) (pending : call.pending? = some serial) :
    ∃ earlier, (history.state start).calls[n]? = some earlier ∧
      earlier.pending? = some serial := by
  induction time, order using Nat.le_induction generalizing call with
  | base => exact ⟨call, found, pending⟩
  | succ time order ih =>
      rcases pending_of_next found pending with ⟨before, was, carried⟩ | ⟨_, fresh, _⟩
      · exact ih was carried
      · have grows := history.nextSerial_le order
        omega

/-! ## Instances that were installed -/

/-- At a time a call puts an instance into the cache. -/
def Installs (history : History) (time n : Nat) (made : Instance) : Prop :=
  ∃ call, history.Steps time n call ∧ call.installs? = some made

/-- Whoever installs an instance had yet to do so. -/
theorem Installs.pending {place : Nat} (installs : history.Installs place n made) :
    ∃ call, (history.state place).calls[n]? = some call ∧
      call.pending? = some made.serial := by
  obtain ⟨call, steps, installing⟩ := installs
  exact ⟨call, steps.2, Call.pending?_of_installs installing⟩

/-- What the cache has come to hold was installed meanwhile. -/
theorem exists_installs (order : start ≤ time) {key : String}
    (absent : (history.state start).cache.get? key ≠ some made)
    (held : (history.state time).cache.get? key = some made) :
    ∃ place m, start ≤ place ∧ place < time ∧ history.Installs place m made := by
  induction time, order using Nat.le_induction with
  | base => exact (absent held).elim
  | succ time order ih =>
      rcases held_succ held with before | ⟨⟨m, call, steps, installing⟩, _⟩
      · obtain ⟨place, m, after, earlier, installs⟩ := ih before
        exact ⟨place, m, after, earlier.trans (Nat.lt_succ_self time), installs⟩
      · exact ⟨time, m, order, Nat.lt_succ_self time, call, steps, installing⟩

/-- An instance is installed once. -/
theorem Installs.not_again {place again m : Nat} (installs : history.Installs place n made)
    (order : place < again) : ¬ history.Installs again m made := by
  intro more
  obtain ⟨call, was, pending⟩ := installs.pending
  obtain ⟨_, steps, installing⟩ := installs
  obtain ⟨other, wasToo, pendingToo⟩ := more.pending
  have known := lt_nextSerial_of_pending was pending
  have grows := history.nextSerial_le (Nat.le_succ place)
  obtain ⟨after, found, still⟩ :=
    pending_of_le order (known.trans_le grows) wasToo pendingToo
  rcases pending_of_next found still with ⟨before, wasBefore, carried⟩ | ⟨_, fresh, _⟩
  · cases pending_sole was wasBefore pending carried
    cases steps.call_succ.symm.trans found
    rw [(Call.step_of_installs installing ..).2] at still
    cases still
  · omega

/-- A call that has installed an instance which is stale holds it in hand as long as the cache does,
unless it is dropped. -/
theorem Installs.checks_or_absent {place : Nat} (installs : history.Installs place n made)
    (stale : ∀ later, place < later → later ≤ time →
      (history.state later).cache.isStale made = true) (order : place < time) :
    (∃ call, (history.state time).calls[n]? = some call ∧ call.checks? = some made) ∨
      (history.state time).calls[n]? = some .cancelled ∨
      (history.state time).cache.get? made.id ≠ some made := by
  induction time, order using Nat.le_induction with
  | base =>
      obtain ⟨call, steps, installing⟩ := installs
      exact Or.inl ⟨_, steps.call_succ, (Call.step_of_installs installing ..).1⟩
  | succ time order ih =>
      rcases ih fun later after upTo => stale later after (Nat.le_succ_of_le upTo) with
        ⟨call, found, checks⟩ | dropped | absent
      · have unwaiting (id : String) (tries serial : Nat) :
            call ≠ .lookup id (.waiting tries serial) := by
          rintro rfl
          cases checks
        rcases succ_of_found found unwaiting with kept | steps | dropped
        · exact Or.inl ⟨call, kept, checks⟩
        · rcases Call.step_of_checks checks (stale time order (Nat.le_succ time)) history.kinds
            (history.state time).store with still | gone
          · exact Or.inl ⟨_, steps.call_succ, still⟩
          · rw [steps.cache_succ]
            exact Or.inr (Or.inr gone)
        · exact Or.inr (Or.inl dropped)
      · exact Or.inr (Or.inl (cancelled_of_le (Nat.le_succ time) dropped))
      · refine Or.inr (Or.inr fun held => ?_)
        obtain ⟨again, m, after, _, more⟩ := exists_installs (Nat.le_succ time) absent held
        exact installs.not_again (Nat.lt_of_lt_of_le order after) more

/-- Whoever has installed a stale instance and returned has taken it out for good. -/
theorem Installs.absent_of_returned {place back : Nat} (installs : history.Installs place n made)
    (stale : ∀ later, place < later → later ≤ time →
      (history.state later).cache.isStale made = true) (order : place < back) (upTo : back ≤ time)
    {call : Call} (found : (history.state back).calls[n]? = some call)
    (returned : call.hasReturned = true) :
    (history.state time).cache.get? made.id ≠ some made := by
  intro held
  have watched := installs.checks_or_absent
    (fun later after early => stale later after (early.trans upTo)) order
  rcases watched with ⟨other, was, checks⟩ | dropped | absent
  · cases found.symm.trans was
    cases returned.symm.trans (Call.not_hasReturned_of_checks checks)
  · cases found.symm.trans dropped
    cases returned
  · obtain ⟨again, m, after, _, more⟩ := exists_installs upTo absent held
    exact installs.not_again (Nat.lt_of_lt_of_le order after) more

/-! ## Invalidations -/

/-- An invalidation of an id, alone or with all others, marks at one time and has returned at
another. -/
def Invalidates (history : History) (mark back : Nat) (id : String) : Prop :=
  ∃ c id? held, (id? = some id ∨ id? = none) ∧
    history.Steps mark c (.invalidation id? .marking) ∧
    (history.state back).calls[c]? = some (.invalidation id? (.answered held))

/-- Every call that was running at one time has returned at another. -/
def Settles (history : History) (back time : Nat) : Prop :=
  ∀ (n : Nat) (call : Call), (history.state back).calls[n]? = some call →
    call.hasReturned = false →
    ∃ after, (history.state time).calls[n]? = some after ∧ after.hasReturned = true

/-- An invalidation marks its id. -/
theorem Invalidates.marks {mark back : Nat} (invalidates : history.Invalidates mark back id) :
    history.Marks mark id := by
  obtain ⟨c, id?, held, covers, steps, _⟩ := invalidates
  refine ⟨c, _, steps, ?_⟩
  simpa [Call.marking?] using covers

/-- Between its mark and its return an invalidation removes what is held. -/
theorem Invalidates.removes {mark back : Nat} (invalidates : history.Invalidates mark back id) :
    ∃ gone, mark < gone ∧ gone ≤ back ∧ (history.state gone).cache.get? id = none := by
  obtain ⟨c, id?, held, covers, steps, answered⟩ := invalidates
  have later : mark < back := by
    by_contra early
    rcases returned_of_le (Nat.le_of_not_lt early) answered rfl with same | dropped
    · cases steps.2.symm.trans same
    · cases steps.2.symm.trans dropped
  -- From the mark on the invalidation is about to remove, unless it has removed or is dropped.
  have removal (time : Nat) (order : mark < time) :
      (history.state time).calls[c]? = some (.invalidation id? .removing) ∨
        (history.state time).calls[c]? = some .cancelled ∨
        ∃ gone, mark < gone ∧ gone ≤ time ∧ (history.state gone).cache.get? id = none := by
    induction time, order using Nat.le_induction with
    | base =>
        rw [steps.call_succ]
        cases id? <;> exact Or.inl rfl
    | succ time order ih =>
        rcases ih with removing | dropped | ⟨gone, after, before, absent⟩
        · rcases succ_of_found removing nofun with kept | steps | dropped
          · exact Or.inl kept
          · refine Or.inr (Or.inr ⟨time + 1, Nat.lt_succ_of_lt order, le_rfl, ?_⟩)
            rw [steps.cache_succ]
            rcases covers with rfl | rfl
            · exact PartitionCache.get?_remove_self ..
            · rfl
          · exact Or.inr (Or.inl dropped)
        · exact Or.inr (Or.inl (cancelled_of_le (Nat.le_succ time) dropped))
        · exact Or.inr (Or.inr ⟨gone, after, Nat.le_succ_of_le before, absent⟩)
  rcases removal back later with removing | dropped | removed
  · cases answered.symm.trans removing
  · cases answered.symm.trans dropped
  · exact removed

/-- Once the calls that were running when an invalidation returned have returned too, the cache
holds only what was read after the mark. -/
theorem Invalidates.read_after_mark {mark back : Nat}
    (invalidates : history.Invalidates mark back id) (order : back ≤ time)
    (settles : history.Settles back time)
    (held : (history.state time).cache.get? id = some made) :
    ∃ read, mark < read ∧ read < time ∧ history.ReadFor read made := by
  by_contra unread
  obtain ⟨gone, marked, early, absent⟩ := invalidates.removes
  obtain ⟨rfl, sourced⟩ := (history.traced time).held held
  obtain ⟨place, n, after, before, installs⟩ := exists_installs (early.trans order)
    (by rw [absent]; exact nofun) held
  -- Whoever installed the instance had begun its load before the mark.
  obtain ⟨read, readBefore, reads, _⟩ := sourced
  have old : read ≤ mark := by
    by_contra late
    exact unread ⟨read, Nat.lt_of_not_le late, readBefore, reads⟩
  have numbered : made.serial < (history.state read).cache.nextSerial := by
    obtain ⟨k, reader, steps, carries⟩ := reads.reads
    exact (history.coherent read).loadNumbered steps.2 carries
  have beforeReturn : read ≤ back := by omega
  have stale (later : Nat) (afterPlace : place < later) (upTo : later ≤ time) :
      (history.state later).cache.isStale made = true := by
    by_contra fresh
    have sourced : history.Sourced later made := by
      obtain ⟨call, steps, installing⟩ := installs
      exact ((history.traced place).inHand steps.2
        (Call.instance?_of_installs installing)).2.mono afterPlace.le
    obtain ⟨again, afterMark, earlier, readsAgain⟩ := sourced.read_after_mark
      (Bool.eq_false_of_not_eq_true fresh) invalidates.marks (by omega)
    exact unread ⟨again, afterMark, by omega, readsAgain⟩
  obtain ⟨call, was, pending⟩ := installs.pending
  have inside : n < (history.state back).calls.length := by
    obtain ⟨earlier, found, _⟩ := pending_of_le (by omega) numbered was pending
    exact (List.getElem?_eq_some_iff.mp found).1.trans_le (history.length_calls_mono beforeReturn)
  have current := List.getElem?_eq_getElem inside
  generalize (history.state back).calls[n] = running at current
  cases returned : running.hasReturned with
  | true =>
      have placed : place < back := by
        by_contra late
        obtain ⟨earlier, found, still⟩ := pending_of_le (Nat.le_of_not_lt late)
          (numbered.trans_le (history.nextSerial_le beforeReturn)) was pending
        cases current.symm.trans found
        cases returned.symm.trans (Call.not_hasReturned_of_pending still)
      exact installs.absent_of_returned stale placed order current returned held
  | false =>
      obtain ⟨last, found, done⟩ := settles n running current returned
      exact installs.absent_of_returned stale before le_rfl found done held

/-! ## Deleted definitions -/

/-- At a time the store drops the document of an id, and nothing is put there until another. -/
def DeletedUntil (history : History) (gone time : Nat) (id : String) : Prop :=
  history.events[gone]? = some (.delete id) ∧ (history.state gone).store.available = true ∧
    ∀ between definition, gone < between → between < time →
      history.events[between]? = some (.put definition) → definition.id ≠ id

/-- While nothing is put under a deleted id, the store has no document of it. -/
theorem DeletedUntil.missing {gone later : Nat} (deleted : history.DeletedUntil gone time id)
    (after : gone < later) (upTo : later ≤ time) :
    (history.state later).store.documents.get? id = none := by
  obtain ⟨happens, works, unput⟩ := deleted
  induction later, after using Nat.le_induction with
  | base =>
      rw [state_succ_of_event happens, Workload.store_delete, if_pos works]
      exact Store.get?_write_self ..
  | succ later after ih =>
      have missing := ih (Nat.le_of_succ_le upTo)
      cases happens : history.events[later]? with
      | none => rwa [state_succ_of_end happens]
      | some event =>
          rw [state_succ_of_event happens]
          refine Workload.missing_next missing ?_
          rintro definition rfl
          exact unput later definition after upTo happens

/-- What is read for an instance was not deleted. -/
theorem ReadFor.not_missing {read : Nat} (reads : history.ReadFor read made) :
    (history.state read).store.documents.get? made.id ≠ none := by
  intro missing
  have found := reads.found
  rw [Store.find?, missing] at found
  cases found

/-- **What is invalidated stays out.** When an invalidation has returned, and every call that was
running then has returned too, the cache holds only what was read after the mark. So when a
definition was deleted and then cleared, whichever loads and reloads of it were under way, the cache
does not hold the rewriter. -/
theorem invalidated_stays_out {mark back : Nat} (invalidates : history.Invalidates mark back id)
    (order : back ≤ time) (settles : history.Settles back time) :
    (∀ made, (history.state time).cache.get? id = some made →
      ∃ read, mark < read ∧ read < time ∧ history.ReadFor read made) ∧
    ∀ gone < mark, history.DeletedUntil gone time id →
      (history.state time).cache.get? id = none := by
  have fresh (made : Instance) (held : (history.state time).cache.get? id = some made) :
      ∃ read, mark < read ∧ read < time ∧ history.ReadFor read made :=
    invalidates.read_after_mark order settles held
  refine ⟨fresh, ?_⟩
  intro gone before deleted
  by_contra present
  obtain ⟨made, held⟩ := Option.ne_none_iff_exists'.mp present
  obtain ⟨read, after, early, reads⟩ := fresh made held
  obtain ⟨rfl, _⟩ := (history.traced time).held held
  exact reads.not_missing (deleted.missing (before.trans after) early.le)

/-! ### A reload that is overtaken by a deletion -/

/-- A reload has found its instance not to be stale when the definition is deleted and cleared. It
installs the instance, looks again and takes it out. -/
def overtakenReload : History :=
  { racedLookup with
    events := [.put quietDefinition, .begin (.lookup "r")] ++ List.replicate 8 (.step 0)
      ++ .begin (.reload "r") :: List.replicate 6 (.step 1)
      ++ [.delete "r", .begin (.invalidate "r"), .step 2, .step 2]
      ++ List.replicate 3 (.step 1) }

/-- A reload puts back what a deletion has removed, and takes it out again. -/
theorem overtakenReload_stays_out :
    (overtakenReload.state 22).cache.contains "r" = true ∧
      (overtakenReload.state 24).cache.get? "r" = none := by
  have invalidates : overtakenReload.Invalidates 19 21 "r" :=
    ⟨2, some "r", true, Or.inl rfl, ⟨rfl, rfl⟩, rfl⟩
  have settles : overtakenReload.Settles 21 24 := by
    intro n call found running
    have calls : (overtakenReload.state 21).calls = [_, _, _] := rfl
    rw [calls] at found
    match n, found with
    | 0, found =>
      cases found
      cases running
    | 1, _ => exact ⟨.reload "r" (.answered (.ok true)), rfl, rfl⟩
    | 2, found =>
      cases found
      cases running
  have deleted : overtakenReload.DeletedUntil 17 24 "r" := by
    refine ⟨rfl, rfl, ?_⟩
    intro between definition after before happens
    interval_cases between <;> cases happens
  exact ⟨rfl, (invalidated_stays_out invalidates (by decide) settles).2 17 (by decide) deleted⟩

end History

end QueryRewriting
