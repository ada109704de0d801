import QueryRewriting.Proofs.Cache.Freshness
import QueryRewriting.Proofs.Cache.Continuation

/-! # Errors of shared loads

Instances are checked against the marks before they are handed out, errors are not: whoever waits
for a load is answered with its error, however long ago the store was asked. Lookups that begin late
fail only with what was asked for since a time, exactly if no load of their id that was asked for
before it can still fail.
-/

namespace QueryRewriting

/-- Whether an error is about the definition, and not about the store. -/
def LoadError.isDefinite : LoadError → Bool
  | .storeUnavailable _ => false
  | _ => true

/-- Whether a load ends in an error that is about the definition. -/
def failsDefinitely : Except LoadError Instance → Bool
  | .error e => e.isDefinite
  | .ok _ => false

namespace Call

variable {kinds : Kinds} {store : Store} {cache : PartitionCache} {call : Call}
  {id : String} {serial : Nat}

/-- The load of a lookup that has asked the store and may still end in a definite error. -/
def mayFail? (kinds : Kinds) : Call → Option (String × Nat)
  | .lookup id (.loading _ serial (.reading _)) => some (id, serial)
  | .lookup id (.loading _ serial (.replied stamp reply)) =>
    if failsDefinitely (Instance.compile kinds serial id stamp reply) then some (id, serial)
    else none
  | .lookup id (.publishing _ serial outcome) =>
    if failsDefinitely outcome then some (id, serial) else none
  | _ => none

/-- A load that may fail might have failed before, or has just asked the store. -/
theorem mayFail?_of_step
    (may : (call.step kinds store cache).1.mayFail? kinds = some (id, serial)) :
    call.mayFail? kinds = some (id, serial) ∨
      ∃ stamp, call.load? = some (id, serial, .asking stamp) := by
  have moves := transition_step kinds call store cache
  generalize call.step kinds store cache = result at moves may
  cases moves with
  | lookup moves =>
      cases moves with
      | moved _ moves =>
          cases moves with
          | noted => cases may
          | @admitted stamp =>
              cases may
              exact Or.inr ⟨stamp, rfl⟩
          | refused => cases may
          | told =>
              refine Or.inl ?_
              simp only [mayFail?] at may
              split at may
              · exact may
              · cases may
      | failed failure =>
          refine Or.inl ?_
          rw [mayFail?, failure]
          exact may
      | _ => cases may
  | _ => cases may

/-- A lookup that fails definitely did so before, or has just ended a load that failed. -/
theorem failed_of_step {fault : LoadError} (definite : fault.isDefinite = true)
    (fails : (call.step kinds store cache).1 = .lookup id (.answered (.error fault))) :
    call = .lookup id (.answered (.error fault)) ∨
      ∃ tries serial, call = .lookup id (.publishing tries serial (.error fault)) := by
  have moves := transition_step kinds call store cache
  generalize call.step kinds store cache = result at moves fails
  cases moves with
  | lookup moves =>
      cases moves with
      | reported =>
          cases fails
          exact Or.inr ⟨_, _, rfl⟩
      | exhausted =>
          cases fails
          cases definite
      | ended => exact Or.inl fails
      | _ => cases fails
  | _ => cases fails

end Call

namespace Workload

variable {kinds : Kinds} {work : Workload} {id : String} {count k tries serial : Nat}

/-- More events can lead a load to where its error reaches a call that came after so many others. -/
def Spoils (kinds : Kinds) (count : Nat) (work : Workload) (id : String) (serial : Nat) : Prop :=
  ∃ (events : List Event) (n k left tries : Nat) (fault : LoadError),
    count ≤ n ∧ fault.isDefinite = true ∧
    (work.run kinds events).calls[n]? = some (.lookup id (.waiting left serial)) ∧
    (work.run kinds events).calls[k]? = some (.lookup id (.publishing tries serial (.error fault)))

/-- What spoils a lookup after an event spoils it. -/
theorem spoils_of_next (event : Event)
    (spoils : (work.next kinds event).Spoils kinds count id serial) :
    work.Spoils kinds count id serial := by
  obtain ⟨events, reached⟩ := spoils
  exact ⟨event :: events, reached⟩

/-- An error that is about to be handed out spoils whoever joins before that. -/
theorem spoils_of_publishing {outcome : Except LoadError Instance} (coherent : work.Coherent)
    (early : count ≤ work.calls.length)
    (was : work.calls[k]? = some (.lookup id (.publishing tries serial outcome)))
    (fails : failsDefinitely outcome = true) : work.Spoils kinds count id serial := by
  cases outcome with
  | error fault =>
      obtain ⟨waits, publishes, _⟩ := run_rejoin kinds coherent was rfl
      exact ⟨rejoin id work, _, k, _, tries, fault, early, fails, waits, publishes⟩
  | ok made => cases fails

/-- So does a reply of which no instance can be made. -/
theorem spoils_of_replied {stamp : Nat} {reply : Except StoreError (Option Definition)}
    (coherent : work.Coherent) (early : count ≤ work.calls.length)
    (was : work.calls[k]? = some (.lookup id (.loading tries serial (.replied stamp reply))))
    (fails : failsDefinitely (Instance.compile kinds serial id stamp reply) = true) :
    work.Spoils kinds count id serial := by
  cases outcome : Instance.compile kinds serial id stamp reply with
  | error fault =>
      have compiles : (Call.lookup id (.loading tries serial (.replied stamp reply))).step kinds
          work.store work.cache =
          (.lookup id (.publishing tries serial (.error fault)), work.store, work.cache) := by
        simp only [Call.step, Lookup.step, outcome]
      obtain ⟨publishes, _⟩ := next_of_step was compiles
      rw [outcome] at fails
      exact spoils_of_next (.step k) (spoils_of_publishing (coherent.next kinds _)
        (early.trans (length_calls_next ..)) publishes fails)
  | ok made =>
      rw [outcome] at fails
      cases fails

/-- Once the definition is deleted, whoever has yet to read it finds none. -/
theorem find?_delete (work : Workload) (id : String) :
    ((work.next kinds (.outage false)).next kinds (.delete id)).store.find? id = .ok none := by
  have works : (work.next kinds (.outage false)).store.available = true := rfl
  rw [store_delete, if_pos works]
  exact Store.find?_write_none ..

/-- So does a load that has yet to read, if the definition is deleted meanwhile. -/
theorem spoils_of_reading {stamp : Nat} (coherent : work.Coherent)
    (early : count ≤ work.calls.length)
    (was : work.calls[k]? = some (.lookup id (.loading tries serial (.reading stamp)))) :
    work.Spoils kinds count id serial := by
  let deleted := (work.next kinds (.outage false)).next kinds (.delete id)
  have reads : deleted.calls[k]? = some (.lookup id (.loading tries serial (.reading stamp))) := was
  have missing : deleted.store.find? id = .ok none := find?_delete work id
  have replies : (Call.lookup id (.loading tries serial (.reading stamp))).step kinds deleted.store
      deleted.cache = (.lookup id (.loading tries serial (.replied stamp (.ok none))),
        deleted.store, deleted.cache) := by
    simp only [Call.step, Lookup.step, Load.step, missing]
  obtain ⟨replied, _⟩ := next_of_step reads replies
  have coherent :=
    ((coherent.next kinds (.outage false)).next kinds (.delete id)).next kinds (.step k)
  exact spoils_of_next (.outage false) (spoils_of_next (.delete id) (spoils_of_next (.step k)
    (spoils_of_replied coherent (early.trans (length_calls_next kinds deleted _)) replied rfl)))

/-- A load that may fail can still spoil a lookup that has yet to begin. -/
theorem Coherent.spoils (coherent : work.Coherent) {call : Call} (was : work.calls[k]? = some call)
    (may : call.mayFail? kinds = some (id, serial)) :
    work.Spoils kinds work.calls.length id serial := by
  unfold Call.mayFail? at may
  split at may
  · cases may
    exact spoils_of_reading coherent le_rfl was
  · split at may
    · rename_i fails
      cases may
      exact spoils_of_replied coherent le_rfl was fails
    · cases may
  · split at may
    · rename_i fails
      cases may
      exact spoils_of_publishing coherent le_rfl was fails
    · cases may
  · cases may

end Workload

namespace History

variable {history : History} {time since n : Nat} {id : String} {serial : Nat} {fault : LoadError}

/-- At a time a lookup fails with the error of a load, its own or one that it waited for. -/
def Fails (history : History) (time n : Nat) (id : String) (serial : Nat) (fault : LoadError) :
    Prop :=
  ∃ k tries, history.Steps time k (.lookup id (.publishing tries serial (.error fault))) ∧
    (n = k ∨ ∃ left, (history.state time).calls[n]? = some (.lookup id (.waiting left serial)))

/-- At a time the store is asked for a load. -/
def AsksFor (history : History) (time serial : Nat) : Prop :=
  ∃ stamp, history.MovesLoad time serial (.asking stamp)

/-- The store was asked for a load before a time. -/
def AskedBefore (history : History) (since serial : Nat) : Prop :=
  ∃ begun < since, history.AsksFor begun serial

/-- However a history goes on, a definite error of a lookup which has yet to begin comes from a load
for which the store was asked no earlier than at a time. -/
def ErrorsFreshFrom (history : History) (since : Nat) (id : String) : Prop :=
  ∀ later failed n serial fault, history.last.calls.length ≤ n →
    LoadError.isDefinite fault = true → (history.after later).Fails failed n id serial fault →
    ∃ begun, since ≤ begun ∧ begun < failed ∧ (history.after later).AsksFor begun serial

/-! ## Where errors come from -/

/-- A lookup that fails has the error for its answer. -/
theorem Fails.answered (fails : history.Fails time n id serial fault) :
    (history.state (time + 1)).calls[n]? = some (.lookup id (.answered (.error fault))) := by
  obtain ⟨k, tries, steps, rfl | ⟨left, waits⟩⟩ := fails
  · exact steps.call_succ
  · have distinct : k ≠ n := by
      rintro rfl
      cases steps.2.symm.trans waits
    rw [steps.next, Workload.calls_step_deliver steps.2 rfl distinct, waits]
    simp [Call.deliver, Lookup.receive]

/-- Every definite error that a lookup answers with is that of a load. -/
theorem exists_fails (definite : fault.isDefinite = true)
    (answered : (history.state time).calls[n]? = some (.lookup id (.answered (.error fault)))) :
    ∃ failed < time, ∃ serial, history.Fails failed n id serial fault := by
  induction time with
  | zero => cases answered
  | succ time ih =>
      have past (was : (history.state time).calls[n]? =
          some (.lookup id (.answered (.error fault)))) :
          ∃ failed < time + 1, ∃ serial, history.Fails failed n id serial fault := by
        obtain ⟨failed, before, fails⟩ := ih was
        exact ⟨failed, before.trans (Nat.lt_succ_self time), fails⟩
      have move := callMove_succ answered
      generalize after_eq : Call.lookup id (.answered (.error fault)) = after at move
      cases move with
      | kept was =>
          subst after_eq
          exact past was
      | @begun request => cases request <;> cases after_eq
      | stepped steps =>
          rcases Call.failed_of_step definite after_eq.symm with rfl | ⟨tries, serial, rfl⟩
          · exact past steps.2
          · exact ⟨time, Nat.lt_succ_self time, serial, n, tries, steps, Or.inl rfl⟩
      | @received k subject serial outcome left tries steps waits =>
          cases outcome <;> cases after_eq
          exact ⟨time, Nat.lt_succ_self time, serial, k, left, steps, Or.inr ⟨tries, waits⟩⟩
      | dropped => cases after_eq
      | released => cases after_eq

/-- A load that may fail could do so ever since a time, or the store has been asked since then. -/
theorem mayFail?_or_asked {start : Nat} (order : start ≤ time) {call : Call}
    (found : (history.state time).calls[n]? = some call)
    (may : call.mayFail? history.kinds = some (id, serial)) :
    (∃ earlier, (history.state start).calls[n]? = some earlier ∧
        earlier.mayFail? history.kinds = some (id, serial)) ∨
      ∃ begun, start ≤ begun ∧ begun < time ∧ history.AsksFor begun serial := by
  induction time, order using Nat.le_induction generalizing call with
  | base => exact Or.inl ⟨call, found, may⟩
  | succ time order ih =>
      have past {before : Call} (was : (history.state time).calls[n]? = some before)
          (might : before.mayFail? history.kinds = some (id, serial)) :
          (∃ earlier, (history.state start).calls[n]? = some earlier ∧
              earlier.mayFail? history.kinds = some (id, serial)) ∨
            ∃ begun, start ≤ begun ∧ begun < time + 1 ∧ history.AsksFor begun serial := by
        rcases ih was might with earlier | ⟨begun, after, asked, asks⟩
        · exact Or.inl earlier
        · exact Or.inr ⟨begun, after, asked.trans (Nat.lt_succ_self time), asks⟩
      cases callMove_succ found with
      | kept was => exact past was may
      | @begun request => cases request <;> cases may
      | @stepped before steps =>
          rcases Call.mayFail?_of_step may with might | ⟨stamp, asks⟩
          · exact past steps.2 might
          · exact Or.inr
              ⟨time, order, Nat.lt_succ_self time, stamp, rfl, n, before, id, steps, asks⟩
      | @received _ _ _ outcome => cases outcome <;> cases may
      | dropped => cases may
      | released => cases may

/-- The store has been asked for every load that may fail. -/
theorem asked_of_mayFail? {call : Call} (found : (history.state time).calls[n]? = some call)
    (may : call.mayFail? history.kinds = some (id, serial)) :
    ∃ begun < time, history.AsksFor begun serial := by
  rcases mayFail?_or_asked (Nat.zero_le time) found may with ⟨earlier, was, _⟩ | ⟨begun, _, asked⟩
  · cases was
  · exact ⟨begun, asked⟩

/-- A load asks the store once. -/
theorem AsksFor.unique {first second : Nat} (asks : history.AsksFor first serial)
    (again : history.AsksFor second serial) : first = second := by
  obtain ⟨stamp, moves⟩ := asks
  obtain ⟨other, movesAgain⟩ := again
  exact movesLoad_unique moves movesAgain rfl

/-- What a history has asked for was asked for however it continues. -/
theorem AsksFor.after (asks : history.AsksFor time serial) (later : List Event) :
    (history.after later).AsksFor time serial := by
  obtain ⟨stamp, moves⟩ := asks
  exact ⟨stamp, moves.after later⟩

/-! ## Later lookups -/

/-- If no load that may fail was asked for before, all errors from now on are of what was asked for
since. -/
theorem errorsFreshFrom_of_asked (order : since ≤ history.events.length)
    (renewed : ∀ call ∈ history.last.calls, ∀ serial,
      call.mayFail? history.kinds = some (id, serial) → ¬ history.AskedBefore since serial) :
    history.ErrorsFreshFrom since id := by
  intro later failed n serial fault late definite fails
  have reached : history.events.length < failed + 1 := lt_of_late late fails.answered
  obtain ⟨k, tries, steps, _⟩ := fails
  have may : Call.mayFail? (history.after later).kinds
      (.lookup id (.publishing tries serial (.error fault))) = some (id, serial) :=
    if_pos definite
  rcases mayFail?_or_asked (Nat.le_of_lt_succ reached) steps.2 may with
    ⟨call, was, might⟩ | ⟨begun, after, before, asks⟩
  · obtain ⟨begun, asked, asks⟩ := asked_of_mayFail? was might
    rw [state_after le_rfl] at was
    refine ⟨begun, ?_, asked.trans_le (Nat.le_of_lt_succ reached), asks⟩
    by_contra early
    obtain ⟨stamp, moves⟩ := asks
    exact renewed call (List.mem_of_getElem? was) serial might
      ⟨begun, Nat.lt_of_not_le early, stamp, moves.of_after asked⟩
  · exact ⟨begun, order.trans after, before, asks⟩

/-- If all errors from now on are of what was asked for since, no load that may fail was asked for
before. -/
theorem ErrorsFreshFrom.not_askedBefore (lasting : history.ErrorsFreshFrom since id) {call : Call}
    (present : call ∈ history.last.calls)
    (may : call.mayFail? history.kinds = some (id, serial)) :
    ¬ history.AskedBefore since serial := by
  rintro ⟨begun, before, asks⟩
  obtain ⟨k, found⟩ := List.getElem?_of_mem present
  obtain ⟨events, n, owner, left, tries, fault, late, definite, waits, publishes⟩ :=
    (history.coherent _).spoils found may
  have fails : (history.after (events ++ [.step owner])).Fails
      (history.events.length + events.length) n id serial fault := by
    refine ⟨owner, tries, steps_after_run history events publishes, Or.inr ⟨left, ?_⟩⟩
    rw [state_after_run]
    exact waits
  obtain ⟨again, after, _, asksAgain⟩ := lasting _ _ n serial fault late definite fails
  have same := asksAgain.unique (asks.after _)
  omega

/-- **Errors of shared loads.** After an invalidation, definite errors of lookups that begin later
are those of loads for which the store was asked since, exactly if no load of the id that asked
before can still fail. The mark itself makes no difference: it keeps nobody from joining a load. -/
theorem late_errors_fresh_iff (marks : history.Marks since id) :
    (∀ later {time n fault}, LoadError.isDefinite fault = true →
      ((history.after later).state time).calls[n]? =
        some (.lookup id (.answered (.error fault))) →
      ∃ failed < time, ∃ serial, (history.after later).Fails failed n id serial fault) ∧
    (history.ErrorsFreshFrom since id ↔
      ∀ call ∈ history.last.calls, ∀ serial,
        call.mayFail? history.kinds = some (id, serial) → ¬ history.AskedBefore since serial) := by
  obtain ⟨m, marker, steps, _⟩ := marks
  refine ⟨fun later _ _ _ definite answered => exists_fails definite answered, ?_,
    errorsFreshFrom_of_asked steps.lt_length.le⟩
  intro lasting call present serial may
  exact lasting.not_askedBefore present may

/-! ### A load that outlives the invalidation -/

/-- A lookup has found that there is no definition when one is put and its reload is acknowledged.
-/
def outlivedReload : History :=
  { racedLookup with
    events := .begin (.lookup "r") :: List.replicate 4 (.step 0)
      ++ [.put quietDefinition, .begin (.reload "r"), .step 1, .step 1] }

/-- Everything is invalidated while no load is under way. -/
def idleInvalidation : History :=
  { racedLookup with events := [.begin .invalidateAll, .step 0, .step 0] }

/-- The load that a reload outlives has asked for the bad document. -/
theorem outlivedReload_asks : outlivedReload.AsksFor 3 0 :=
  ⟨0, rfl, 0, _, "r", ⟨rfl, rfl⟩, rfl⟩

/-- After an invalidation at rest all errors are fresh; after the reload that a load outlives they
are not. -/
theorem idleInvalidation_errors_fresh :
    idleInvalidation.ErrorsFreshFrom 1 "r" ∧ ¬ outlivedReload.ErrorsFreshFrom 8 "r" := by
  constructor
  · have marks : idleInvalidation.Marks 1 "r" := ⟨0, _, ⟨rfl, rfl⟩, Or.inr rfl⟩
    refine (late_errors_fresh_iff marks).2.mpr ?_
    intro call present serial may
    have calls : idleInvalidation.last.calls = [.invalidation none (.answered false)] := rfl
    rw [calls, List.mem_singleton] at present
    subst present
    cases may
  · intro lasting
    have marks : outlivedReload.Marks 8 "r" := ⟨1, _, ⟨rfl, rfl⟩, Or.inl rfl⟩
    have replied : outlivedReload.last.calls[0]? =
        some (.lookup "r" (.loading 4 0 (.replied 0 (.ok none)))) := rfl
    exact (late_errors_fresh_iff marks).2.mp lasting _ (List.mem_of_getElem? replied) 0 rfl
      ⟨3, by decide, outlivedReload_asks⟩

/-- A second lookup joins the load that has found no definition. -/
def joinedLookup : History :=
  outlivedReload.after [.begin (.lookup "r"), .step 2, .step 0, .step 0]

/-- Once a reload of a definition is acknowledged, a lookup can still answer that there is none. -/
theorem joined_lookup_not_found :
    ¬ ∀ (history : History) (id : String) (mark m back failed n serial : Nat) (fault : LoadError),
      history.events.all (Event.isOrdinary id) = true →
      history.Steps mark m (.reload id .marking) →
      (history.state back).calls[m]? = some (.reload id (.answered (.ok false))) →
      (history.state back).calls.length ≤ n → fault.isDefinite = true →
      history.Fails failed n id serial fault →
      ∃ begun, mark ≤ begun ∧ history.AsksFor begun serial := by
  intro fresh
  have publishes : (joinedLookup.state 12).calls[0]? =
      some (.lookup "r" (.publishing 4 0 (.error (.notFound "r")))) := rfl
  have waits : (joinedLookup.state 12).calls[2]? = some (.lookup "r" (.waiting 4 0)) := rfl
  obtain ⟨begun, after, asks⟩ := fresh joinedLookup "r" 8 1 9 12 2 0 (.notFound "r") rfl ⟨rfl, rfl⟩
    rfl (le_of_eq rfl) rfl ⟨0, 4, ⟨rfl, publishes⟩, Or.inr ⟨4, waits⟩⟩
  have same := asks.unique (outlivedReload_asks.after _)
  omega

end History

end QueryRewriting
