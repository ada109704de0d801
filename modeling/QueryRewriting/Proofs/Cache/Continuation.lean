import QueryRewriting.Proofs.Cache.Provenance

/-! # Continuing a history

What a history says of its own times stays true however it goes on. To show that something can still
happen, one event is appended after another.
-/

namespace QueryRewriting

namespace Workload

variable {kinds : Kinds} {work : Workload}

theorem run_append (kinds : Kinds) (work : Workload) (events more : List Event) :
    work.run kinds (events ++ more) = (work.run kinds events).run kinds more :=
  List.foldl_append

/-- No event takes a call away. -/
theorem length_calls_next (kinds : Kinds) (work : Workload) (event : Event) :
    work.calls.length ≤ (work.next kinds event).calls.length := by
  cases event with
  | begin request => simp [next]
  | step k =>
      simp only [next, stepCall]
      split
      · exact le_rfl
      · split <;> simp
  | cancel k =>
      simp only [next, cancelCall]
      split
      · exact le_rfl
      · split <;> simp
  | _ => exact le_rfl

/-- A step that ends no load leaves all other calls alone. -/
theorem calls_step_of_ne {k n : Nat} {call : Call} (was : work.calls[k]? = some call)
    (unended : call.published? = none) (distinct : k ≠ n) :
    (work.next kinds (.step k)).calls[n]? = work.calls[n]? := by
  simp only [next, stepCall, was, unended]
  exact List.getElem?_set_ne distinct

/-- The end of a load is delivered to all other calls. -/
theorem calls_step_deliver {k n : Nat} {call : Call} {serial : Nat}
    {outcome : Except LoadError Instance} (was : work.calls[k]? = some call)
    (ends : call.published? = some (serial, outcome)) (distinct : k ≠ n) :
    (work.next kinds (.step k)).calls[n]? = work.calls[n]?.map (Call.deliver serial outcome) := by
  simp only [next, stepCall, was, ends, List.getElem?_map]
  rw [List.getElem?_set_ne distinct]

/-- The step of a call that leaves the cache as it is. -/
theorem next_of_step {k : Nat} {call after : Call} (was : work.calls[k]? = some call)
    (steps : call.step kinds work.store work.cache = (after, work.store, work.cache)) :
    (work.next kinds (.step k)).calls[k]? = some after ∧
      (work.next kinds (.step k)).cache = work.cache := by
  rw [calls_step_self was, cache_stepCall was, steps]
  exact ⟨rfl, rfl⟩

/-- Lets a lookup of an id begin when the instance of that id has just expired. -/
def rejoin (id : String) (work : Workload) : List Event :=
  [.expire id, .begin (.lookup id), .step work.calls.length]

/-- A lookup that begins without an instance to find waits for the load under way. -/
theorem run_rejoin (kinds : Kinds) (coherent : work.Coherent) {k : Nat} {owner : Call}
    {id : String} {serial : Nat} (was : work.calls[k]? = some owner)
    (owns : owner.abandoned? = some (id, serial)) :
    (work.run kinds (rejoin id work)).calls[work.calls.length]? =
        some (.lookup id (.waiting Lookup.maxTries serial)) ∧
      (work.run kinds (rejoin id work)).calls[k]? = some owner ∧
      (work.run kinds (rejoin id work)).cache = work.cache.remove id := by
  have inside : k < work.calls.length := (List.getElem?_eq_some_iff.mp was).1
  let begun := (work.next kinds (.expire id)).next kinds (.begin (.lookup id))
  have seeks : begun.calls[work.calls.length]? = some (.lookup id .start) :=
    List.getElem?_concat_length
  have missing : begun.cache.get? id = none := PartitionCache.get?_remove_self ..
  have runs : begun.cache.loading? id = some serial := coherent.registered was owns
  have waits : (Call.lookup id .start).step kinds begun.store begun.cache =
      (.lookup id (.waiting Lookup.maxTries serial), begun.store, begun.cache) := by
    simp only [Call.step, Lookup.start, Lookup.step, missing, runs]
  obtain ⟨waiting, kept⟩ := next_of_step seeks waits
  refine ⟨waiting, ?_, kept⟩
  calc (work.run kinds (rejoin id work)).calls[k]?
      = begun.calls[k]? := calls_step_of_ne seeks rfl inside.ne'
    _ = work.calls[k]? := List.getElem?_append_left inside
    _ = some owner := was

end Workload

namespace History

variable {history : History} {time : Nat} {later : List Event}

/-- The workload at the end of a history. -/
def last (history : History) : Workload := history.state history.events.length

/-- The same history, going on with more events. -/
def after (history : History) (later : List Event) : History :=
  { history with events := history.events ++ later }

/-- There are never fewer calls later on. -/
theorem length_calls_mono (history : History) {earlier later : Nat} (order : earlier ≤ later) :
    (history.state earlier).calls.length ≤ (history.state later).calls.length := by
  induction later, order using Nat.le_induction with
  | base => exact le_rfl
  | succ later order ih =>
      refine ih.trans ?_
      cases happens : history.events[later]? with
      | none => rw [state_succ_of_end happens]
      | some event =>
          rw [state_succ_of_event happens]
          exact Workload.length_calls_next ..

/-! ## The past -/

/-- What follows a history does not change its past. -/
theorem state_after (order : time ≤ history.events.length) :
    (history.after later).state time = history.state time := by
  simp only [state, after, List.take_append_of_le_length order]
  rfl

/-- When all has happened, the state is the last one. -/
theorem state_of_length_le (order : history.events.length ≤ time) :
    history.state time = history.last := by
  simp only [last, state, List.take_of_length_le order, List.take_length]

/-- A call that begins after the end of a history is not there before. -/
theorem lt_of_late {n : Nat} {call : Call} (late : history.last.calls.length ≤ n)
    (found : ((history.after later).state time).calls[n]? = some call) :
    history.events.length < time := by
  by_contra past
  have order := Nat.le_of_not_lt past
  have inside := (List.getElem?_eq_some_iff.mp found).1
  rw [state_after order] at inside
  have grows : _ ≤ history.last.calls.length := history.length_calls_mono order
  omega

/-- Who takes a step at a time of the past does not depend on what follows. -/
theorem steps_after_iff (before : time < history.events.length) {n : Nat} {call : Call} :
    (history.after later).Steps time n call ↔ history.Steps time n call := by
  have same : (history.after later).events[time]? = history.events[time]? :=
    List.getElem?_append_left before
  unfold Steps
  rw [state_after before.le, same]

/-- A step is taken while something still happens. -/
theorem Steps.lt_length {n : Nat} {call : Call} (steps : history.Steps time n call) :
    time < history.events.length :=
  (List.getElem?_eq_some_iff.mp steps.1).1

/-- A step of a history is one of what continues it. -/
theorem Steps.after {n : Nat} {call : Call} (steps : history.Steps time n call)
    (later : List Event) : (history.after later).Steps time n call :=
  (steps_after_iff steps.lt_length).mpr steps

/-- A reading of a history is one of what continues it. -/
theorem ReadFor.after {made : Instance} (reads : history.ReadFor time made) (later : List Event) :
    (history.after later).ReadFor time made := by
  obtain ⟨⟨n, call, steps, carries⟩, found, compiled⟩ := reads
  refine ⟨⟨n, call, steps.after later, carries⟩, ?_, compiled⟩
  rw [state_after steps.lt_length.le]
  exact found

/-- A reading of a continued history that came before its continuation is one of the history. -/
theorem ReadFor.of_after {made : Instance} (reads : (history.after later).ReadFor time made)
    (before : time < history.events.length) : history.ReadFor time made := by
  obtain ⟨⟨n, call, steps, carries⟩, found, compiled⟩ := reads
  refine ⟨⟨n, call, (steps_after_iff before).mp steps, carries⟩, ?_, compiled⟩
  rw [state_after before.le] at found
  exact found

/-- The move of a load in a history is one in what continues it. -/
theorem MovesLoad.after {serial : Nat} {load : Load} (moves : history.MovesLoad time serial load)
    (later : List Event) : (history.after later).MovesLoad time serial load := by
  obtain ⟨unanswered, n, call, id, steps, carries⟩ := moves
  exact ⟨unanswered, n, call, id, steps.after later, carries⟩

/-- The move of a load in a continued history that came before its continuation is one in the
history. -/
theorem MovesLoad.of_after {serial : Nat} {load : Load}
    (moves : (history.after later).MovesLoad time serial load)
    (before : time < history.events.length) : history.MovesLoad time serial load := by
  obtain ⟨unanswered, n, call, id, steps, carries⟩ := moves
  exact ⟨unanswered, n, call, id, (steps_after_iff before).mp steps, carries⟩

/-! ## The future -/

/-- What is yet to happen takes the workload on from where the history ends. -/
theorem state_after_run (history : History) (events tail : List Event) :
    (history.after (events ++ tail)).state (history.events.length + events.length) =
      history.last.run history.kinds events := by
  have both : (history.events ++ (events ++ tail)).take
      (history.events.length + events.length) = history.events ++ events := by
    rw [List.take_length_add_append, List.take_left]
  rw [last, state, state, after, both, List.take_length, ← Workload.run_append]
  rfl

/-- Whoever is ready after more events may be the next to take a step. -/
theorem steps_after_run (history : History) (events : List Event) {n : Nat} {call : Call}
    (ready : (history.last.run history.kinds events).calls[n]? = some call) :
    (history.after (events ++ [.step n])).Steps (history.events.length + events.length) n call := by
  refine ⟨?_, ?_⟩
  · have place : history.events.length + events.length = (history.events ++ events).length := by
      rw [List.length_append]
    rw [after, place, ← List.append_assoc, List.getElem?_concat_length]
  · rw [state_after_run]
    exact ready

end History

end QueryRewriting
