import QueryRewriting.Proofs.Cache.Flights

/-! # Histories of a partition

A history begins with an empty cache over some store and goes on by events. Time counts events: the
event at a time leads from the state at that time to the next one. What is said here of all
histories is what one event preserves: marks only grow, loads are registered coherently, and no load
goes back to a stage that it has left.
-/

namespace QueryRewriting

/-- Whether an event is a step of a call, a write, or begins a lookup or a reload of an id. -/
def Event.isOrdinary (id : String) : Event → Bool
  | .begin (.lookup key) => key = id
  | .begin (.reload key) => key = id
  | .step _ => true
  | .put _ => true
  | _ => false

/-- A history of one partition: what it begins with, and all that happens, in order. -/
structure History where
  kinds : Kinds
  partition : Partition
  maxBytes : Option Nat
  store : Store
  events : List Event

namespace History

/-- The workload before the first event. -/
def start (history : History) : Workload where
  store := history.store
  cache := .empty history.partition history.maxBytes
  calls := []

/-- The workload at a time. -/
def state (history : History) (time : Nat) : Workload :=
  history.start.run history.kinds (history.events.take time)

/-- At a time a call takes a step. -/
def Steps (history : History) (time n : Nat) (call : Call) : Prop :=
  history.events[time]? = some (.step n) ∧ (history.state time).calls[n]? = some call

/-- At a time an id is marked as invalidated, alone or with all others. -/
def Marks (history : History) (time : Nat) (id : String) : Prop :=
  ∃ n call, history.Steps time n call ∧
    (call.marking? = some (some id) ∨ call.marking? = some none)

/-- At a time a lookup finds that its instance is not stale, and hands it out. -/
def HandsOut (history : History) (time n : Nat) (id : String) (made : Instance) : Prop :=
  (∃ tries, history.Steps time n (.lookup id (.verifying tries made))) ∧
    (history.state (time + 1)).calls[n]? = some (.lookup id (.answered (.ok made)))

/-- At a time the store is read for the load that made an instance, and holds its definition. -/
structure ReadFor (history : History) (time : Nat) (made : Instance) : Prop where
  reads : ∃ n call, history.Steps time n call ∧
    call.load? = some (made.id, made.serial, .reading made.stamp)
  found : (history.state time).store.find? made.id = .ok (some made.definition)
  compiled : history.kinds.load made.id made.definition = .ok made.rewriter

variable {history : History} {time : Nat}

/-! ## States -/

/-- The next state is what the event makes of this one. -/
theorem state_succ_of_event {event : Event} (happens : history.events[time]? = some event) :
    history.state (time + 1) = (history.state time).next history.kinds event := by
  have inside : time < history.events.length := (List.getElem?_eq_some_iff.mp happens).1
  have same : history.events[time] = event := (List.getElem?_eq_some_iff.mp happens).2
  simp only [state, Workload.run, List.take_succ_eq_append_getElem inside, List.foldl_append, same]
  rfl

/-- After the last event nothing changes. -/
theorem state_succ_of_end (ended : history.events[time]? = none) :
    history.state (time + 1) = history.state time := by
  have beyond := List.getElem?_eq_none_iff.mp ended
  simp only [state, List.take_of_length_le beyond,
    List.take_of_length_le (Nat.le_succ_of_le beyond)]

/-- What holds at the start and is preserved by every event holds at all times. -/
theorem state_induction {motive : Nat → Workload → Prop} (initial : motive 0 history.start)
    (preserved : ∀ time event, history.events[time]? = some event →
      motive time (history.state time) →
      motive (time + 1) ((history.state time).next history.kinds event))
    (rests : ∀ time, motive time (history.state time) → motive (time + 1) (history.state time))
    (time : Nat) : motive time (history.state time) := by
  induction time with
  | zero => exact initial
  | succ time ih =>
      cases happens : history.events[time]? with
      | none =>
          rw [state_succ_of_end happens]
          exact rests time ih
      | some event =>
          rw [state_succ_of_event happens]
          exact preserved time event happens ih

/-- Every state of a history is coherent. -/
theorem coherent (history : History) (time : Nat) : (history.state time).Coherent :=
  state_induction (motive := fun _ work => work.Coherent) (Workload.coherent_idle ..)
    (fun _ event _ before => before.next history.kinds event) (fun _ before => before) time

/-- What a call was at a time, given what it is at the next one. -/
inductive CallMove (history : History) (time n : Nat) : Call → Prop where
  | kept {call} (was : (history.state time).calls[n]? = some call) : CallMove history time n call
  | begun {request} (begins : history.events[time]? = some (.begin request)) :
      CallMove history time n (.start request)
  | stepped {call} (steps : history.Steps time n call) :
      CallMove history time n
        (call.step history.kinds (history.state time).store (history.state time).cache).1
  | received {k id serial outcome left tries}
      (steps : history.Steps time k (.lookup id (.publishing left serial outcome)))
      (waits : (history.state time).calls[n]? = some (.lookup id (.waiting tries serial))) :
      CallMove history time n (.lookup id (.receive tries outcome))
  | dropped : CallMove history time n .cancelled
  | released {id serial tries}
      (waits : (history.state time).calls[n]? = some (.lookup id (.waiting tries serial))) :
      CallMove history time n (.lookup id (.seeking tries))

/-- Where the state of a call comes from: the event has left it, begun it, moved it, or told it of
another. -/
theorem callMove_succ {n : Nat} {after : Call}
    (found : (history.state (time + 1)).calls[n]? = some after) :
    history.CallMove time n after := by
  cases happens : history.events[time]? with
  | none =>
      rw [state_succ_of_end happens] at found
      exact .kept found
  | some event =>
      rw [state_succ_of_event happens] at found
      cases Workload.becomes_next found with
      | same was => exact .kept was
      | begun begins =>
          subst begins
          exact .begun happens
      | stepped steps was =>
          subst steps
          exact .stepped ⟨happens, was⟩
      | @received k owner serial outcome id tries steps was ends waits =>
          subst steps
          obtain ⟨other, left, rfl⟩ := Call.eq_of_published ends
          -- A lookup waits for a load of its own id.
          have coherent := history.coherent time
          cases coherent.injective (coherent.awaited waits) (coherent.registered was rfl)
          exact .received ⟨happens, was⟩ waits
      | dropped => exact .dropped
      | released _ _ _ waits => exact .released waits

/-- What the load of a call was at a time, given what it is at the next one. -/
inductive LoadMove (history : History) (time n : Nat) (id : String) (serial : Nat) :
    Load → Prop where
  | kept {call load} (was : (history.state time).calls[n]? = some call)
      (carries : call.load? = some (id, serial, load))
      (unmoved : history.events[time]? ≠ some (.step n)) : LoadMove history time n id serial load
  | begun (numbered : serial = (history.state time).cache.nextSerial) :
      LoadMove history time n id serial .starting
  | moved {call before} (steps : history.Steps time n call)
      (carries : call.load? = some (id, serial, before)) (unanswered : before.hasReply = false) :
      LoadMove history time n id serial
        (before.step id (history.state time).cache.marks.clock (history.state time).store).1

/-- Where a load comes from that a call carries. -/
theorem loadMove_succ {n : Nat} {after : Call} {id : String} {serial : Nat} {load : Load}
    (found : (history.state (time + 1)).calls[n]? = some after)
    (carries : after.load? = some (id, serial, load)) :
    history.LoadMove time n id serial load := by
  cases happens : history.events[time]? with
  | none =>
      rw [state_succ_of_end happens] at found
      exact .kept found carries (by simp [happens])
  | some event =>
      rw [state_succ_of_event happens] at found
      cases Workload.loadMove_next found carries with
      | same was carried unmoved => exact .kept was carried (by simpa [happens] using unmoved)
      | begun _ numbered => exact .begun numbered
      | moved steps was carried unanswered =>
          subst steps
          exact .moved ⟨happens, was⟩ carried unanswered

/-- What the cache is made of the one at a time. -/
inductive CacheMove (history : History) (time : Nat) : PartitionCache → Prop where
  | kept : CacheMove history time (history.state time).cache
  | stepped {n call} (steps : history.Steps time n call) :
      CacheMove history time
        (call.step history.kinds (history.state time).store (history.state time).cache).2.2
  | abandoned {n call id serial} (cancels : history.events[time]? = some (.cancel n))
      (was : (history.state time).calls[n]? = some call)
      (abandons : call.abandoned? = some (id, serial)) :
      CacheMove history time ((history.state time).cache.endLoad id)
  | expired {id} (expires : history.events[time]? = some (.expire id)) :
      CacheMove history time ((history.state time).cache.remove id)

/-- What one event does to the cache. -/
theorem cacheMove_succ (history : History) (time : Nat) :
    history.CacheMove time (history.state (time + 1)).cache := by
  cases happens : history.events[time]? with
  | none =>
      rw [state_succ_of_end happens]
      exact .kept
  | some event =>
      rw [state_succ_of_event happens]
      have move := Workload.cacheMove_next history.kinds (history.state time) event
      generalize ((history.state time).next history.kinds event).cache = after at move ⊢
      cases move with
      | same => exact .kept
      | stepped steps was =>
          subst steps
          exact .stepped ⟨happens, was⟩
      | abandoned cancels was abandons =>
          subst cancels
          exact .abandoned happens was abandons
      | expired expires =>
          subst expires
          exact .expired happens

/-- At no time is a mark later than the clock. -/
theorem marks_wellFormed (history : History) (time : Nat) :
    (history.state time).cache.marks.WellFormed :=
  state_induction (motive := fun _ work => work.cache.marks.WellFormed) Marks.wellFormed_empty
    (fun _ _ _ before => (Workload.cacheMove_next ..).marks_wellFormed before)
    (fun _ before => before) time

/-- How much room the cache has never changes. -/
theorem maxBytes_state (history : History) (time : Nat) :
    (history.state time).cache.maxBytes = history.maxBytes :=
  state_induction (motive := fun _ work => work.cache.maxBytes = history.maxBytes) rfl
    (fun _ _ _ before => (Workload.cacheMove_next ..).maxBytes.trans before)
    (fun _ before => before) time

/-- What the cache holds it held before, or a call has just installed it where there is room. -/
theorem held_succ {key : String} {made : Instance}
    (held : (history.state (time + 1)).cache.get? key = some made) :
    (history.state time).cache.get? key = some made ∨
      ((∃ n call, history.Steps time n call ∧ call.installs? = some made) ∧ key = made.id ∧
        history.maxBytes ≠ some 0) := by
  have move := history.cacheMove_succ time
  generalize (history.state (time + 1)).cache = after at move held
  cases move with
  | @stepped n call steps =>
      rcases (Call.effect_step ..).get? held with before | ⟨installing, same, room⟩
      · exact Or.inl before
      · rw [history.maxBytes_state time] at room
        exact Or.inr ⟨⟨n, call, steps, installing⟩, same, room⟩
  | expired => exact Or.inl (PartitionCache.get?_of_remove held)
  | _ => exact Or.inl held

/-- A cache without any room never holds anything. -/
theorem room_of_held {key : String} {made : Instance}
    (held : (history.state time).cache.get? key = some made) : history.maxBytes ≠ some 0 := by
  induction time with
  | zero => cases held
  | succ time ih =>
      rcases held_succ held with before | ⟨_, _, room⟩
      · exact ih before
      · exact room

/-- No event forgets an invalidation, nor does a history. -/
theorem marks_precedes (history : History) {earlier later : Nat} (order : earlier ≤ later) :
    (history.state earlier).cache.marks.Precedes (history.state later).cache.marks := by
  induction later, order using Nat.le_induction with
  | base => exact .refl _
  | succ later order ih =>
      refine ih.trans ?_
      have move := history.cacheMove_succ later
      generalize (history.state (later + 1)).cache = after at move ⊢
      cases move with
      | stepped => exact (Call.effect_step ..).marks_precedes (history.marks_wellFormed later)
      | _ => exact .refl _

/-- Serial numbers are given out in order. -/
theorem nextSerial_le (history : History) {earlier later : Nat} (order : earlier ≤ later) :
    (history.state earlier).cache.nextSerial ≤ (history.state later).cache.nextSerial := by
  induction later, order using Nat.le_induction with
  | base => exact le_rfl
  | succ later order ih =>
      refine ih.trans ?_
      have move := history.cacheMove_succ later
      generalize (history.state (later + 1)).cache = after at move ⊢
      cases move with
      | stepped => exact (Call.effect_step ..).nextSerial_le
      | _ => exact le_rfl

/-! ## Steps -/

/-- The state after a step is what the step makes of it. -/
theorem Steps.next {n : Nat} {call : Call} (steps : history.Steps time n call) :
    history.state (time + 1) = (history.state time).next history.kinds (.step n) :=
  state_succ_of_event steps.1

/-- After its step a call is where the step has led it. -/
theorem Steps.call_succ {n : Nat} {call : Call} (steps : history.Steps time n call) :
    (history.state (time + 1)).calls[n]? = some
      (call.step history.kinds (history.state time).store (history.state time).cache).1 := by
  rw [steps.next]
  exact Workload.calls_step_self steps.2

/-- The cache after a step is what the step has made of it. -/
theorem Steps.cache_succ {n : Nat} {call : Call} (steps : history.Steps time n call) :
    (history.state (time + 1)).cache =
      (call.step history.kinds (history.state time).store (history.state time).cache).2.2 := by
  rw [steps.next]
  exact Workload.cache_stepCall steps.2

/-- From its mark on an id counts as invalidated since every time that the clock has shown. -/
theorem Marks.invalidatedSince {id : String} {stamp later : Nat} (marks : history.Marks time id)
    (known : stamp ≤ (history.state time).cache.marks.clock) (after : time < later) :
    (history.state later).cache.marks.invalidatedSince id stamp = true := by
  obtain ⟨n, call, steps, marking⟩ := marks
  have next : (history.state (time + 1)).cache.marks.invalidatedSince id stamp = true := by
    rw [steps.cache_succ]
    exact Call.invalidatedSince_step marking known
  exact (history.marks_precedes after).keeps id stamp next

end History

end QueryRewriting
